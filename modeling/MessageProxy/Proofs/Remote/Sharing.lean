import MessageProxy.Proofs.Holder
import MessageProxy.Proofs.Remote.Directory
import MessageProxy.Proofs.Remote.Exchange

/-!
Several endpoints on one remote, which has room for one registration.

The endpoint that has set the registration last is served through its own buffer. Another one that
is initialised is not, and is not told so either.
-/

namespace MessageProxy.Remote

open Endpoint

variable {κ α : Type} {setup : Setup κ} {endpoint : Endpoint (State κ × α)} {buffer : SharedBuffer}

/-- A page behind the end of the directory is refused. -/
theorem channelIds_of_gt (allocate : UInt64 → α → Option Region × α) (release : Region → α → α)
    (hconnected : Connected setup buffer endpoint) {start : UInt32}
    (hstart : setup.ids.length < start.toNat) :
    ∃ fault, ((channelIds (platform setup allocate release) start).run endpoint).1 =
      .error fault := by
  have hpast : start.toUInt64.toNat > setup.ids.length := by
    rw [UInt32.toNat_toUInt64]
    exact hstart
  have hreact : (react setup (.listChannels start)).run
      (endpoint.world.memory, endpoint.world.state.1) =
        (.error .invalidParam, endpoint.world.memory, { endpoint.world.state.1 with
          received := .listChannels start :: endpoint.world.state.1.received }) := by
    rw [run_react hconnected.fits.proxy rfl]
    change (do
      listChannels setup start.toUInt64
      return 0 : Reaction κ UInt64).run _ = _
    rw [run_bind, listChannels, if_pos hpast]
    rfl
  obtain ⟨world, hcommand, -, -⟩ := run_command_of_error allocate release (by decide) hreact
  rw [channelIds, run_withBuffer hconnected.holds, run_bind, hcommand]
  exact ⟨_, rfl⟩

/-- Attributes that are read are the ones that the remote has. -/
theorem attributes_of_readAttributes (allocate : UInt64 → α → Option Region × α)
    (release : Region → α → α) (hconnected : Connected setup buffer endpoint)
    (hreads : setup.ReportsReads) {channel : ChannelId} {first count : UInt32}
    {values : List UInt32}
    (hvalues : ((Endpoint.readAttributes (platform setup allocate release) channel first
      count).run endpoint).1 = .ok values) :
    setup.attributes endpoint.world.state.1.held channel.raw first count = .ok values := by
  by_cases hrefused : count = 0 ∨ 4 * count.toNat > buffer.size.toNat
  · rw [Endpoint.readAttributes, run_withBuffer hconnected.holds, if_pos hrefused] at hvalues
    cases hvalues
  · obtain ⟨hcount, hroom⟩ := not_or.1 hrefused
    rw [hconnected.fits.size] at hroom
    obtain ⟨hread, -⟩ := readAttributes_connected allocate release hconnected hreads channel first
      count hcount (Nat.le_of_not_gt hroom)
    cases hheld : setup.attributes endpoint.world.state.1.held channel.raw first count with
    | ok held =>
      rw [hheld] at hread
      exact congrArg _ (Except.ok.inj (hread.symm.trans hvalues))
    | error status =>
      rw [hheld] at hread
      obtain ⟨fault, hfault⟩ := hread
      cases hfault.symm.trans hvalues

/-- What comes back of a message, if anything does, is the reply to it. -/
theorem reply_of_send (allocate : UInt64 → α → Option Region × α) (release : Region → α → α)
    (hconnected : Connected setup buffer endpoint) (hreported : setup.reportedLength = none)
    {channel : ChannelId} {message : UInt32} {request response : Bytes} {capacity : Nat}
    (hsend : ((send (platform setup allocate release) channel message request capacity).run
      endpoint).1 = .ok response) (hresponse : response ≠ []) :
    (reply setup channel.raw message request endpoint.world.state.1.agents).1 = .ok response := by
  have hsize := hconnected.fits.size
  have hsmall : request.length < buffer.size.toNat := by
    by_contra hlarge
    rw [run_send_of_le hconnected.holds (Nat.le_of_not_lt hlarge)] at hsend
    cases hsend
  have hrequest : request.length < setup.size.toNat := hsize ▸ hsmall
  cases hreply : (reply setup channel.raw message request endpoint.world.state.1.agents).1 with
  | ok replied =>
    obtain ⟨-, -, hdelivered⟩ := send_connected allocate release hconnected hreported hrequest
      channel message capacity
    rw [hdelivered replied hreply, delivered] at hsend
    split at hsend
    · cases hsend
    · split at hsend
      · cases hsend
        exact absurd rfl hresponse
      · split at hsend
        · cases hsend
        · cases hsend
          rfl
  | error status =>
    -- A failure is read as one, or else as a response without bytes.
    have hreact := run_react_staged hconnected hrequest channel message
    simp only [hreply] at hreact
    rw [run_send_of_lt hconnected.holds hsmall
      (hconnected.fits.le_length (Nat.le_of_lt hrequest))] at hsend
    dsimp only at hsend
    rw [answer_platform, hreact] at hsend
    by_cases hcode : status.code = 0
    · simp only [Return.toExcept_ofExcept_of_code_eq_zero hcode, if_true] at hsend
      cases hsend
      exact absurd rfl hresponse
    · simp only [Return.toExcept_ofExcept_error hcode] at hsend
      cases hsend

section Fleet

open Fleet

variable {ι : Type} [DecidableEq ι] {allocate : ι → UInt64 → α → Option Region × α}

/-- Every buffer that a step leaves fits, if those before it did. -/
theorem fits_step (hgrants : ∀ handle, Grants (allocate handle)) (release : ι → Region → α → α)
    {fleet : Fleet ι (State κ × α)}
    (hfits : ∀ handle buffer, fleet.buffers handle = some buffer → Fits setup buffer)
    (step : Step ι) :
    ∀ handle buffer, (fleet.step (fun handle => platform setup (allocate handle) (release handle))
      step).buffers handle = some buffer → Fits setup buffer := by
  intro other buffer hbuffer
  cases step with
  | operate handle operation =>
    obtain ⟨rfl, hnew⟩ | ⟨-, hbefore⟩ := Sound.eq_or_of_update hbuffer
    · exact fits_after (hgrants other) (hfits other) operation buffer hnew
    · exact hfits other buffer hbefore
  | drop handle =>
    obtain ⟨-, hnew⟩ | ⟨-, hbefore⟩ := Sound.eq_or_of_update hbuffer
    · cases hnew
    · exact hfits other buffer hbefore

theorem fits_run (hgrants : ∀ handle, Grants (allocate handle)) (release : ι → Region → α → α)
    {fleet : Fleet ι (State κ × α)}
    (hfits : ∀ handle buffer, fleet.buffers handle = some buffer → Fits setup buffer)
    (steps : List (Step ι)) :
    ∀ handle buffer, (fleet.run (fun handle => platform setup (allocate handle) (release handle))
      steps).buffers handle = some buffer → Fits setup buffer := by
  induction steps generalizing fleet with
  | nil => exact hfits
  | cons step rest ih => exact ih (fits_step hgrants release hfits step)

/-- Any number of endpoints on one remote, after any operations and drops: an endpoint that is
initialised has its own buffer registered just when nobody has set the registration after it did.
Then whatever it reads of the directory and of attributes is what the remote has, and a response
that is not empty is the reply to that very message. The remote is assumed not to refuse to set the
shared memory, or to read attributes, with the code that means success. -/
theorem holder_served {setup : Setup κ} (hreports : setup.Reports) (hreads : setup.ReportsReads)
    (hlists : setup.Lists) (hreported : setup.reportedLength = none)
    (hgrants : ∀ handle, Grants (allocate handle)) (release : ι → Region → α → α) (agents : κ)
    (pages : α) (steps : List (Step ι)) :
    let platform handle := platform setup (allocate handle) (release handle)
    let fleet := (Fleet.fresh (.initial setup agents, pages)).run platform steps
    fleet.ledger.Distinct → ∀ handle buffer, fleet.buffers handle = some buffer →
      let remote := fleet.world.state.1
      let endpoint := fleet.endpoint handle
      (remote.registered = some buffer.region.address ↔ fleet.ledger.setter = some handle) ∧
      (fleet.ledger.setter = some handle →
        (∀ start page, ((channelIds (platform handle) start).run endpoint).1 = .ok page →
          page = setup.page start.toNat) ∧
        (∀ channel first count values,
          ((Endpoint.readAttributes (platform handle) channel first count).run endpoint).1 =
              .ok values →
            setup.attributes remote.held channel.raw first count = .ok values) ∧
        ∀ channel message request capacity response,
          ((send (platform handle) channel message request capacity).run endpoint).1 =
              .ok response → response ≠ [] →
            (reply setup channel.raw message request remote.agents).1 = .ok response) := by
  intro platform fleet hdistinct handle buffer hbuffer remote endpoint
  have hsound : Sound fleet.buffers fleet.ledger fleet.leaked :=
    sound_run Sound.fresh steps hdistinct
  have hheld : Held fleet.buffers fleet.ledger := held_run Held.fresh steps
  obtain ⟨hledger, hfaithful⟩ : Faithful (fun state => state.1.registered) fleet :=
    faithful_run (fun handle => registers_platform hreports (allocate handle) (release handle))
      ⟨rfl, rfl⟩ steps
  have hregistered : remote.registered = fleet.ledger.registered := by
    rw [Ledger.registered, hledger]
    exact hfaithful
  have hiff := hheld.registered_iff hsound hdistinct hbuffer
  rw [← hregistered] at hiff
  refine ⟨hiff, fun hsetter => ?_⟩
  have hfits : Fits setup buffer := by
    refine fits_run hgrants release ?_ steps handle buffer hbuffer
    intro _ _ hnone
    cases hnone
  have hconnected : Connected setup buffer endpoint :=
    ⟨hbuffer, hfits, (hiff.2 hsetter).trans (congrArg some hfits.mapped.symm)⟩
  refine ⟨?_, ?_, ?_⟩
  · intro start page hpage
    by_cases hstart : start.toNat ≤ setup.ids.length
    · obtain ⟨hlisted, -⟩ :=
        channelIds_connected (allocate handle) (release handle) hconnected hlists hstart
      exact Except.ok.inj (hpage.symm.trans hlisted)
    · obtain ⟨fault, hfault⟩ := channelIds_of_gt (allocate handle) (release handle) hconnected
        (Nat.lt_of_not_le hstart)
      cases hpage.symm.trans hfault
  · intro channel first count values hvalues
    exact attributes_of_readAttributes (allocate handle) (release handle) hconnected hreads hvalues
  · intro channel message request capacity response hsend hresponse
    exact reply_of_send (allocate handle) (release handle) hconnected hreported hsend hresponse

/-- A remote with one channel, whose first attribute is seven. -/
def single : Setup Unit :=
  ({ size := 16 } : Setup Unit).withChannel 1 fun channel => channel.setAttributes [(0, 7)]

/-- Of two endpoints on a remote, only the one that was initialised last is registered. The other
one is initialised as well, but reads a zero where the remote has a seven. -/
theorem unregistered_while_initialized :
    let platform (_ : Bool) := platform single Heap.allocate Heap.release
    let fleet := (Fleet.fresh (.initial single (), Heap.fresh)).run platform
      [.operate true .init, .operate false .init]
    ∃ buffer, fleet.buffers true = some buffer ∧
      fleet.world.state.1.registered ≠ some buffer.region.address ∧
      ((Endpoint.readAttributes (platform true) ⟨1⟩ 0 1).run (fleet.endpoint true)).1 = .ok [0] ∧
      single.attributes fleet.world.state.1.held 1 0 1 = .ok [7] := by
  exact ⟨_, rfl, by decide, rfl, rfl⟩

/-- The one that was initialised last is registered, and reads what the remote has. -/
theorem holder_served_single :
    let platform (_ : Bool) := platform single Heap.allocate Heap.release
    let fleet := (Fleet.fresh (.initial single (), Heap.fresh)).run platform
      [.operate true .init, .operate false .init]
    single.Reports ∧ single.ReportsReads ∧ single.Lists ∧ Grants Heap.allocate ∧
      fleet.ledger.Distinct ∧ fleet.ledger.setter = some false ∧
      ∃ buffer, fleet.buffers false = some buffer ∧
        fleet.world.state.1.registered = some buffer.region.address ∧
        ((Endpoint.readAttributes (platform false) ⟨1⟩ 0 1).run (fleet.endpoint false)).1 =
          .ok [7] ∧
        single.attributes fleet.world.state.1.held 1 0 1 = .ok [7] := by
  intro platform fleet
  have hreports : single.Reports := ⟨nofun, nofun⟩
  have hreads : single.ReportsReads := by
    intro entry hentry fault hfault
    cases List.mem_singleton.1 hentry
    cases hfault
  have hlists : single.Lists := ⟨rfl, rfl, by decide, by decide⟩
  have hdistinct : fleet.ledger.Distinct := by decide
  have hsetter : fleet.ledger.setter = some false := by decide
  have hread : ((Endpoint.readAttributes (platform false) ⟨1⟩ 0 1).run (fleet.endpoint false)).1 =
      .ok [7] := rfl
  obtain ⟨hiff, hserved⟩ := holder_served hreports hreads hlists rfl (fun _ => grants_heap)
    (fun _ => Heap.release) () Heap.fresh [.operate true .init, .operate false .init] hdistinct
    false _ rfl
  obtain ⟨-, hattributes, -⟩ := hserved hsetter
  exact ⟨hreports, hreads, hlists, grants_heap, hdistinct, hsetter, _, rfl, hiff.2 hsetter, hread,
    hattributes _ _ _ _ hread⟩

end Fleet

end MessageProxy.Remote
