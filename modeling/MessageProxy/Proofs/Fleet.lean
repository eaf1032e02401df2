import Mathlib.Data.List.Nodup
import Mathlib.Logic.Function.Basic
import MessageProxy.Heap
import MessageProxy.Proofs.Remote.Registration

/-!
Any number of endpoints on one world: which address is registered, and who owns which region.
-/

namespace MessageProxy

open Endpoint

/-- Endpoints that share a world, with who did what in it so far, and the regions that endpoints
still had when they were dropped. -/
structure Fleet (ι σ : Type) where
  buffers : ι → Option SharedBuffer
  world : World σ
  ledger : Ledger ι
  leaked : List (ι × Region)

namespace Fleet

variable {ι σ : Type} [DecidableEq ι]

/-- A fleet without buffers, in a world in which nothing has happened. -/
def fresh (state : σ) : Fleet ι σ :=
  { buffers := fun _ => none, world := .fresh state, ledger := [], leaked := [] }

/-- One endpoint of a fleet. -/
def endpoint (fleet : Fleet ι σ) (handle : ι) : Endpoint σ :=
  { buffer := fleet.buffers handle, world := fleet.world }

/-- The fleet after one endpoint has become `next`. -/
def seat (fleet : Fleet ι σ) (handle : ι) (next : Endpoint σ) : Fleet ι σ :=
  let count := next.world.history.length - fleet.world.history.length
  { fleet with
    buffers := Function.update fleet.buffers handle next.buffer
    world := next.world
    ledger := fleet.ledger.enter handle (next.world.history.take count) }

/-- Something that one endpoint of a fleet does. An endpoint that is dropped is as one that has not
been initialised. -/
inductive Step (ι : Type) where
  | operate (handle : ι) (operation : Operation)
  | drop (handle : ι)

/-- The fleet after a step. Every endpoint has a platform of its own. -/
def step (platform : ι → Platform σ) (fleet : Fleet ι σ) : Step ι → Fleet ι σ
  | .operate handle operation =>
    fleet.seat handle (after (platform handle) (fleet.endpoint handle) operation)
  | .drop handle =>
    let kept := ((deinit (platform handle)).run (fleet.endpoint handle)).2.buffer
    { fleet.seat handle (Endpoint.drop (platform handle) (fleet.endpoint handle)).2 with
      leaked := (kept.map fun buffer => (handle, buffer.region)).toList ++ fleet.leaked }

/-- The fleet after a sequence of steps. -/
def run (platform : ι → Platform σ) (fleet : Fleet ι σ) (steps : List (Step ι)) : Fleet ι σ :=
  steps.foldl (step platform) fleet

/-- The regions that are out are those that an endpoint has as its buffer and those that leaked, and
what is registered has always been the address of one of them. -/
structure Sound (buffers : ι → Option SharedBuffer) (ledger : Ledger ι)
    (leaked : List (ι × Region)) : Prop where
  backed : ledger.Backed
  balanced : ledger.Balanced
  owned : ∀ handle buffer, buffers handle = some buffer →
    (handle, buffer.region) ∈ ledger.outstanding
  unleaked : ∀ handle buffer, buffers handle = some buffer → (handle, buffer.region) ∉ leaked
  lost : ∀ entry ∈ leaked, entry ∈ ledger.outstanding
  accounted : ∀ handle region, (handle, region) ∈ ledger.outstanding →
    (∃ buffer, buffers handle = some buffer ∧ buffer.region = region) ∨ (handle, region) ∈ leaked

namespace Sound

variable {buffers : ι → Option SharedBuffer} {ledger now : Ledger ι} {leaked : List (ι × Region)}

theorem fresh : Sound (fun _ : ι => none) [] [] where
  backed := trivial
  balanced := trivial
  owned _ _ hbuffer := by cases hbuffer
  unleaked _ _ hbuffer := by cases hbuffer
  lost _ hentry := (List.not_mem_nil hentry).elim
  accounted _ _ hentry := (List.not_mem_nil hentry).elim

theorem eq_or_of_update {handle other : ι} {new : Option SharedBuffer} {buffer : SharedBuffer}
    (hbuffer : Function.update buffers handle new other = some buffer) :
    other = handle ∧ new = some buffer ∨ other ≠ handle ∧ buffers other = some buffer := by
  by_cases hother : other = handle
  · subst hother
    rw [Function.update_self] at hbuffer
    exact .inl ⟨rfl, hbuffer⟩
  · rw [Function.update_of_ne hother] at hbuffer
    exact .inr ⟨hother, hbuffer⟩

/-- A turn of one endpoint keeps a fleet sound. -/
theorem turn (hsound : Sound buffers ledger leaked) (hdistinct : ledger.Distinct)
    (hdistinctNow : now.Distinct) {handle : ι} {new : Option SharedBuffer}
    (hturn : Ledger.Turn handle ledger (buffers handle) new now) :
    Sound (Function.update buffers handle new) now leaked := by
  generalize hold : buffers handle = old at hturn
  cases hturn with
  | still houtstanding hregistered hbalanced hbacked =>
    rw [← hold, Function.update_eq_self]
    refine ⟨hbacked hsound.backed, hbalanced hsound.balanced, ?_, hsound.unleaked, ?_, ?_⟩
    · intro other buffer hbuffer
      rw [houtstanding]
      exact hsound.owned other buffer hbuffer
    · intro entry hentry
      rw [houtstanding]
      exact hsound.lost entry hentry
    · intro other region hentry
      rw [houtstanding] at hentry
      exact hsound.accounted other region hentry
  | @taken taken _ houtstanding hregistered hbalanced hbacked hfresh =>
    have habsent : (handle, taken.region) ∉ ledger.outstanding :=
      fun hmem => hfresh hdistinctNow _ hmem rfl
    refine ⟨hbacked hsound.backed, hbalanced hsound.balanced, ?_, ?_, ?_, ?_⟩
    · intro other buffer hbuffer
      rw [houtstanding]
      obtain ⟨rfl, hnew⟩ | ⟨-, hbefore⟩ := eq_or_of_update hbuffer
      · cases hnew
        exact List.mem_cons_self
      · exact List.mem_cons_of_mem _ (hsound.owned other buffer hbefore)
    · intro other buffer hbuffer
      obtain ⟨rfl, hnew⟩ | ⟨-, hbefore⟩ := eq_or_of_update hbuffer
      · cases hnew
        -- What leaked is still out, so it has not just been handed out.
        exact fun hleaked => habsent (hsound.lost _ hleaked)
      · exact hsound.unleaked other buffer hbefore
    · intro entry hentry
      rw [houtstanding]
      exact List.mem_cons_of_mem _ (hsound.lost entry hentry)
    · intro other region hentry
      rw [houtstanding] at hentry
      obtain hnew | hbefore := List.mem_cons.1 hentry
      · cases hnew
        exact .inl ⟨taken, Function.update_self .., rfl⟩
      · obtain ⟨buffer, hbuffer, hregion⟩ | hleaked := hsound.accounted other region hbefore
        · have hother : other ≠ handle := by
            rintro rfl
            rw [hold] at hbuffer
            cases hbuffer
          exact .inl ⟨buffer, (Function.update_of_ne hother ..).trans hbuffer, hregion⟩
        · exact .inr hleaked
  | @given given _ houtstanding hregistered hbalanced hbacked =>
    have hnodup : ledger.outstanding.Nodup := (Ledger.nodup_outstanding hdistinct).of_map _
    refine ⟨hbacked hsound.backed, hbalanced (hsound.owned handle given hold) hsound.balanced,
      ?_, ?_, ?_, ?_⟩
    · intro other buffer hbuffer
      obtain ⟨-, hnew⟩ | ⟨hother, hbefore⟩ := eq_or_of_update hbuffer
      · cases hnew
      · rw [houtstanding, hnodup.mem_erase_iff]
        exact ⟨fun heq => hother (congrArg Prod.fst heq), hsound.owned other buffer hbefore⟩
    · intro other buffer hbuffer
      obtain ⟨-, hnew⟩ | ⟨-, hbefore⟩ := eq_or_of_update hbuffer
      · cases hnew
      · exact hsound.unleaked other buffer hbefore
    · intro entry hentry
      rw [houtstanding, hnodup.mem_erase_iff]
      refine ⟨?_, hsound.lost entry hentry⟩
      rintro rfl
      exact hsound.unleaked handle given hold hentry
    · intro other region hentry
      rw [houtstanding, hnodup.mem_erase_iff] at hentry
      obtain ⟨hne, hbefore⟩ := hentry
      obtain ⟨buffer, hbuffer, hregion⟩ | hleaked := hsound.accounted other region hbefore
      · have hother : other ≠ handle := by
          rintro rfl
          rw [hold] at hbuffer
          cases hbuffer
          exact hne (by rw [hregion])
        exact .inl ⟨buffer, (Function.update_of_ne hother ..).trans hbuffer, hregion⟩
      · exact .inr hleaked

/-- Drops the buffer of an endpoint, whose region leaks. -/
theorem forget (hsound : Sound buffers ledger leaked) (handle : ι) :
    Sound (Function.update buffers handle none) ledger
      (((buffers handle).map fun buffer => (handle, buffer.region)).toList ++ leaked) := by
  have hkept {other : ι} {buffer : SharedBuffer}
      (hbuffer : Function.update buffers handle none other = some buffer) :
      other ≠ handle ∧ buffers other = some buffer := by
    obtain ⟨-, hnew⟩ | hbefore := eq_or_of_update hbuffer
    · cases hnew
    · exact hbefore
  have hlost {entry : ι × Region}
      (hentry : entry ∈ ((buffers handle).map fun buffer => (handle, buffer.region)).toList) :
      ∃ buffer, buffers handle = some buffer ∧ (handle, buffer.region) = entry :=
    Option.map_eq_some_iff.1 (Option.mem_toList.1 hentry)
  refine ⟨hsound.backed, hsound.balanced, ?_, ?_, ?_, ?_⟩
  · intro other buffer hbuffer
    exact hsound.owned other buffer (hkept hbuffer).2
  · intro other buffer hbuffer hleaked
    obtain ⟨hother, hbefore⟩ := hkept hbuffer
    obtain hnew | hold := List.mem_append.1 hleaked
    · obtain ⟨own, -, hentry⟩ := hlost hnew
      exact hother (congrArg Prod.fst hentry).symm
    · exact hsound.unleaked other buffer hbefore hold
  · intro entry hentry
    obtain hnew | hold := List.mem_append.1 hentry
    · obtain ⟨own, hown, rfl⟩ := hlost hnew
      exact hsound.owned handle own hown
    · exact hsound.lost entry hold
  · intro other region hentry
    obtain ⟨buffer, hbuffer, rfl⟩ | hleaked := hsound.accounted other region hentry
    · by_cases hother : other = handle
      · subst hother
        refine .inr (List.mem_append_left _ ?_)
        rw [hbuffer]
        exact List.mem_cons_self
      · exact .inl ⟨buffer, (Function.update_of_ne hother ..).trans hbuffer, rfl⟩
    · exact .inr (List.mem_append_right _ hleaked)

/-- Two endpoints have buffers at different addresses. -/
theorem handle_eq (hsound : Sound buffers ledger leaked) (hdistinct : ledger.Distinct)
    {first second : ι} {one two : SharedBuffer} (hfirst : buffers first = some one)
    (hsecond : buffers second = some two) (haddress : one.region.address = two.region.address) :
    first = second := by
  have hsame : (first, one.region) = (second, two.region) :=
    List.inj_on_of_nodup_map (Ledger.nodup_outstanding hdistinct)
      (hsound.owned first one hfirst) (hsound.owned second two hsecond) haddress
  exact congrArg Prod.fst hsame

/-- An endpoint with a buffer owns its region and no other, and one without a buffer owns none,
apart from what it leaked. -/
theorem owned_iff (hsound : Sound buffers ledger leaked) (handle : ι) (region : Region) :
    (∃ buffer, buffers handle = some buffer ∧ buffer.region = region) ↔
      (handle, region) ∈ ledger.outstanding ∧ (handle, region) ∉ leaked := by
  constructor
  · rintro ⟨buffer, hbuffer, rfl⟩
    exact ⟨hsound.owned handle buffer hbuffer, hsound.unleaked handle buffer hbuffer⟩
  · rintro ⟨hentry, hunleaked⟩
    obtain howned | hleaked := hsound.accounted handle region hentry
    · exact howned
    · exact (hunleaked hleaked).elim

end Sound

section Step

variable {platform : ι → Platform σ} {fleet : Fleet ι σ} {handle : ι} {next : Endpoint σ}

theorem buffers_seat (fleet : Fleet ι σ) (handle : ι) (next : Endpoint σ) :
    (fleet.seat handle next).buffers = Function.update fleet.buffers handle next.buffer :=
  rfl

/-- The events of a step are entered under the endpoint's name. -/
theorem ledger_seat {during : List Event}
    (hhistory : next.world.history = during ++ fleet.world.history) :
    (fleet.seat handle next).ledger = fleet.ledger.enter handle during := by
  have hcount : next.world.history.length - fleet.world.history.length = during.length := by
    rw [hhistory, List.length_append]
    omega
  have htake : next.world.history.take
      (next.world.history.length - fleet.world.history.length) = during := by
    rw [hcount, hhistory]
    exact List.take_left' rfl
  exact congrArg (fleet.ledger.enter handle ·) htake

theorem sound_seat (hsound : Sound fleet.buffers fleet.ledger fleet.leaked)
    (hturns : Turns handle (fleet.endpoint handle) next)
    (hdistinct : (fleet.seat handle next).ledger.Distinct) :
    Sound (fleet.seat handle next).buffers (fleet.seat handle next).ledger fleet.leaked := by
  obtain ⟨during, hhistory, hturn⟩ := hturns
  rw [ledger_seat hhistory] at hdistinct ⊢
  exact hsound.turn (Ledger.distinct_of_enter hdistinct) hdistinct (hturn fleet.ledger)

/-- A step of a fleet enters the events of one endpoint. -/
theorem ledger_step (platform : ι → Platform σ) (fleet : Fleet ι σ) (step : Step ι) :
    ∃ handle during, (fleet.step platform step).ledger = fleet.ledger.enter handle during ∧
      (fleet.step platform step).world.history = during ++ fleet.world.history := by
  cases step with
  | operate handle operation =>
    obtain ⟨during, hhistory, -⟩ :=
      turns_after handle (platform handle) operation (fleet.endpoint handle)
    exact ⟨handle, during, ledger_seat hhistory, hhistory⟩
  | drop handle =>
    obtain ⟨during, hhistory, -⟩ := turns_deinit handle (platform handle) (fleet.endpoint handle)
    exact ⟨handle, during, ledger_seat hhistory, hhistory⟩

/-- A step of a fleet keeps it sound. -/
theorem sound_step (hsound : Sound fleet.buffers fleet.ledger fleet.leaked) (step : Step ι)
    (hdistinct : (fleet.step platform step).ledger.Distinct) :
    Sound (fleet.step platform step).buffers (fleet.step platform step).ledger
      (fleet.step platform step).leaked := by
  cases step with
  | operate handle operation =>
    exact sound_seat hsound (turns_after handle (platform handle) operation _) hdistinct
  | drop handle =>
    have hseat := sound_seat hsound (turns_deinit handle (platform handle) _) hdistinct
    have hforgot := hseat.forget handle
    rw [buffers_seat, Function.update_self, Function.update_idem] at hforgot
    exact hforgot

theorem distinct_of_run {steps : List (Step ι)}
    (hdistinct : (fleet.run platform steps).ledger.Distinct) : fleet.ledger.Distinct := by
  induction steps generalizing fleet with
  | nil => exact hdistinct
  | cons step rest ih =>
    obtain ⟨handle, during, hledger, -⟩ := ledger_step platform fleet step
    have hnext := ih hdistinct
    rw [hledger] at hnext
    exact Ledger.distinct_of_enter hnext

/-- Every run of a fleet keeps it sound, if its allocators hand out distinct addresses. -/
theorem sound_run (hsound : Sound fleet.buffers fleet.ledger fleet.leaked) (steps : List (Step ι))
    (hdistinct : (fleet.run platform steps).ledger.Distinct) :
    Sound (fleet.run platform steps).buffers (fleet.run platform steps).ledger
      (fleet.run platform steps).leaked := by
  induction steps generalizing fleet with
  | nil => exact hsound
  | cons step rest ih => exact ih (sound_step hsound step (distinct_of_run hdistinct)) hdistinct

/-- The ledger is the history of the world, and the firmware's registration is as it says. -/
def Faithful (registered : σ → Option UInt64) (fleet : Fleet ι σ) : Prop :=
  fleet.ledger.map Prod.snd = fleet.world.history ∧
    registered fleet.world.state = History.registered fleet.world.history

theorem faithful_run {registered : σ → Option UInt64}
    (hregisters : ∀ handle, (platform handle).Registers registered)
    (hfaithful : Faithful registered fleet) (steps : List (Step ι)) :
    Faithful registered (fleet.run platform steps) := by
  induction steps generalizing fleet with
  | nil => exact hfaithful
  | cons step rest ih =>
    refine ih ⟨?_, ?_⟩
    · obtain ⟨handle, during, hledger, hhistory⟩ := ledger_step platform fleet step
      rw [hledger, hhistory, Ledger.map_snd_enter, hfaithful.1]
    · cases step with
      | operate handle operation =>
        exact after_of_invariant (hregisters handle).invariant operation hfaithful.2
      | drop handle =>
        exact keeps_deinit (hregisters handle).invariant (fleet.endpoint handle) hfaithful.2

/-- An endpoint that is dropped while the firmware refuses to take the registration back leaks its
region: it is not given back. -/
theorem step_drop_of_refused {buffer : SharedBuffer} (hbuffer : fleet.buffers handle = some buffer)
    (hanswer : (fleet.world.answer (platform handle) .deregisterMemory).error ≠ 0) :
    (fleet.step platform (.drop handle)).ledger.outstanding = fleet.ledger.outstanding ∧
      (fleet.step platform (.drop handle)).leaked = (handle, buffer.region) :: fleet.leaked := by
  have hendpoint : (fleet.endpoint handle).buffer = some buffer := hbuffer
  have hrun : (deinit (platform handle)).run (fleet.endpoint handle) =
      (.error .deviceError, { fleet.endpoint handle with
        world := (fleet.world.called (platform handle) .deregisterMemory).noted
          (.deregistrationFailed (.ofStatus (.ofCode
            (fleet.world.answer (platform handle) .deregisterMemory).error))) }) := by
    rw [run_deinit_of_some hendpoint]
    exact if_neg hanswer
  have hhistory : ((deinit (platform handle)).run (fleet.endpoint handle)).2.world.history =
      [.noted (.deregistrationFailed (.ofStatus (.ofCode
          (fleet.world.answer (platform handle) .deregisterMemory).error))),
        .called .deregisterMemory (fleet.world.answer (platform handle) .deregisterMemory)] ++
        fleet.world.history := by
    rw [hrun]
    rfl
  refine ⟨?_, ?_⟩
  · have hledger : (fleet.step platform (.drop handle)).ledger = fleet.ledger.enter handle _ :=
      ledger_seat hhistory
    rw [hledger]
    rfl
  · simp only [step, hrun, hendpoint]
    rfl

end Step

open Remote

/-- Whatever a remote refuses and whatever the allocators of any number of endpoints do, in any
order of operations and drops: from one event to the next, what is registered is the address of a
region that is out; a region is given back only while it is out; an endpoint with a buffer owns that
region and no other, and one without a buffer owns none, except for what it leaked; no two endpoints
have one region; and an endpoint that is dropped while the firmware refuses leaks its region. The
remote is assumed not to refuse to set the shared memory with the code that means success. -/
theorem no_dangling_registration {κ φ α : Type} {setup : Setup κ} (hreports : setup.Reports)
    (interposer : Interposer φ) (allocate : ι → UInt64 → α → Option Region × α)
    (release : ι → Region → α → α) (agents : κ) (memory : φ) (pages : α) (steps : List (Step ι)) :
    let platform handle := interposedPlatform setup interposer (allocate handle) (release handle)
    let fleet := (Fleet.fresh (.initial setup agents memory pages)).run platform steps
    fleet.ledger.Distinct →
      fleet.ledger.map Prod.snd = fleet.world.history ∧
      fleet.world.state.registered = fleet.ledger.registered ∧
      (∀ earlier : Ledger ι, earlier <:+ fleet.ledger → earlier.Covered) ∧
      fleet.ledger.Balanced ∧
      (∀ handle region, (∃ buffer, fleet.buffers handle = some buffer ∧ buffer.region = region) ↔
        (handle, region) ∈ fleet.ledger.outstanding ∧ (handle, region) ∉ fleet.leaked) ∧
      (∀ first second one two, fleet.buffers first = some one → fleet.buffers second = some two →
        one.region.address = two.region.address → first = second) ∧
      ∀ handle buffer, fleet.buffers handle = some buffer →
        (fleet.world.answer (platform handle) .deregisterMemory).error ≠ 0 →
        let dropped := fleet.step platform (.drop handle)
        dropped.buffers handle = none ∧
          dropped.ledger.outstanding = fleet.ledger.outstanding ∧
          dropped.leaked = (handle, buffer.region) :: fleet.leaked := by
  intro platform fleet hdistinct
  have hsound : Sound fleet.buffers fleet.ledger fleet.leaked :=
    sound_run Sound.fresh steps hdistinct
  obtain ⟨hledger, hregistered⟩ : Faithful Interposed.registered fleet :=
    faithful_run (fun handle =>
      registers_interposedPlatform interposer (allocate handle) (release handle) hreports)
      ⟨rfl, rfl⟩ steps
  refine ⟨hledger, ?_, ?_, hsound.balanced, hsound.owned_iff, ?_, ?_⟩
  · rw [hregistered, Ledger.registered, hledger]
  · intro earlier hsuffix
    exact hsound.backed.covered_of_suffix hsuffix
  · intro first second one two hfirst hsecond haddress
    exact hsound.handle_eq hdistinct hfirst hsecond haddress
  · intro handle buffer hbuffer hanswer
    exact ⟨Function.update_self .., step_drop_of_refused hbuffer hanswer⟩

/-- Of two endpoints the one that registered last is dropped, which the firmware refuses: what is
registered is the region that leaked. -/
theorem leaked_region_covered :
    let platform (_ : Bool) := interposedPlatform Setup.echoing .refusing Heap.allocate Heap.release
    let fleet := (Fleet.fresh (.initial Setup.echoing () [false, false, true] Heap.fresh)).run
      platform [.operate true .init, .operate false .init, .drop false]
    Setup.echoing.Reports ∧ fleet.ledger.Distinct ∧ fleet.ledger.Balanced ∧
      fleet.ledger.registered = some 0x3000 ∧ fleet.buffers false = none ∧
      ∃ entry ∈ fleet.ledger.outstanding, entry.2.address = 0x3000 := by
  have hdistinct : ((Fleet.fresh (.initial Setup.echoing () [false, false, true] Heap.fresh)).run
      (fun _ : Bool => interposedPlatform Setup.echoing .refusing Heap.allocate Heap.release)
      [.operate true .init, .operate false .init, .drop false]).ledger.Distinct := by
    decide
  obtain ⟨-, -, hcovered, hbalanced, -⟩ := no_dangling_registration Setup.reports_echoing
    .refusing (fun _ => Heap.allocate) (fun _ => Heap.release) () [false, false, true] Heap.fresh
    [.operate true .init, .operate false .init, .drop false] hdistinct
  have hregistered : ((Fleet.fresh (.initial Setup.echoing () [false, false, true] Heap.fresh)).run
      (fun _ : Bool => interposedPlatform Setup.echoing .refusing Heap.allocate Heap.release)
      [.operate true .init, .operate false .init, .drop false]).ledger.registered =
        some 0x3000 := by
    decide
  exact ⟨Setup.reports_echoing, hdistinct, hbalanced, hregistered, by decide,
    hcovered _ List.suffix_rfl _ hregistered⟩

end Fleet

end MessageProxy
