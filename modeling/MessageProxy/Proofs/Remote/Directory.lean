import MessageProxy.Proofs.Remote.Connection
import MessageProxy.Proofs.Endpoint.Words

/-!
What an endpoint reads of a remote's directory and attributes: the pages of the directory as the
remote lists them, and the attributes of a channel as it holds them.
-/

namespace MessageProxy.Remote

open Endpoint

variable {κ α : Type} {setup : Setup κ} {allocate : UInt64 → α → Option Region × α}
  {release : Region → α → α}

namespace Setup

/-- The ids on the page of the directory that starts at an index. -/
def pageAt (setup : Setup κ) (start : Nat) : List UInt32 :=
  (setup.ids.drop start).take setup.pageLimit.toNat

/-- The words of that page: how many ids come after it, how many are on it, and these. -/
def listing (setup : Setup κ) (start : Nat) : List UInt32 :=
  let page := setup.pageAt start
  (setup.ids.length - start - page.length).toUInt32 :: page.length.toUInt32 :: page

/-- The remote lists its directory as it is, and has room for a full page of it. -/
structure Lists (setup : Setup κ) : Prop where
  counted : setup.listedCount = none
  moving : setup.stalled = false
  countable : setup.ids.length < UInt32.size
  room : 8 + 4 * min setup.pageLimit.toNat setup.ids.length ≤ setup.size.toNat

/-- What reading consecutive attributes of a channel comes to. -/
def attributes (setup : Setup κ) (held : UInt32 → UInt32 → Option UInt32)
    (id first count : UInt32) : Except Status (List UInt32) :=
  match setup.channel? id with
  | none => .error .invalidParam
  | some channel =>
    match channel.readFault with
    | some fault => .error fault
    | none => valuesFrom (held id) count.toNat first

/-- The failures to read attributes are reported as failures; one whose code is zero reads as a
success. -/
def ReportsReads (setup : Setup κ) : Prop :=
  ∀ entry ∈ setup.channels, ∀ fault, entry.2.readFault = some fault → fault.code ≠ 0

theorem length_pageAt_le (setup : Setup κ) (start : Nat) :
    (setup.pageAt start).length ≤ min setup.pageLimit.toNat setup.ids.length := by
  simp only [pageAt, List.length_take, List.length_drop]
  omega

end Setup

/-- Reading a value and those behind it. -/
theorem valuesFrom_succ (held : UInt32 → Option UInt32) (count : Nat) (key : UInt32) :
    valuesFrom held (count + 1) key =
      match (held key).or (if key < Attribute.standardCount then some 0 else none) with
      | some value => (valuesFrom held count (key + 1)).map (value :: ·)
      | none => .error .invalidParam := by
  have hcons : ∀ value, (do return value :: (← valuesFrom held count (key + 1)) :
      Except Status (List UInt32)) = (valuesFrom held count (key + 1)).map (value :: ·) := by
    intro value
    cases valuesFrom held count (key + 1) with
    | error status => rfl
    | ok rest => rfl
  rw [valuesFrom]
  cases held key with
  | some value => exact hcons value
  | none =>
    by_cases hstandard : key < Attribute.standardCount
    · simp only [if_pos hstandard]
      exact hcons 0
    · simp only [if_neg hstandard]
      rfl

theorem length_of_valuesFrom {held : UInt32 → Option UInt32} {count : Nat} {key : UInt32}
    {values : List UInt32} (hvalues : valuesFrom held count key = .ok values) :
    values.length = count := by
  induction count generalizing key values with
  | zero =>
    cases hvalues
    rfl
  | succ count ih =>
    rw [valuesFrom_succ] at hvalues
    split at hvalues
    · cases hrest : valuesFrom held count (key + 1) with
      | error status =>
        rw [hrest] at hvalues
        cases hvalues
      | ok rest =>
        rw [hrest] at hvalues
        cases hvalues
        exact congrArg (· + 1) (ih hrest)
    · cases hvalues

theorem status_of_valuesFrom {held : UInt32 → Option UInt32} {count : Nat} {key : UInt32}
    {status : Status} (hvalues : valuesFrom held count key = .error status) :
    status = .invalidParam := by
  induction count generalizing key with
  | zero => cases hvalues
  | succ count ih =>
    rw [valuesFrom_succ] at hvalues
    split at hvalues
    · cases hrest : valuesFrom held count (key + 1) with
      | error other =>
        rw [hrest] at hvalues
        cases hvalues
        exact ih hrest
      | ok rest =>
        rw [hrest] at hvalues
        cases hvalues
    · cases hvalues
      rfl

theorem run_listChannels (hlists : setup.Lists) {state : State κ} {address : UInt64}
    (hregistered : state.registered = some address) {start : UInt64}
    (hstart : start.toNat ≤ setup.ids.length) (memory : Memory) :
    (listChannels setup start).run (memory, state) =
      (.ok (), memory.store address (Bytes.ofWords (setup.listing start.toNat)), state) := by
  have hpast : ¬start.toNat > setup.ids.length := by omega
  have hpage : (setup.ids.drop start.toNat).take
      (min (start.toNat + setup.pageLimit.toNat) setup.ids.length - start.toNat) =
        setup.pageAt start.toNat := by
    rw [Setup.pageAt, List.take_eq_take_iff, List.length_drop]
    omega
  have hlength : (setup.pageAt start.toNat).length =
      min (start.toNat + setup.pageLimit.toNat) setup.ids.length - start.toNat := by
    simp only [Setup.pageAt, List.length_take, List.length_drop]
    omega
  rw [← hlength] at hpage
  have hrest : setup.ids.length - min (start.toNat + setup.pageLimit.toNat) setup.ids.length =
      setup.ids.length - start.toNat - (setup.pageAt start.toNat).length := by omega
  have hsmall : ¬(Bytes.ofWords (setup.listing start.toNat)).length > setup.size.toNat := by
    have hbound := setup.length_pageAt_le start.toNat
    have hroom := hlists.room
    rw [Bytes.length_ofWords, Setup.listing, List.length_cons, List.length_cons]
    omega
  unfold listChannels
  simp only [if_neg hpast, hlists.counted, hlists.moving, Bool.false_eq_true, if_false, hrest,
    ← hlength, hpage]
  change (store setup (Bytes.ofWords (setup.listing start.toNat))).run (memory, state) = _
  rw [run_store, if_neg hsmall, hregistered]

/-- Reading attributes writes them to the registered memory, if they can be read and fit. -/
theorem run_readAttributes (setup : Setup κ) {state : State κ} {address : UInt64}
    (hregistered : state.registered = some address) (id first count : UInt32) (memory : Memory) :
    (readAttributes setup id first count).run (memory, state) =
      match setup.attributes state.held id first count with
      | .error status => (.error status, memory, state)
      | .ok values =>
        if 4 * values.length > setup.size.toNat then (.error .failed, memory, state)
        else (.ok (), memory.store address (Bytes.ofWords values), state) := by
  unfold readAttributes Setup.attributes
  cases setup.channel? id with
  | none => rfl
  | some channel =>
    cases hfault : channel.readFault with
    | some fault =>
      simp only [hfault]
      rfl
    | none =>
      simp only [hfault, run_bind, run_get]
      cases valuesFrom (state.held id) count.toNat first with
      | error status => rfl
      | ok values =>
        exact (run_store setup _ memory state).trans (by rw [Bytes.length_ofWords, hregistered])

/-- Between two states of an endpoint the remote has received some calls, and nothing else has
changed but the memory and the history. -/
structure Received (calls : List Call) (before after : Endpoint (State κ × α)) : Prop where
  buffer : after.buffer = before.buffer
  remote : after.world.state.1 = { before.world.state.1 with
    received := calls.reverse ++ before.world.state.1.received }
  pages : after.world.state.2 = before.world.state.2

namespace Received

variable {calls more : List Call} {before middle after : Endpoint (State κ × α)}

theorem refl (endpoint : Endpoint (State κ × α)) : Received [] endpoint endpoint :=
  ⟨rfl, rfl, rfl⟩

theorem trans (hfirst : Received calls before middle) (hsecond : Received more middle after) :
    Received (calls ++ more) before after where
  buffer := hsecond.buffer.trans hfirst.buffer
  remote := by
    rw [hsecond.remote, hfirst.remote, List.reverse_append, List.append_assoc]
  pages := hsecond.pages.trans hfirst.pages

theorem noted (hreceived : Received calls before after) (notice : Notice) :
    Received calls before { after with world := after.world.noted notice } :=
  ⟨hreceived.buffer, hreceived.remote, hreceived.pages⟩

theorem calls_eq (hreceived : Received calls before after) :
    after.world.state.1.calls = before.world.state.1.calls ++ calls := by
  rw [hreceived.remote, State.calls, State.calls, List.reverse_append, List.reverse_reverse]

theorem held_eq (hreceived : Received calls before after) :
    after.world.state.1.held = before.world.state.1.held := by
  rw [hreceived.remote]

theorem connected (hreceived : Received calls before after) {buffer : SharedBuffer}
    (hconnected : Connected setup buffer before) : Connected setup buffer after where
  holds := hreceived.buffer.trans hconnected.holds
  fits := hconnected.fits
  registered := by
    rw [hreceived.remote]
    exact hconnected.registered

end Received

theorem run_react_listChannels (hproxy : setup.hasMessageProxy = true) (hlists : setup.Lists)
    {state : State κ} {address : UInt64} (hregistered : state.registered = some address)
    {start : UInt32} (hstart : start.toNat ≤ setup.ids.length) (memory : Memory) :
    (react setup (.listChannels start)).run (memory, state) =
      (.ok 0, memory.store address (Bytes.ofWords (setup.listing start.toNat)),
        { state with received := .listChannels start :: state.received }) := by
  have hafter : State.registered { state with
      received := .listChannels start :: state.received } = some address := hregistered
  have hindex : start.toUInt64.toNat ≤ setup.ids.length := by
    rw [UInt32.toNat_toUInt64]
    exact hstart
  have hrun := run_listChannels hlists hafter hindex memory
  rw [UInt32.toNat_toUInt64] at hrun
  rw [run_react hproxy rfl]
  change (do
    listChannels setup start.toUInt64
    return 0 : Reaction κ UInt64).run _ = _
  rw [run_bind, hrun]
  rfl

theorem run_react_readAttributes (hproxy : setup.hasMessageProxy = true) {state : State κ}
    {address : UInt64} (hregistered : state.registered = some address) (channel : ChannelId)
    (first count : UInt32) (memory : Memory) :
    let after := { state with received := .readAttributes channel first count :: state.received }
    (react setup (.readAttributes channel first count)).run (memory, state) =
      match setup.attributes state.held channel.raw first count with
      | .error status => (.error status, memory, after)
      | .ok values =>
        if 4 * values.length > setup.size.toNat then (.error .failed, memory, after)
        else (.ok 0, memory.store address (Bytes.ofWords values), after) := by
  intro after
  have hafter : after.registered = some address := hregistered
  have hrun := run_readAttributes setup hafter channel.raw first count memory
  rw [show after.held = state.held from rfl] at hrun
  rw [run_react hproxy rfl]
  change (do
    readAttributes setup channel.raw.toUInt64.toUInt32 first.toUInt64.toUInt32
      count.toUInt64.toUInt32
    return 0 : Reaction κ UInt64).run (memory, after) = _
  simp only [UInt32.toUInt32_toUInt64]
  rw [run_bind, hrun]
  cases setup.attributes state.held channel.raw first count with
  | error status => rfl
  | ok values =>
    by_cases hlarge : 4 * values.length > setup.size.toNat
    · simp only [if_pos hlarge]
    · simp only [if_neg hlarge]
      rfl

namespace Setup

/-- A page of the directory, as an endpoint reads it. -/
def page (setup : Setup κ) (start : Nat) : Page :=
  let page := setup.pageAt start
  { ids := page.map ChannelId.mk
    remaining := (setup.ids.length - start - page.length).toUInt32
    returned := page.length.toUInt32 }

theorem Lists.toNat_returned (hlists : setup.Lists) (start : Nat) :
    (setup.page start).returned.toNat = (setup.pageAt start).length := by
  have hbound := setup.length_pageAt_le start
  have hcountable := hlists.countable
  exact UInt32.toNat_ofNat_of_lt' (show _ < UInt32.size by omega)

theorem Lists.toNat_remaining (hlists : setup.Lists) (start : Nat) :
    (setup.page start).remaining.toNat =
      setup.ids.length - start - (setup.pageAt start).length := by
  have hcountable := hlists.countable
  exact UInt32.toNat_ofNat_of_lt' (show _ < UInt32.size by omega)

end Setup

theorem length_of_attributes {held : UInt32 → UInt32 → Option UInt32} {id first count : UInt32}
    {values : List UInt32} (hvalues : setup.attributes held id first count = .ok values) :
    values.length = count.toNat := by
  unfold Setup.attributes at hvalues
  split at hvalues
  · cases hvalues
  · split at hvalues
    · cases hvalues
    · exact length_of_valuesFrom hvalues

theorem code_ne_of_attributes (hreports : setup.ReportsReads)
    {held : UInt32 → UInt32 → Option UInt32} {id first count : UInt32} {status : Status}
    (hstatus : setup.attributes held id first count = .error status) : status.code ≠ 0 := by
  unfold Setup.attributes at hstatus
  cases hchannel : setup.channel? id with
  | none =>
    rw [hchannel] at hstatus
    cases hstatus
    decide
  | some channel =>
    rw [hchannel] at hstatus
    dsimp only at hstatus
    cases hfault : channel.readFault with
    | some fault =>
      rw [hfault] at hstatus
      cases hstatus
      obtain ⟨entry, hentry, rfl⟩ := Option.map_eq_some_iff.1 hchannel
      exact hreports entry (List.mem_of_find?_eq_some hentry) _ hfault
    | none =>
      rw [hfault] at hstatus
      rw [status_of_valuesFrom hstatus]
      decide

variable {endpoint : Endpoint (State κ × α)} {buffer : SharedBuffer}

/-- A call whose value means nothing comes to what the remote makes of it. -/
theorem run_command_of_react (allocate : UInt64 → α → Option Region × α)
    (release : Region → α → α) {call : Call} {outcome : Except Status UInt64} {memory : Memory}
    {state : State κ}
    (hreact : (react setup call).run (endpoint.world.memory, endpoint.world.state.1) =
      (outcome, memory, state)) :
    ∃ world : World (State κ × α),
      (liftM (Supervisor.command (platform setup allocate release) call) :
          Action (State κ × α) Unit).run endpoint =
        (((Return.ofExcept outcome).toExcept.map fun _ => ()).mapError .ofStatus,
          { endpoint with world }) ∧
      world.memory = memory ∧ world.state = (state, endpoint.world.state.2) := by
  refine ⟨endpoint.world.called (platform setup allocate release) call, ?_, ?_, ?_⟩
  · rw [run_lift_supervisor, run_command, answer_platform, hreact]
  · rw [memory_called, hreact]
  · exact Prod.ext (by rw [state_called, hreact]) rfl

theorem run_command_of_ok (allocate : UInt64 → α → Option Region × α)
    (release : Region → α → α) {call : Call} {value : UInt64} {memory : Memory} {state : State κ}
    (hreact : (react setup call).run (endpoint.world.memory, endpoint.world.state.1) =
      (.ok value, memory, state)) :
    ∃ world : World (State κ × α),
      (liftM (Supervisor.command (platform setup allocate release) call) :
          Action (State κ × α) Unit).run endpoint = (.ok (), { endpoint with world }) ∧
      world.memory = memory ∧ world.state = (state, endpoint.world.state.2) := by
  have hcommand := run_command_of_react allocate release hreact
  rw [Return.toExcept_ofExcept_ok] at hcommand
  exact hcommand

theorem run_command_of_error (allocate : UInt64 → α → Option Region × α)
    (release : Region → α → α) {call : Call} {status : Status} (hcode : status.code ≠ 0)
    {memory : Memory} {state : State κ}
    (hreact : (react setup call).run (endpoint.world.memory, endpoint.world.state.1) =
      (.error status, memory, state)) :
    ∃ world : World (State κ × α),
      (liftM (Supervisor.command (platform setup allocate release) call) :
          Action (State κ × α) Unit).run endpoint =
        (.error (.ofStatus (.ofCode status.code)), { endpoint with world }) ∧
      world.memory = memory ∧ world.state = (state, endpoint.world.state.2) := by
  have hcommand := run_command_of_react allocate release hreact
  rw [Return.toExcept_ofExcept_error hcode] at hcommand
  exact hcommand

/-- An endpoint reads a page of the directory as the remote lists it. -/
theorem channelIds_connected (allocate : UInt64 → α → Option Region × α) (release : Region → α → α)
    (hconnected : Connected setup buffer endpoint) (hlists : setup.Lists) {start : UInt32}
    (hstart : start.toNat ≤ setup.ids.length) :
    let result := (channelIds (platform setup allocate release) start).run endpoint
    result.1 = .ok (setup.page start.toNat) ∧
      Received [.listChannels start] endpoint result.2 := by
  obtain ⟨world, hcommand, hmemory, hstate⟩ := run_command_of_ok allocate release
    (run_react_listChannels hconnected.fits.proxy hlists hconnected.registered hstart _)
  have hbound := setup.length_pageAt_le start.toNat
  have hroom := hlists.room
  have hsize := hconnected.fits.size
  have hrun := run_channelIds_of_shows hconnected.holds hcommand
    (show Shows buffer.region (setup.listing start.toNat) world from shows_store hmemory)
    (hlists.toNat_returned start.toNat) (by rw [hsize]; omega)
  have hreceived : Received [.listChannels start] endpoint { endpoint with world } :=
    ⟨rfl, by rw [hstate]; rfl, by rw [hstate]⟩
  rw [hrun]
  exact ⟨rfl, hreceived.noted _⟩

/-- A number of attributes that fits the shared memory is asked for, and read from there. -/
theorem run_readAttributes_fits {platform : Platform (State κ × α)}
    (hconnected : Connected setup buffer endpoint) (channel : ChannelId) (first : UInt32)
    {count : UInt32} (hcount : count ≠ 0) (hroom : 4 * count.toNat ≤ setup.size.toNat) :
    (Endpoint.readAttributes platform channel first count).run endpoint = (do
      Supervisor.command platform (.readAttributes channel first count)
      buffer.readWords 0 count : Action (State κ × α) (List UInt32)).run endpoint := by
  have hsize : ¬(count = 0 ∨ 4 * count.toNat > buffer.size.toNat) := by
    rw [hconnected.fits.size]
    rintro (hzero | hlarge)
    · exact hcount hzero
    · omega
  rw [Endpoint.readAttributes, run_withBuffer hconnected.holds, if_neg hsize]

/-- Attributes that can be read are read as the remote holds them. -/
theorem readAttributes_of_ok (allocate : UInt64 → α → Option Region × α)
    (release : Region → α → α) (hconnected : Connected setup buffer endpoint)
    {channel : ChannelId} {first count : UInt32} (hcount : count ≠ 0)
    (hroom : 4 * count.toNat ≤ setup.size.toNat) {values : List UInt32}
    (hvalues : setup.attributes endpoint.world.state.1.held channel.raw first count =
      .ok values) :
    let result := (Endpoint.readAttributes (platform setup allocate release) channel first
      count).run endpoint
    result.1 = .ok values ∧ Received [.readAttributes channel first count] endpoint result.2 := by
  have hreact := run_react_readAttributes hconnected.fits.proxy hconnected.registered channel first
    count endpoint.world.memory
  have hlength : values.length = count.toNat := length_of_attributes hvalues
  have hsmall : ¬4 * values.length > setup.size.toNat := by omega
  simp only [hvalues, if_neg hsmall] at hreact
  obtain ⟨world, hcommand, hmemory, hstate⟩ := run_command_of_ok allocate release hreact
  have hzero : (0 : UInt32).toNat = 0 := rfl
  have hafter : Shows buffer.region values (Endpoint.mk endpoint.buffer world).world :=
    shows_store hmemory
  have hwords := run_readWords hafter 0 count (by omega) (by rw [hconnected.fits.size]; omega)
  have hall : (values.drop (0 : UInt32).toNat).take count.toNat = values := by
    rw [hzero, List.drop_zero, ← hlength, List.take_length]
  rw [hall] at hwords
  rw [run_readAttributes_fits hconnected channel first hcount hroom]
  simp only [run_bind, hcommand, hwords]
  exact ⟨trivial, rfl, by rw [hstate]; rfl, by rw [hstate]⟩

/-- An endpoint reads attributes of a channel as the remote holds them, or fails if they cannot be
read. -/
theorem readAttributes_connected (allocate : UInt64 → α → Option Region × α)
    (release : Region → α → α) (hconnected : Connected setup buffer endpoint)
    (hreports : setup.ReportsReads) (channel : ChannelId) (first count : UInt32)
    (hcount : count ≠ 0) (hroom : 4 * count.toNat ≤ setup.size.toNat) :
    let result := (Endpoint.readAttributes (platform setup allocate release) channel first
      count).run endpoint
    (match setup.attributes endpoint.world.state.1.held channel.raw first count with
      | .ok values => result.1 = .ok values
      | .error _ => ∃ fault, result.1 = .error fault) ∧
      Received [.readAttributes channel first count] endpoint result.2 := by
  cases hvalues : setup.attributes endpoint.world.state.1.held channel.raw first count with
  | error status =>
    have hreact := run_react_readAttributes hconnected.fits.proxy hconnected.registered channel
      first count endpoint.world.memory
    simp only [hvalues] at hreact
    obtain ⟨world, hcommand, -, hstate⟩ := run_command_of_error allocate release
      (code_ne_of_attributes hreports hvalues) hreact
    rw [run_readAttributes_fits hconnected channel first hcount hroom]
    simp only [run_bind, hcommand]
    exact ⟨⟨_, rfl⟩, rfl, by rw [hstate]; rfl, by rw [hstate]⟩
  | ok values => exact readAttributes_of_ok allocate release hconnected hcount hroom hvalues

end MessageProxy.Remote
