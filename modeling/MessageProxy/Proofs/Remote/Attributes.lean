import MessageProxy.Proofs.Endpoint.Messages
import MessageProxy.Proofs.Endpoint.Turn
import MessageProxy.Proofs.Remote.Directory

/-!
The attributes of a remote's channels as a map: the last write to an attribute is what is read.

A write travels through the shared memory as little-endian words, which the remote takes from there
one after the other. It sets the attributes from the first on, one for each word, and no others.
-/

namespace MessageProxy.Remote

open Endpoint

variable {κ α : Type} {setup : Setup κ} {allocate : UInt64 → α → Option Region × α}

/-- The attributes after consecutive ones of a channel have been set, as far as they go. -/
def put (held : UInt32 → UInt32 → Option UInt32) (id first : UInt32) (values : List UInt32)
    (other key : UInt32) : Option UInt32 :=
  if other = id ∧ first.toNat ≤ key.toNat ∧ key.toNat < first.toNat + values.length then
    values[key.toNat - first.toNat]?
  else held other key

/-- Attributes that do not pass the largest one are set one by one. -/
theorem assign_eq_put (held : UInt32 → UInt32 → Option UInt32) (id first : UInt32)
    {values : List UInt32} (hrange : first.toNat + values.length ≤ UInt32.size) :
    assign held id first values.toArray = put held id first values := by
  funext other key
  have hsize : UInt32.size = 0x100000000 := rfl
  have hkey := key.toNat_lt
  unfold assign put
  by_cases hother : other = id
  · rw [if_pos hother, List.getElem?_toArray]
    by_cases hbefore : key.toNat < first.toNat
    · -- an attribute before the first one is far behind the last
      have hfar : values.length ≤ (key - first).toNat := by
        rw [UInt32.toNat_sub]
        omega
      rw [List.getElem?_eq_none hfar, if_neg (by omega)]
    have hindex : (key - first).toNat = key.toNat - first.toNat := by
      rw [UInt32.toNat_sub]
      omega
    rw [hindex]
    by_cases hbehind : key.toNat < first.toNat + values.length
    · have hinside : key.toNat - first.toNat < values.length := by omega
      rw [if_pos ⟨hother, by omega, hbehind⟩, List.getElem?_eq_getElem hinside]
    · rw [List.getElem?_eq_none (by omega), if_neg (by omega)]
  · rw [if_neg hother, if_neg fun hset => hother hset.1]

/-- A write is accepted: it has values, these fit the shared memory, and the channel exists. -/
def Setup.Accepts (setup : Setup κ) (channel : ChannelId) (values : List UInt32) : Prop :=
  values ≠ [] ∧ 4 * values.length ≤ setup.size.toNat ∧ (setup.channel? channel.raw).isSome = true

instance (channel : ChannelId) (values : List UInt32) : Decidable (setup.Accepts channel values) :=
  inferInstanceAs (Decidable (_ ∧ _ ∧ _))

/-- The attributes after an operation, of which only a write that is accepted changes any. -/
def written (setup : Setup κ) (held : UInt32 → UInt32 → Option UInt32) :
    Operation → UInt32 → UInt32 → Option UInt32
  | .writeAttributes channel first values =>
    if setup.Accepts channel values then put held channel.raw first values else held
  | _ => held

/-- Consecutive attributes that can all be read are their values, zero where none has been set. -/
theorem valuesFrom_of_readable {held : UInt32 → Option UInt32} {count : Nat} {first : UInt32}
    (hreadable : ∀ index < count, (held (first + index.toUInt32)).isSome ∨
      first + index.toUInt32 < Attribute.standardCount) :
    valuesFrom held count first =
      .ok ((List.range count).map fun index => (held (first + index.toUInt32)).getD 0) := by
  induction count generalizing first with
  | zero => rfl
  | succ count ih =>
    have hnext (index : Nat) : first + 1 + index.toUInt32 = first + (index + 1).toUInt32 := by
      have hsum : (index + 1).toUInt32 = index.toUInt32 + 1 := UInt32.ofNat_add index 1
      rw [hsum, UInt32.add_assoc, UInt32.add_comm 1]
    have hlater : ∀ index < count, (held (first + 1 + index.toUInt32)).isSome ∨
        first + 1 + index.toUInt32 < Attribute.standardCount := by
      intro index hindex
      rw [hnext]
      exact hreadable (index + 1) (Nat.succ_lt_succ hindex)
    have hfirst := hreadable 0 (Nat.zero_lt_succ _)
    have hzero : first + (0 : Nat).toUInt32 = first := UInt32.add_zero first
    rw [hzero] at hfirst
    simp only [valuesFrom_succ, ih hlater, hnext, List.range_succ_eq_map, List.map_cons,
      List.map_map, hzero, Function.comp_def]
    cases hvalue : held first with
    | some value => rfl
    | none =>
      rw [hvalue] at hfirst
      obtain hset | hstandard := hfirst
      · cases hset
      · rw [Option.none_or, if_pos hstandard]
        rfl

/-- A write whose values fit sets attributes of its channel, if that exists. -/
theorem run_writeAttributes {count : UInt64} (hcount : ¬count * 4 > setup.size) {state : State κ}
    {address : UInt64} (hregistered : state.registered = some address) (id first : UInt32)
    (memory : Memory) :
    (writeAttributes setup id first count).run (memory, state) =
      if (setup.channel? id).isNone then (.error .invalidParam, memory, state)
      else
        let values := Bytes.words (memory.fetch address (count * 4).toNat)
        (.ok (), memory, { state with held := assign state.held id first values.toArray }) := by
  obtain ⟨_, held, posted, received, agents⟩ := state
  cases hregistered
  unfold writeAttributes
  simp only [run_bind, run_load, if_neg hcount]
  by_cases hchannel : (setup.channel? id).isNone = true
  · simp only [if_pos hchannel]
    rfl
  · simp only [if_neg hchannel]
    rfl

/-- The remote takes the values that are in the registered memory. -/
theorem run_react_writeAttributes (hproxy : setup.hasMessageProxy = true) {state : State κ}
    {address : UInt64} (hregistered : state.registered = some address) (channel : ChannelId)
    (first : UInt32) {values : List UInt32} (hvalues : 4 * values.length ≤ setup.size.toNat)
    {memory : Memory} (hmemory : memory.fetch address (4 * values.length) = Bytes.ofWords values) :
    let call := Call.writeAttributes channel first values.length
    let after := { state with received := call :: state.received }
    (react setup call).run (memory, state) =
      if (setup.channel? channel.raw).isNone then (.error .invalidParam, memory, after)
      else (.ok 0, memory,
        { after with held := assign state.held channel.raw first values.toArray }) := by
  intro call after
  have hafter : after.registered = some address := hregistered
  have hfour : (4 : UInt64).toNat = 4 := rfl
  have hcount : values.length.toUInt64.toNat = values.length :=
    toNat_toUInt64_of_le (show values.length ≤ setup.size.toNat by omega)
  have hlength : (values.length.toUInt64 * 4).toNat = 4 * values.length := by
    have hbound := setup.size.toNat_lt
    rw [UInt64.toNat_mul, hcount, hfour]
    omega
  have hfits : ¬values.length.toUInt64 * 4 > setup.size := by
    rw [gt_iff_lt, UInt64.lt_iff_toNat_lt, hlength]
    omega
  rw [run_react hproxy rfl]
  change (do
    writeAttributes setup channel.raw.toUInt64.toUInt32 first.toUInt64.toUInt32
      values.length.toUInt64
    return 0 : Reaction κ UInt64).run (memory, after) = _
  rw [UInt32.toUInt32_toUInt64, UInt32.toUInt32_toUInt64, run_bind,
    run_writeAttributes hfits hafter, hlength, hmemory, Bytes.words_ofWords]
  by_cases hchannel : (setup.channel? channel.raw).isNone = true
  · rw [if_pos hchannel, if_pos hchannel]
  · rw [if_neg hchannel, if_neg hchannel]
    rfl

variable {endpoint : Endpoint (State κ × α)} {buffer : SharedBuffer}

/-- A write is accepted or refused, and sets just the attributes that it names if it is accepted. -/
theorem writeAttributes_connected (allocate : UInt64 → α → Option Region × α)
    (release : Region → α → α) (hconnected : Connected setup buffer endpoint) (channel : ChannelId)
    {first : UInt32} {values : List UInt32}
    (hrange : first.toNat + values.length ≤ UInt32.size) :
    let result := (Endpoint.writeAttributes (platform setup allocate release) channel first
      values).run endpoint
    result.1 = (if setup.Accepts channel values then .ok () else .error .invalidParameter) ∧
      result.2.world.state.1.held =
        written setup endpoint.world.state.1.held (.writeAttributes channel first values) := by
  dsimp only [written]
  by_cases hlocal : values = [] ∨ buffer.size.toNat < 4 * values.length
  · have hrefused : ¬setup.Accepts channel values := by
      rintro ⟨hvalues, hsize, -⟩
      rw [hconnected.fits.size] at hlocal
      obtain hempty | hlarge := hlocal
      · exact hvalues hempty
      · omega
    rw [run_writeAttributes_of_lt hconnected.holds hlocal, if_neg hrefused, if_neg hrefused]
    exact ⟨rfl, rfl⟩
  obtain ⟨hvalues, hlarge⟩ := not_or.1 hlocal
  have hsize : 4 * values.length ≤ setup.size.toNat := by
    rw [hconnected.fits.size] at hlarge
    omega
  let staged : Endpoint (State κ × α) :=
    { endpoint with world := endpoint.world.stored buffer.region (Bytes.ofWords values) }
  have hregistered : staged.world.state.1.registered = some buffer.region.base :=
    hconnected.registered
  have hmemory : staged.world.memory.fetch buffer.region.base (4 * values.length) =
      Bytes.ofWords values := by
    rw [← Bytes.length_ofWords]
    exact Memory.fetch_store _ _ _
  have hreact := run_react_writeAttributes hconnected.fits.proxy hregistered channel first hsize
    hmemory
  have hbegin : (Endpoint.writeAttributes (platform setup allocate release) channel first
      values).run endpoint = (liftM (Supervisor.command (platform setup allocate release)
        (.writeAttributes channel first values.length)) : Action _ Unit).run staged :=
    run_writeAttributes_of_le hconnected.holds hvalues (Nat.not_lt.1 hlarge)
      (hconnected.fits.le_length hsize) channel first
  dsimp only at hreact
  rw [hbegin]
  cases hchannel : setup.channel? channel.raw with
  | none =>
    have hrefused : ¬setup.Accepts channel values := by
      rintro ⟨-, -, hsome⟩
      rw [hchannel] at hsome
      cases hsome
    rw [hchannel, Option.isNone_none, if_pos rfl] at hreact
    obtain ⟨world, hcommand, -, hstate⟩ :=
      run_command_of_error allocate release (by decide) hreact
    rw [hcommand, if_neg hrefused, if_neg hrefused]
    exact ⟨rfl, by rw [hstate]; rfl⟩
  | some entry =>
    have haccepted : setup.Accepts channel values := by
      refine ⟨hvalues, hsize, ?_⟩
      rw [hchannel]
      rfl
    rw [hchannel, Option.isNone_some, if_neg Bool.false_ne_true] at hreact
    obtain ⟨world, hcommand, -, hstate⟩ := run_command_of_ok allocate release hreact
    rw [hcommand, if_pos haccepted, if_pos haccepted, ← assign_eq_put _ _ _ hrange]
    exact ⟨rfl, by rw [hstate]; rfl⟩

/-- No call but a write changes what the remote holds. -/
theorem steady_held (allocate : UInt64 → α → Option Region × α) (release : Region → α → α)
    (buffer : SharedBuffer) {allowed : Call → Prop}
    (hallowed : ∀ call, allowed call → call.function ≠ ProxyFunction.writeAttributes)
    (held : UInt32 → UInt32 → Option UInt32) :
    World.Steady (platform setup allocate release) buffer allowed
      fun world => world.state.1.held = held where
  noted _ _ hworld := hworld
  stored _ _ _ hworld := hworld
  called world call hcall hworld := by
    have huntouched : Untouched (fun state : State κ => state.held = held) call.function :=
      ⟨fun _ _ _ hstate => hstate, fun hwrite => absurd hwrite (hallowed call hcall),
        fun _ _ _ hstate => hstate, fun _ _ _ hstate => hstate⟩
    rw [state_called]
    exact keeps_react (fun _ _ hstate => hstate) huntouched setup (world.memory, world.state.1)
      hworld

/-- What an operation of an initialised endpoint does to the attributes. -/
theorem held_after (allocate : UInt64 → α → Option Region × α) (release : Region → α → α)
    (hconnected : Connected setup buffer endpoint) {operation : Operation}
    (htraffic : operation.isTraffic = true)
    (hrange : ∀ channel first values, operation = .writeAttributes channel first values →
      first.toNat + values.length ≤ UInt32.size) :
    (after (platform setup allocate release) endpoint operation).world.state.1.held =
      written setup endpoint.world.state.1.held operation := by
  have hkept (hmakes : ∀ call, operation.Makes call →
      call.function ≠ ProxyFunction.writeAttributes) :
      (after (platform setup allocate release) endpoint operation).world.state.1.held =
        endpoint.world.state.1.held :=
    (keeps_perform htraffic (steady_held allocate release buffer hmakes _) endpoint
      ⟨hconnected.holds, rfl⟩).2
  cases operation with
  | init | deinit => cases htraffic
  | writeAttributes channel first values =>
    have hrun : after (platform setup allocate release) endpoint
        (.writeAttributes channel first values) = _ := congrArg Prod.snd (run_map _ _ _)
    rw [hrun]
    exact (writeAttributes_connected allocate release hconnected channel
      (hrange channel first values rfl)).2
  | channelIds | allChannelIds =>
    apply hkept
    rintro call ⟨start, rfl⟩
    change ProxyFunction.listChannels ≠ ProxyFunction.writeAttributes
    decide
  | findChannel =>
    apply hkept
    rintro call (⟨start, rfl⟩ | ⟨channel, first, count, rfl⟩)
    · change ProxyFunction.listChannels ≠ ProxyFunction.writeAttributes
      decide
    · change ProxyFunction.readAttributes ≠ ProxyFunction.writeAttributes
      decide
  | readAttributes | openChannel =>
    apply hkept
    rintro call ⟨channel, first, count, rfl⟩
    change ProxyFunction.readAttributes ≠ ProxyFunction.writeAttributes
    decide
  | send =>
    apply hkept
    rintro call ⟨channel, message, length, rfl⟩
    change ProxyFunction.sendWithResponse ≠ ProxyFunction.writeAttributes
    decide
  | post =>
    apply hkept
    rintro call ⟨channel, message, length, rfl⟩
    change ProxyFunction.sendWithoutResponse ≠ ProxyFunction.writeAttributes
    decide

/-- After a run of traffic, the attributes are those that were written last. -/
theorem held_afterAll (hreports : setup.Reports) (hgrants : Grants allocate)
    (release : Region → α → α) {operations : List Operation}
    (htraffic : ∀ operation ∈ operations, operation.isTraffic = true)
    (hranges : ∀ channel first values, .writeAttributes channel first values ∈ operations →
      first.toNat + values.length ≤ UInt32.size)
    (halone : Alone setup endpoint) (hbuffer : endpoint.buffer = some buffer) :
    let now := afterAll (platform setup allocate release) endpoint operations
    Connected setup buffer now ∧
      now.world.state.1.held = operations.foldl (written setup) endpoint.world.state.1.held := by
  induction operations generalizing endpoint with
  | nil => exact ⟨halone.connected hbuffer, rfl⟩
  | cons operation rest ih =>
    obtain ⟨hfirst, hrest⟩ := List.forall_mem_cons.1 htraffic
    have hkept : (after (platform setup allocate release) endpoint operation).buffer =
        some buffer :=
      (since_carried (platform setup allocate release) hfirst endpoint).1.trans hbuffer
    have hrange : ∀ channel first values, operation = .writeAttributes channel first values →
        first.toNat + values.length ≤ UInt32.size := by
      rintro channel first values rfl
      exact hranges channel first values List.mem_cons_self
    have hheld := held_after allocate release (halone.connected hbuffer) hfirst hrange
    obtain ⟨hconnected, hlast⟩ := ih hrest
      (fun channel first values hlater =>
        hranges channel first values (List.mem_cons_of_mem _ hlater))
      (halone.after hreports hgrants release operation) hkept
    rw [hheld] at hlast
    exact ⟨hconnected, hlast⟩

/-- Attributes behave as a map: whatever an endpoint that is alone on a remote has done before, once
it is initialised every run of traffic leaves the attributes that the writes which are accepted set,
one after the other. The next write sets exactly the attributes that it names, or is refused and
sets none; the next read returns the values that are held, and changes none. The remote is assumed
not to refuse to set the shared memory with the code that means success. -/
theorem attributes_last_written (hreports : setup.Reports) (hgrants : Grants allocate)
    (release : Region → α → α) (agents : κ) (pages : α) (before operations : List Operation)
    (htraffic : ∀ operation ∈ operations, operation.isTraffic = true)
    (hranges : ∀ channel first values, .writeAttributes channel first values ∈ operations →
      first.toNat + values.length ≤ UInt32.size) :
    let platform := platform setup allocate release
    let start := afterAll platform
      { buffer := none, world := .fresh (.initial setup agents, pages) } before
    let now := afterAll platform start operations
    let held := now.world.state.1.held
    start.isInitialized = true →
      held = operations.foldl (written setup) start.world.state.1.held ∧
      (∀ channel first values, first.toNat + values.length ≤ UInt32.size →
        let result := (Endpoint.writeAttributes platform channel first values).run now
        result.1 =
            (if setup.Accepts channel values then .ok () else .error .invalidParameter) ∧
          result.2.world.state.1.held =
            if setup.Accepts channel values then put held channel.raw first values else held) ∧
      ∀ channel first count entry, setup.channel? channel.raw = some entry →
        entry.readFault = none → count ≠ 0 → 4 * count.toNat ≤ setup.size.toNat →
        (∀ index < count.toNat, (held channel.raw (first + index.toUInt32)).isSome = true ∨
          first + index.toUInt32 < Attribute.standardCount) →
        let result := (Endpoint.readAttributes platform channel first count).run now
        result.1 = .ok ((List.range count.toNat).map fun index =>
            (held channel.raw (first + index.toUInt32)).getD 0) ∧
          result.2.world.state.1.held = held := by
  intro platform start now held hinitialized
  have halone : Alone setup start :=
    afterAll_of_after (fun _ operation halone => halone.after hreports hgrants release operation)
      ⟨⟨rfl, rfl⟩, fun _ hbuffer => nomatch hbuffer⟩ before
  obtain ⟨buffer, hbuffer⟩ := Option.isSome_iff_exists.1 hinitialized
  obtain ⟨hconnected, hheld⟩ :=
    held_afterAll hreports hgrants release htraffic hranges halone hbuffer
  refine ⟨hheld, ?_, ?_⟩
  · intro channel first values hrange
    exact writeAttributes_connected allocate release hconnected channel hrange
  · intro channel first count entry hchannel hfault hcount hroom hreadable
    have hheld : setup.attributes held channel.raw first count =
        valuesFrom (held channel.raw) count.toNat first := by
      simp only [Setup.attributes, hchannel, hfault]
    obtain ⟨hresult, hreceived⟩ := readAttributes_of_ok allocate release hconnected hcount hroom
      (hheld.trans (valuesFrom_of_readable hreadable))
    exact ⟨hresult, hreceived.held_eq⟩

/-- A remote with room for four words and two channels, of which the first has its protocol set. -/
def Setup.attributed : Setup Unit :=
  { size := 16
    channels := [(1, { Channel.bare with attributes := [(Attribute.protocolId, 9)] }), (2, .bare)] }

/-- The second write changes one of the three attributes that the first has set; two more are
refused. Standard attributes that were never set read as zero. -/
theorem attributes_last_written_overlapping :
    let platform := platform Setup.attributed Heap.allocate Heap.release
    let start := afterAll platform
      { buffer := none, world := .fresh (.initial Setup.attributed (), Heap.fresh) } [.init]
    let now := afterAll platform start [.writeAttributes ⟨1⟩ 0x100 [5, 6, 7],
      .readAttributes ⟨1⟩ 0x100 3, .writeAttributes ⟨1⟩ 0x101 [8], .writeAttributes ⟨3⟩ 0x100 [4],
      .writeAttributes ⟨2⟩ 0x100 [1, 2, 3, 4, 5]]
    Setup.attributed.Reports ∧ Grants Heap.allocate ∧ start.isInitialized = true ∧
      ((Endpoint.readAttributes platform ⟨1⟩ 0x100 3).run now).1 = .ok [5, 8, 7] ∧
      ((Endpoint.readAttributes platform ⟨1⟩ 0 2).run now).1 = .ok [9, 0] ∧
      ((Endpoint.writeAttributes platform ⟨2⟩ 0 [1, 2, 3, 4]).run now).1 = .ok () ∧
      ((Endpoint.writeAttributes platform ⟨2⟩ 0 []).run now).1 = .error .invalidParameter := by
  intro platform start now
  have hreports : Setup.attributed.Reports := ⟨nofun, nofun⟩
  have hinitialized : start.isInitialized = true := by decide
  have hranges : ∀ channel first values, .writeAttributes channel first values ∈
      [.writeAttributes ⟨1⟩ 0x100 [5, 6, 7], .readAttributes ⟨1⟩ 0x100 3,
        .writeAttributes ⟨1⟩ 0x101 [8], .writeAttributes ⟨3⟩ 0x100 [4],
        Operation.writeAttributes ⟨2⟩ 0x100 [1, 2, 3, 4, 5]] →
      first.toNat + values.length ≤ UInt32.size := by
    intro channel first values hwrite
    simp only [List.mem_cons, Operation.writeAttributes.injEq, reduceCtorEq, List.not_mem_nil,
      or_false, false_or] at hwrite
    rcases hwrite with ⟨-, rfl, rfl⟩ | ⟨-, rfl, rfl⟩ | ⟨-, rfl, rfl⟩ | ⟨-, rfl, rfl⟩
    all_goals decide
  obtain ⟨-, hwrite, hread⟩ := attributes_last_written hreports grants_heap Heap.release ()
    Heap.fresh [.init] _ (by decide) hranges hinitialized
  refine ⟨hreports, grants_heap, hinitialized, ?_, ?_, ?_, ?_⟩
  · exact (hread ⟨1⟩ 0x100 3 _ rfl rfl (by decide) (by decide) (by decide)).1.trans rfl
  · exact (hread ⟨1⟩ 0 2 _ rfl rfl (by decide) (by decide) (by decide)).1.trans rfl
  · exact (hwrite ⟨2⟩ 0 [1, 2, 3, 4] (by decide)).1.trans (if_pos (by decide))
  · exact (hwrite ⟨2⟩ 0 [] (by decide)).1.trans (if_neg (by decide))

end MessageProxy.Remote
