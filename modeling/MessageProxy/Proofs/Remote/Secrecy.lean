import MessageProxy.Proofs.Endpoint.Operation
import MessageProxy.Proofs.Remote.Blind

/-!
What a shared buffer still holds stays in it.

The buffer is never cleared, and a message or a page rarely fills it. Yet what an endpoint returns
and what its remote gets to see do not depend on what the buffer held before: whatever is read from
it was written just before, by the other side and in the same operation.
-/

namespace MessageProxy.Remote

open Endpoint

variable {κ α β : Type} {setup : Setup κ} {allocate : UInt64 → α → Option Region × α}
  {release : Region → α → α} {buffer : SharedBuffer} {staged : Bytes}

/-- Two endpoints with the same buffer, whose remotes are related and which have seen the same. -/
structure Over (buffer : SharedBuffer) (T : Memory × State κ → Memory × State κ → Prop)
    (first second : Endpoint (State κ × α)) : Prop where
  holds : first.buffer = some buffer
  holds_second : second.buffer = some buffer
  related : T (first.world.memory, first.world.state.1) (second.world.memory, second.world.state.1)
  pages : second.world.state.2 = first.world.state.2
  history : second.world.history = first.world.history

/-- Two endpoints that differ at most in what their buffer holds behind the bytes `staged`. -/
def Alike (buffer : SharedBuffer) (staged : Bytes) :
    Endpoint (State κ × α) → Endpoint (State κ × α) → Prop :=
  Over buffer (Front buffer.region.base staged)

namespace Over

variable {T U : Memory × State κ → Memory × State κ → Prop}
  {first second : Endpoint (State κ × α)}

theorem mono (hover : Over buffer T first second)
    (hrelated : ∀ one other, T one other → U one other) : Over buffer U first second :=
  ⟨hover.holds, hover.holds_second, hrelated _ _ hover.related, hover.pages, hover.history⟩

theorem noted (hover : Over buffer T first second) (notice : Notice) :
    Over buffer T { first with world := first.world.noted notice }
      { second with world := second.world.noted notice } :=
  ⟨hover.holds, hover.holds_second, hover.related, hover.pages,
    congrArg (Event.noted notice :: ·) hover.history⟩

end Over

theorem Alike.behind {first second : Endpoint (State κ × α)}
    (halike : Alike buffer staged first second) : Alike buffer [] first second :=
  halike.mono fun _ _ hfront => hfront.behind

/-- The endpoints end up alike when an action fails. -/
abbrev failed (buffer : SharedBuffer) (_ : Fault) :
    Endpoint (State κ × α) → Endpoint (State κ × α) → Prop :=
  Alike buffer []

variable {T : Memory × State κ → Memory × State κ → Prop}
  {E : Fault → Endpoint (State κ × α) → Endpoint (State κ × α) → Prop}
  {S : β → Endpoint (State κ × α) → Endpoint (State κ × α) → Prop}

theorem blind_pure {value : β} :
    Blind (Alike buffer staged) E (pure value : Action (State κ × α) β) fun _ => Alike buffer [] :=
  .pure fun _ _ halike => halike.behind

theorem blind_throw_fault {fault : Fault} :
    Blind (Alike buffer staged) (failed buffer) (throw fault : Action (State κ × α) β) S :=
  .throw fun _ _ halike => halike.behind

theorem blind_note (notice : Notice) :
    Blind (Over buffer T) E (note notice : Action (State κ × α) Unit) fun _ => Over buffer T :=
  fun _ _ hover => ⟨rfl, hover.noted notice⟩

theorem blind_refuse (reason : Refusal) :
    Blind (Alike buffer staged) (failed buffer) (refuse reason : Action (State κ × α) β) S :=
  fun _ _ halike => ⟨rfl, Alike.behind (halike.noted _)⟩

theorem blind_withBuffer {absent : Fault} {use : SharedBuffer → Action (State κ × α) β}
    (huse : Blind (Over buffer T) E (use buffer) S) :
    Blind (Over buffer T) E (Action.withBuffer absent use) S := by
  intro first second hover
  rw [run_withBuffer hover.holds, run_withBuffer hover.holds_second]
  exact huse first second hover

/-- A call is answered alike, and how the endpoints are related then is up to what the remote made
of it. A failure whose code is zero is answered like the value zero. -/
theorem blind_request (allocate : UInt64 → α → Option Region × α) (release : Region → α → α)
    {call : Call} {T U : Memory × State κ → Memory × State κ → Prop}
    {S : UInt64 → Memory × State κ → Memory × State κ → Prop} {P : Status → Prop}
    (hreact : Blind T (fun status one other => P status ∧ U one other) (react setup call) S)
    (hzero : ∀ status one other, status.code = 0 → P status → U one other → S 0 one other) :
    Blind (Over buffer T) E
      (liftM (Supervisor.request (platform setup allocate release) call).run :
        Action (State κ × α) (Except Status UInt64)) fun outcome =>
      match outcome with
      | .ok value => Over buffer (S value)
      | .error _ => Over buffer U := by
  intro first second hover
  obtain ⟨hsame, hlast⟩ := hreact _ _ hover.related
  have hanswer : second.world.answer (platform setup allocate release) call =
      first.world.answer (platform setup allocate release) call :=
    congrArg Return.ofExcept hsame
  have hcalled : ∀ T : Memory × State κ → Memory × State κ → Prop,
      T ((react setup call).run (first.world.memory, first.world.state.1)).2
        ((react setup call).run (second.world.memory, second.world.state.1)).2 →
      Over buffer T
        { first with world := first.world.called (platform setup allocate release) call }
        { second with world := second.world.called (platform setup allocate release) call } := by
    intro T hrelated
    refine ⟨hover.holds, hover.holds_second, hrelated, hover.pages, ?_⟩
    rw [World.history_called, World.history_called, hanswer, hover.history]
  simp only [run_lift_world, run_request, hanswer, true_and]
  rw [answer_platform]
  cases houtcome : ((react setup call).run (first.world.memory, first.world.state.1)).1 with
  | ok value =>
    rw [houtcome] at hlast
    exact hcalled _ hlast
  | error status =>
    rw [houtcome] at hlast
    by_cases hcode : status.code = 0
    · rw [Return.toExcept_ofExcept_of_code_eq_zero hcode]
      exact hcalled _ (hzero status _ _ hcode hlast.1 hlast.2)
    · rw [Return.toExcept_ofExcept_error hcode]
      exact hcalled _ hlast.2

/-- A call whose value means nothing and whose failures are read as such. -/
theorem blind_command (allocate : UInt64 → α → Option Region × α) (release : Region → α → α)
    {call : Call} {U : Memory × State κ → Memory × State κ → Prop}
    (hreact : Blind T (Failed (·.code ≠ 0) buffer.region.base) (react setup call) fun _ => U) :
    Blind (Over buffer T) (failed buffer)
      (liftM (Supervisor.command (platform setup allocate release) call) :
        Action (State κ × α) Unit) fun _ => Over buffer U := by
  have hrequest : Blind (Over buffer T) (failed buffer) _ _ :=
    blind_request allocate release hreact fun _ _ _ hzero hcode => absurd hzero hcode
  intro first second hover
  obtain ⟨hsame, hlast⟩ := hrequest first second hover
  simp only [run_lift_world, run_request] at hsame hlast
  have hanswer := Except.ok.inj hsame
  rw [run_lift_supervisor, run_lift_supervisor, run_command, run_command, hanswer]
  cases houtcome : (first.world.answer (platform setup allocate release) call).toExcept with
  | ok value =>
    rw [houtcome] at hlast
    exact ⟨rfl, hlast⟩
  | error status =>
    rw [houtcome] at hlast
    exact ⟨rfl, hlast⟩

theorem blind_write (bytes : Bytes) :
    Blind (Alike buffer staged) (failed buffer) (buffer.write bytes : Action (State κ × α) Unit)
      fun _ => Alike buffer bytes := by
  intro first second halike
  rw [run_write, run_write]
  by_cases hlarge : bytes.length > buffer.region.length.toNat
  · rw [if_pos hlarge, if_pos hlarge]
    exact ⟨rfl, halike.behind⟩
  · rw [if_neg hlarge, if_neg hlarge]
    exact ⟨rfl, halike.holds, halike.holds_second, halike.related.store bytes, halike.pages,
      halike.history⟩

/-- What is read of the bytes that are known is known. -/
theorem blind_fetch {count : Nat} (hcount : count ≤ staged.length) :
    Blind (Alike buffer staged) E (buffer.fetch count : Action (State κ × α) Bytes)
      fun bytes first second => bytes = staged.take count ∧ Alike buffer staged first second := by
  intro first second halike
  have hfirst := halike.related.front count hcount
  have hsecond := halike.related.front_second count hcount
  exact ⟨congrArg Except.ok (hsecond.trans hfirst.symm), hfirst, halike⟩

theorem blind_read {count : Nat} (hcount : count ≤ staged.length) :
    Blind (Alike buffer staged) (failed buffer) (buffer.read count : Action (State κ × α) Bytes)
      fun _ => Alike buffer staged :=
  .ite blind_throw_fault ((blind_fetch hcount).mono (fun _ _ halike => halike)
    fun _ _ _ hread => hread.2)

theorem blind_readWord {words : List UInt32} (index : UInt32)
    (hindex : index.toNat < words.length) :
    Blind (Alike buffer (Bytes.ofWords words)) (failed buffer)
      (buffer.readWord index : Action (State κ × α) UInt32) fun word first second =>
        words[index.toNat]? = some word ∧ Alike buffer (Bytes.ofWords words) first second := by
  have hlength : 4 * (index.toNat + 1) ≤ (Bytes.ofWords words).length := by
    rw [Bytes.length_ofWords]
    omega
  refine .ite blind_throw_fault (.bind (blind_fetch hlength) fun bytes => .of_and fun hbytes => ?_)
  have hread : Bytes.words (bytes.drop (4 * index.toNat)) = [words[index.toNat]] := by
    rw [hbytes, Bytes.take_ofWords, Bytes.drop_ofWords, Bytes.words_ofWords, List.drop_take,
      Nat.add_sub_cancel_left, List.take_one, List.head?_drop, List.getElem?_eq_getElem hindex]
    rfl
  rw [hread]
  exact .pure fun _ _ halike => ⟨List.getElem?_eq_getElem hindex, halike⟩

theorem blind_readWords {words : List UInt32} (first count : UInt32)
    (hcount : first.toNat + count.toNat ≤ words.length) :
    Blind (Alike buffer (Bytes.ofWords words)) (failed buffer)
      (buffer.readWords first count : Action (State κ × α) (List UInt32)) fun _ =>
        Alike buffer (Bytes.ofWords words) := by
  have hlength : 4 * (first.toNat + count.toNat) ≤ (Bytes.ofWords words).length := by
    rw [Bytes.length_ofWords]
    omega
  refine .ite (.pure fun _ _ halike => halike) (.ite blind_throw_fault ?_)
  exact .bind (blind_fetch hlength) fun bytes => .pure fun _ _ hread => hread.2

/-- The bytes that the remote has left in front are known by what they say. -/
theorem blind_of_front {ι : Type} {P : ι → Prop} {bytes : ι → Bytes}
    {action : Action (State κ × α) β}
    (haction : ∀ index, P index → Blind (Alike buffer (bytes index)) E action S) :
    Blind (Over buffer fun one other =>
      ∃ index, P index ∧ Front buffer.region.base (bytes index) one other) E action S := by
  rintro first second ⟨hholds, hother, ⟨index, hindex, hfront⟩, hpages, hhistory⟩
  exact haction index hindex first second ⟨hholds, hother, hfront, hpages, hhistory⟩

end MessageProxy.Remote

namespace MessageProxy.Endpoint

open Remote

variable {κ α : Type} {setup : Setup κ} {buffer : SharedBuffer}
  (allocate : UInt64 → α → Option Region × α) (release : Region → α → α)

/-- The action is blind to what the buffer holds. -/
abbrev Unseeing {β : Type} (buffer : SharedBuffer) (action : Action (State κ × α) β) : Prop :=
  Blind (Alike buffer []) (failed buffer) action fun _ => Alike buffer []

theorem blind_channelIds (hcounted : setup.listedCount = none) (start : UInt32) :
    Unseeing buffer (channelIds (platform setup allocate release) start) := by
  refine blind_withBuffer (.bind (blind_command allocate release
    (blind_react_listChannels hcounted start)) fun _ => blind_of_front ?_)
  rintro _ ⟨first, second, ids, rfl, hids⟩
  refine .bind (blind_readWord 0 (Nat.zero_lt_succ _)) fun remaining => .of_and fun _ => ?_
  refine .bind (blind_readWord 1 (Nat.succ_lt_succ (Nat.zero_lt_succ _))) fun returned =>
    .of_and fun hreturned => ?_
  obtain rfl : second = returned := Option.some.inj hreturned
  have hcount : (2 : UInt32).toNat + second.toNat ≤ (first :: second :: ids).length := by
    have htwo : (2 : UInt32).toNat = 2 := rfl
    rw [htwo, List.length_cons, List.length_cons]
    omega
  have hpage : Blind (Alike buffer (Bytes.ofWords (first :: second :: ids))) (failed buffer)
      (do
        let ids ← buffer.readWords 2 second
        note (.listed start second remaining)
        return { ids := ids.map ChannelId.mk, remaining, returned := second } :
          Action (State κ × α) Page) fun _ => Alike buffer [] :=
    .bind (blind_readWords 2 second hcount) fun _ => .bind (blind_note _) fun _ => blind_pure
  exact .ite hpage (.bind (blind_refuse _) fun _ => hpage)

theorem blind_channelIdsFrom (hcounted : setup.listedCount = none) (budget : Nat)
    (start : UInt32) :
    Unseeing buffer (channelIdsFrom (platform setup allocate release) budget start) := by
  induction budget generalizing start with
  | zero => exact blind_pure
  | succ budget ih =>
    refine .bind (blind_channelIds allocate release hcounted start) fun page => ?_
    exact .ite blind_pure (.ite_bind blind_throw_fault (.bind (ih _) fun _ => blind_pure))

theorem blind_readAttributes (hreports : setup.ReportsReads) (channel : ChannelId)
    (first count : UInt32) :
    Unseeing buffer (readAttributes (platform setup allocate release) channel first count) := by
  refine blind_withBuffer (.ite_bind blind_throw_fault ?_)
  refine .bind (blind_command allocate release
    (blind_react_readAttributes channel hreports first count)) fun _ => blind_of_front ?_
  intro values hvalues
  have hcount : (0 : UInt32).toNat + count.toNat ≤ values.length := by
    rw [hvalues]
    exact Nat.le_of_eq (Nat.zero_add _)
  exact (blind_readWords 0 count hcount).mono (fun _ _ halike => halike) fun _ _ _ halike =>
    halike.behind

theorem blind_writeAttributes (channel : ChannelId) (first : UInt32) (values : List UInt32) :
    Unseeing buffer (writeAttributes (platform setup allocate release) channel first values) := by
  refine blind_withBuffer (.ite_bind blind_throw_fault ?_)
  refine .bind (blind_write _) fun _ => ?_
  have hcount : 4 * values.length ≤ (Bytes.ofWords values).length :=
    Nat.le_of_eq (Bytes.length_ofWords values).symm
  exact (blind_command allocate release (blind_react_writeAttributes channel first hcount)).mono
    (fun _ _ halike => halike) fun _ _ _ halike => Alike.behind halike

theorem blind_openChannel (hreports : setup.ReportsReads) (channel : ChannelId) :
    Unseeing buffer (openChannel (platform setup allocate release) channel) := by
  refine .bind (blind_readAttributes allocate release hreports _ _ _) fun values => ?_
  cases ChannelInfo.ofAttributes? values with
  | none => exact blind_throw_fault
  | some info => exact .bind (blind_note _) fun _ => blind_pure

theorem blind_firstWith (hreports : setup.ReportsReads) (key value : UInt32)
    (channels : List ChannelId) :
    Unseeing buffer (firstWith (platform setup allocate release) key value channels) := by
  induction channels with
  | nil => exact blind_pure
  | cons channel rest ih =>
    refine .bind (.observing (blind_readAttributes allocate release hreports channel key 1))
      fun outcome => ?_
    cases outcome with
    | error fault => exact .bind (blind_note _) fun _ => ih
    | ok values =>
      exact .ite (.bind (blind_note _) fun _ => blind_pure) ih

theorem blind_findChannelFrom (hcounted : setup.listedCount = none)
    (hreports : setup.ReportsReads) (key value : UInt32) (budget : Nat) (start : UInt32) :
    Unseeing buffer
      (findChannelFrom (platform setup allocate release) key value budget start) := by
  induction budget generalizing start with
  | zero => exact blind_pure
  | succ budget ih =>
    refine .bind (blind_channelIds allocate release hcounted start) fun page => ?_
    refine .ite_bind (blind_refuse _) ?_
    refine .bind (blind_firstWith allocate release hreports key value page.ids) fun found => ?_
    cases found with
    | some channel => exact blind_pure
    | none => exact .ite_bind (blind_refuse _) (ih _)

/-- What the remote reads of a request is what has been staged. -/
theorem blind_stage (request : Bytes) :
    Blind (Alike buffer []) (failed buffer) (stage buffer request : Action (State κ × α) Unit)
      fun _ => Alike buffer request :=
  .ite_bind blind_throw_fault (blind_write request)

theorem blind_send (hreported : setup.reportedLength = none) (channel : ChannelId)
    (message : UInt32) (request : Bytes) (capacity : Nat) :
    Unseeing buffer
      (send (platform setup allocate release) channel message request capacity) := by
  refine blind_withBuffer (.bind (blind_stage request) fun _ => ?_)
  refine .bind (blind_request allocate release
    (blind_react_send channel hreported message (Nat.le_refl _)) ?_) fun answered => ?_
  · intro _ _ _ _ _ hfront
    exact ⟨[], Nat.le_refl 0, hfront⟩
  cases answered with
  | error status =>
    exact .bind (blind_note _) fun _ => blind_throw_fault
  | ok length =>
    refine blind_of_front fun response hresponse => ?_
    refine .ite blind_pure (.ite_bind (blind_refuse _) (.ite_bind blind_throw_fault ?_))
    exact .bind (blind_read hresponse) fun _ => .bind (blind_note _) fun _ => blind_pure

theorem blind_post (channel : ChannelId) (message : UInt32) (request : Bytes) :
    Unseeing buffer (post (platform setup allocate release) channel message request) := by
  refine blind_withBuffer (.bind (blind_stage request) fun _ => ?_)
  exact (blind_command allocate release (blind_react_post channel message (Nat.le_refl _))).mono
    (fun _ _ halike => halike) fun _ _ _ halike => Alike.behind halike

/-- Traffic is blind to what the buffer holds. -/
theorem blind_perform (hcounted : setup.listedCount = none)
    (hreported : setup.reportedLength = none) (hreports : setup.ReportsReads)
    {operation : Operation} (htraffic : operation.isTraffic = true) :
    Unseeing buffer (operation.perform (platform setup allocate release)) := by
  cases operation with
  | init | deinit => cases htraffic
  | channelIds start => exact .map _ (blind_channelIds allocate release hcounted start)
  | allChannelIds budget => exact .map _ (blind_channelIdsFrom allocate release hcounted budget 0)
  | findChannel budget key value =>
    exact .map _ (blind_findChannelFrom allocate release hcounted hreports key value budget 0)
  | readAttributes channel first count =>
    exact .map _ (blind_readAttributes allocate release hreports channel first count)
  | writeAttributes channel first values =>
    exact .map _ (blind_writeAttributes allocate release channel first values)
  | openChannel channel => exact .map _ (blind_openChannel allocate release hreports channel)
  | send channel message request capacity =>
    exact .map _ (blind_send allocate release hreported channel message request capacity)
  | post channel message request =>
    exact .map _ (blind_post allocate release channel message request)

/-- Endpoints that differ in what the buffer holds stay so through any traffic, and see the same. -/
theorem outcomes_alike (hcounted : setup.listedCount = none)
    (hreported : setup.reportedLength = none) (hreports : setup.ReportsReads)
    {first second : Endpoint (State κ × α)}
    (halike : Alike buffer [] first second) {operations : List Operation}
    (htraffic : ∀ operation ∈ operations, operation.isTraffic = true) :
    outcomes (platform setup allocate release) second operations =
        outcomes (platform setup allocate release) first operations ∧
      Alike buffer [] (afterAll (platform setup allocate release) first operations)
        (afterAll (platform setup allocate release) second operations) :=
  outcomes_of_blind (fun operation hoperation =>
    blind_perform allocate release hcounted hreported hreports (htraffic operation hoperation))
    halike

/-- The endpoint with other contents of the buffer. -/
def refilled {σ : Type} (buffer : SharedBuffer) (contents : Bytes) (endpoint : Endpoint σ) :
    Endpoint σ :=
  { endpoint with world := { endpoint.world with
      memory := endpoint.world.memory.replace buffer.region.base contents } }

/-- With other contents of the buffer, the operations of a sequence return the same, the firmware
gets to see the same and remembers the same, the same is logged, and nothing but the buffer holds
anything else afterwards. -/
structure Conceals {σ : Type} (platform : Platform σ) (buffer : SharedBuffer) (contents : Bytes)
    (endpoint : Endpoint σ) (operations : List Operation) : Prop where
  outcomes : outcomes platform (endpoint.refilled buffer contents) operations =
    outcomes platform endpoint operations
  state : (afterAll platform (endpoint.refilled buffer contents) operations).world.state =
    (afterAll platform endpoint operations).world.state
  history : (afterAll platform (endpoint.refilled buffer contents) operations).world.history =
    (afterAll platform endpoint operations).world.history
  elsewhere : ∀ address ≠ buffer.region.base,
    (afterAll platform (endpoint.refilled buffer contents) operations).world.memory.block address =
      (afterAll platform endpoint operations).world.memory.block address

/-- No stale bytes of the shared buffer reach anyone. On an endpoint whose buffer the remote has
registered, whatever the buffer holds, any traffic returns the same, responses that are delivered to
a caller's own buffer included, and the remote's handlers, its posted messages and its attributes
come to the same. The remote may list and read badly and fail as it likes, but it says how long its
responses and its pages are, and does not fail to read attributes with the one code that means
success. -/
theorem stale_bytes_concealed (allocate : UInt64 → α → Option Region × α)
    (release : Region → α → α) (hcounted : setup.listedCount = none)
    (hreported : setup.reportedLength = none) (hreports : setup.ReportsReads)
    {endpoint : Endpoint (State κ × α)}
    (hbuffer : endpoint.buffer = some buffer)
    (hregistered : endpoint.world.state.1.registered = some buffer.region.base) (contents : Bytes)
    {operations : List Operation}
    (htraffic : ∀ operation ∈ operations, operation.isTraffic = true) :
    Conceals (platform setup allocate release) buffer contents endpoint operations := by
  have halike : Alike buffer [] endpoint (endpoint.refilled buffer contents) := by
    refine ⟨hbuffer, hbuffer, ⟨rfl, hregistered, ?_, ?_, ?_⟩, rfl, rfl⟩
    · intro other hother
      exact if_neg hother
    · intro length hlength
      obtain rfl := Nat.le_zero.1 hlength
      rfl
    · intro length hlength
      obtain rfl := Nat.le_zero.1 hlength
      rfl
  obtain ⟨houtcomes, hlast⟩ :=
    outcomes_alike allocate release hcounted hreported hreports halike htraffic
  exact ⟨houtcomes, Prod.ext hlast.related.state hlast.pages, hlast.history,
    hlast.related.elsewhere⟩

/-- A remote with two channels; a message to the second is sent back. -/
def concealing : Setup Unit :=
  (({ size := 16, pageLimit := 1 } : Setup Unit).withChannel 3 fun channel =>
    { channel with readFault := some .denied }).withChannel 8 fun channel =>
      { channel.setAttributes [(2, 5)] with handler := some echo }

/-- What is left of a long message is not in the short answers that follow. -/
theorem stale_bytes_concealed_concealing :
    let platform := platform concealing Heap.allocate Heap.release
    let endpoint := afterAll platform
      { buffer := none, world := .fresh (.initial concealing (), Heap.fresh) }
      [.init, .post ⟨8⟩ 1 [1, 2, 3, 4, 5, 6, 7, 8, 9, 10, 11, 12]]
    let operations : List Operation :=
      [.channelIds 1, .readAttributes ⟨3⟩ 0 1, .send ⟨8⟩ 1 [7] 4, .readAttributes ⟨8⟩ 1 2]
    ∃ buffer, concealing.listedCount = none ∧ concealing.reportedLength = none ∧
      concealing.ReportsReads ∧ endpoint.buffer = some buffer ∧
      endpoint.world.state.1.registered = some buffer.region.base ∧
      (∀ operation ∈ operations, operation.isTraffic = true) ∧
      Conceals platform buffer [9, 9, 9, 9, 9, 9, 9, 9] endpoint operations ∧
      outcomes platform endpoint operations =
        [.ok (.page { ids := [⟨8⟩], remaining := 0, returned := 1 }), .error .accessDenied,
          .ok (.response [7]), .ok (.values [0, 5])] := by
  intro platform endpoint operations
  have hreports : concealing.ReportsReads := by
    refine List.forall_mem_cons.2 ⟨?_, List.forall_mem_cons.2 ⟨nofun, nofun⟩⟩
    rintro _ ⟨⟩
    decide
  have hconceals := stale_bytes_concealed Heap.allocate Heap.release rfl rfl hreports
    (show endpoint.buffer = some _ from rfl) rfl [9, 9, 9, 9, 9, 9, 9, 9]
    (show ∀ operation ∈ operations, operation.isTraffic = true by decide)
  exact ⟨_, rfl, rfl, hreports, rfl, rfl, by decide, hconceals, rfl⟩

/-- A remote that fails to read attributes with the code zero, which means success. -/
def leaking : Setup Unit :=
  ({ size := 16 } : Setup Unit).withChannel 7 fun channel =>
    { channel with readFault := some (.unknown 0) }

/-- An endpoint takes such a failure for a success, and the bytes that happen to be in the buffer
for the attributes. -/
theorem stale_bytes_leaked :
    let platform := platform leaking Heap.allocate Heap.release
    let endpoint := after platform
      { buffer := none, world := .fresh (.initial leaking (), Heap.fresh) } .init
    let operations : List Operation := [.readAttributes ⟨7⟩ 0 1]
    ∃ buffer, leaking.listedCount = none ∧ leaking.reportedLength = none ∧
      endpoint.buffer = some buffer ∧
      endpoint.world.state.1.registered = some buffer.region.base ∧
      outcomes platform endpoint operations = [.ok (.values [0])] ∧
      outcomes platform (endpoint.refilled buffer [9]) operations = [.ok (.values [9])] ∧
      ¬Conceals platform buffer [9] endpoint operations := by
  intro platform endpoint operations
  refine ⟨_, rfl, rfl, rfl, rfl, rfl, rfl, fun hconceals => ?_⟩
  cases hconceals.outcomes

end MessageProxy.Endpoint
