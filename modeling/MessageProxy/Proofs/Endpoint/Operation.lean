import MessageProxy.Endpoint.Lifecycle
import MessageProxy.Proofs.Blind
import MessageProxy.Proofs.Endpoint.Traffic

/-!
The operations of an endpoint as data, so that a sequence of them is a list.

Each operation but the two that set the buffer up and tear it down is traffic: it makes calls of one
or two kinds, keeps the endpoint's buffer, and changes nothing at all on an endpoint that has none.
-/

namespace MessageProxy

/-- Whether a call goes through the shared memory. -/
def Call.usesMemory (call : Call) : Bool :=
  call.extension = Extension.messageProxy &&
    [ProxyFunction.listChannels, ProxyFunction.readAttributes, ProxyFunction.writeAttributes,
      ProxyFunction.sendWithResponse, ProxyFunction.sendWithoutResponse].contains call.function

namespace Endpoint

/-- An operation with its arguments. A walk over the directory takes a budget of pages. -/
inductive Operation where
  | init
  | deinit
  | channelIds (start : UInt32)
  | allChannelIds (budget : Nat)
  | findChannel (budget : Nat) (key value : UInt32)
  | readAttributes (channel : ChannelId) (first count : UInt32)
  | writeAttributes (channel : ChannelId) (first : UInt32) (values : List UInt32)
  | openChannel (channel : ChannelId)
  | send (channel : ChannelId) (message : UInt32) (request : Bytes) (capacity : Nat)
  | post (channel : ChannelId) (message : UInt32) (request : Bytes)
deriving DecidableEq

/-- What an operation that succeeds returns. -/
inductive Answer where
  | done
  | page (page : Page)
  | ids (ids : Option (List ChannelId))
  | channel (channel : Option ChannelId)
  | values (values : List UInt32)
  | info (info : ChannelInfo)
  | response (bytes : Bytes)
deriving DecidableEq

variable {σ : Type}

namespace Operation

/-- Whether an operation needs the shared buffer and leaves it as it is. -/
def isTraffic : Operation → Bool
  | init | deinit => false
  | _ => true

/-- The kinds of calls that an operation makes. -/
def Makes (operation : Operation) (call : Call) : Prop :=
  match operation with
  | init => call = .probe Extension.messageProxy ∨ call = .sharedMemorySize ∨
      ∃ address, call = .registerMemory address
  | deinit => call = .deregisterMemory
  | channelIds _ | allChannelIds _ => ∃ start, call = .listChannels start
  | findChannel .. => (∃ start, call = .listChannels start) ∨
      ∃ channel first count, call = .readAttributes channel first count
  | readAttributes .. | openChannel _ =>
    ∃ channel first count, call = .readAttributes channel first count
  | writeAttributes .. => ∃ channel first count, call = .writeAttributes channel first count
  | send .. => ∃ channel message length, call = .send channel message length
  | post .. => ∃ channel message length, call = .post channel message length

/-- Runs an operation. -/
def perform (platform : Platform σ) : Operation → Action σ Answer
  | init => (fun _ => .done) <$> Endpoint.init platform
  | deinit => (fun _ => .done) <$> Endpoint.deinit platform
  | channelIds start => .page <$> Endpoint.channelIds platform start
  | allChannelIds budget => .ids <$> Endpoint.allChannelIds platform budget
  | findChannel budget key value => .channel <$> Endpoint.findChannel platform budget key value
  | readAttributes channel first count =>
    .values <$> Endpoint.readAttributes platform channel first count
  | writeAttributes channel first values =>
    (fun _ => .done) <$> Endpoint.writeAttributes platform channel first values
  | openChannel channel => .info <$> Endpoint.openChannel platform channel
  | send channel message request capacity =>
    .response <$> Endpoint.send platform channel message request capacity
  | post channel message request =>
    (fun _ => .done) <$> Endpoint.post platform channel message request

end Operation

/-- The endpoint after an operation. -/
def after (platform : Platform σ) (endpoint : Endpoint σ) (operation : Operation) : Endpoint σ :=
  ((operation.perform platform).run endpoint).2

/-- The endpoint after a sequence of operations. -/
def afterAll (platform : Platform σ) (endpoint : Endpoint σ) (operations : List Operation) :
    Endpoint σ :=
  operations.foldl (after platform) endpoint

/-- What the operations of a sequence return, in order. -/
def outcomes (platform : Platform σ) : Endpoint σ → List Operation → List (Except Fault Answer)
  | _, [] => []
  | endpoint, operation :: rest =>
    ((operation.perform platform).run endpoint).1 ::
      outcomes platform (after platform endpoint operation) rest

variable {platform : Platform σ} {operation : Operation}

/-- What every operation keeps holds after every sequence of operations. -/
theorem afterAll_of_after {P : Endpoint σ → Prop}
    (hafter : ∀ endpoint operation, P endpoint → P (after platform endpoint operation))
    {endpoint : Endpoint σ} (hendpoint : P endpoint) (operations : List Operation) :
    P (afterAll platform endpoint operations) := by
  induction operations generalizing endpoint with
  | nil => exact hendpoint
  | cons operation rest ih => exact ih (hafter endpoint operation hendpoint)

/-- What the operations of a sequence keep holds after it. -/
theorem afterAll_of_keeps {P : Endpoint σ → Prop} {operations : List Operation}
    (hkeeps : ∀ operation ∈ operations, Keeps P (operation.perform platform))
    {endpoint : Endpoint σ} (hendpoint : P endpoint) :
    P (afterAll platform endpoint operations) := by
  induction operations generalizing endpoint with
  | nil => exact hendpoint
  | cons operation rest ih =>
    obtain ⟨hoperation, hrest⟩ := List.forall_mem_cons.1 hkeeps
    exact ih hrest (hoperation endpoint hendpoint)

/-- A sequence of operations that are blind to what tells two endpoints apart returns the same on
both. -/
theorem outcomes_of_blind {R : Endpoint σ → Endpoint σ → Prop} {operations : List Operation}
    (hblind : ∀ operation ∈ operations,
      Blind R (fun _ => R) (operation.perform platform) fun _ => R)
    {first second : Endpoint σ} (hrelated : R first second) :
    outcomes platform second operations = outcomes platform first operations ∧
      R (afterAll platform first operations) (afterAll platform second operations) := by
  induction operations generalizing first second with
  | nil => exact ⟨rfl, hrelated⟩
  | cons operation rest ih =>
    obtain ⟨hoperation, hrest⟩ := List.forall_mem_cons.1 hblind
    obtain ⟨hsame, hafter⟩ := hoperation first second hrelated
    have hmiddle : R (after platform first operation) (after platform second operation) := by
      cases houtcome : ((operation.perform platform).run first).1 with
      | ok answer =>
        rw [houtcome] at hafter
        exact hafter
      | error fault =>
        rw [houtcome] at hafter
        exact hafter
    obtain ⟨hlater, hlast⟩ := ih hrest hmiddle
    refine ⟨?_, hlast⟩
    rw [outcomes, outcomes, hsame, hlater]

theorem Operation.usesMemory_of_makes (htraffic : operation.isTraffic = true) {call : Call}
    (hcall : operation.Makes call) : call.usesMemory = true := by
  cases operation with
  | init | deinit => cases htraffic
  | channelIds | allChannelIds =>
    obtain ⟨start, rfl⟩ := hcall
    rfl
  | findChannel =>
    obtain ⟨start, rfl⟩ | ⟨channel, first, count, rfl⟩ := hcall
    · rfl
    · rfl
  | readAttributes | openChannel | writeAttributes =>
    obtain ⟨channel, first, count, rfl⟩ := hcall
    rfl
  | send | post =>
    obtain ⟨channel, message, length, rfl⟩ := hcall
    rfl

/-- Traffic keeps the buffer and whatever is steady under its own kinds of calls. -/
theorem keeps_perform {buffer : SharedBuffer} {P : World σ → Prop}
    (htraffic : operation.isTraffic = true)
    (hsteady : World.Steady platform buffer operation.Makes P) :
    Keeps (Holding buffer P) (operation.perform platform) := by
  cases operation with
  | init | deinit => cases htraffic
  | channelIds start => exact .map _ (keeps_channelIds hsteady (fun start => ⟨start, rfl⟩) _)
  | allChannelIds budget =>
    exact .map _ (keeps_channelIdsFrom hsteady (fun start => ⟨start, rfl⟩) _ _)
  | findChannel budget key value =>
    exact .map _ (keeps_findChannelFrom hsteady (fun start => .inl ⟨start, rfl⟩)
      (fun channel first count => .inr ⟨channel, first, count, rfl⟩) _ _ _ _)
  | readAttributes channel first count =>
    exact .map _ (keeps_readAttributes hsteady (fun _ _ _ => ⟨_, _, _, rfl⟩) _ _ _)
  | writeAttributes channel first values =>
    exact .map _ (keeps_writeAttributes hsteady (fun _ _ _ => ⟨_, _, _, rfl⟩) _ _ _)
  | openChannel channel =>
    exact .map _ (keeps_openChannel hsteady (fun _ _ _ => ⟨_, _, _, rfl⟩) _)
  | send channel message request capacity =>
    exact .map _ (keeps_send hsteady (fun _ _ _ => ⟨_, _, _, rfl⟩) _ _ _ _)
  | post channel message request =>
    exact .map _ (keeps_post hsteady (fun _ _ _ => ⟨_, _, _, rfl⟩) _ _ _)

/-- Without a buffer, a page of the directory cannot be asked for. -/
theorem run_channelIds_none {endpoint : Endpoint σ} (hbuffer : endpoint.buffer = none)
    (start : UInt32) :
    (channelIds platform start).run endpoint = (.error .deviceError, endpoint) :=
  run_withBuffer_none hbuffer _ _

/-- Traffic on an endpoint without a buffer changes neither the endpoint nor the world. -/
theorem after_eq_self {endpoint : Endpoint σ} (htraffic : operation.isTraffic = true)
    (hbuffer : endpoint.buffer = none) : after platform endpoint operation = endpoint := by
  have hread (channel : ChannelId) (first count : UInt32) :
      (readAttributes platform channel first count).run endpoint =
        (.error .deviceError, endpoint) :=
    run_withBuffer_none hbuffer _ _
  unfold after
  cases operation with
  | init | deinit => cases htraffic
  | channelIds start => rw [Operation.perform, run_map, run_channelIds_none hbuffer]
  | allChannelIds budget =>
    cases budget with
    | zero => rfl
    | succ budget =>
      rw [Operation.perform, run_map, allChannelIds, channelIdsFrom, run_bind,
        run_channelIds_none hbuffer]
  | findChannel budget key value =>
    cases budget with
    | zero => rfl
    | succ budget =>
      rw [Operation.perform, run_map, findChannel, findChannelFrom, run_bind,
        run_channelIds_none hbuffer]
  | readAttributes channel first count => rw [Operation.perform, run_map, hread]
  | openChannel channel =>
    rw [Operation.perform, run_map, openChannel, run_bind, hread]
  | writeAttributes channel first values =>
    rw [Operation.perform, run_map, writeAttributes, run_withBuffer_none hbuffer]
  | send channel message request capacity =>
    rw [Operation.perform, run_map, send, run_withBuffer_none hbuffer]
  | post channel message request =>
    rw [Operation.perform, run_map, post, run_withBuffer_none hbuffer]

end Endpoint

end MessageProxy
