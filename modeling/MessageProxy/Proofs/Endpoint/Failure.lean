import MessageProxy.Proofs.Endpoint.Messages
import MessageProxy.Proofs.Endpoint.Operation

/-!
What becomes of a call that the firmware fails.

An operation of one call fails with the fault that the error code stands for, and nothing of what it
returns or keeps is touched. A walk over the directory fails with the first listing that fails. A
search for a channel only skips the channel whose attribute could not be read.
-/

namespace MessageProxy

theorem Return.toExcept_of_ne {answer : Return} (hanswer : answer.error ≠ 0) :
    answer.toExcept = .error (.ofCode answer.error) :=
  if_neg hanswer

theorem Call.channel_of_readAttributes {channel other : ChannelId} {first count key length : UInt32}
    (hcall : Call.readAttributes channel first count = .readAttributes other key length) :
    channel = other := by
  have harguments := congrArg Call.arguments hcall
  simp only [Call.readAttributes, List.cons.injEq, UInt32.toUInt64_inj] at harguments
  cases channel
  cases other
  exact congrArg ChannelId.mk harguments.1

theorem Call.readAttributes_ne_listChannels (channel : ChannelId) (first count start : UInt32) :
    Call.readAttributes channel first count ≠ .listChannels start := by
  intro hcall
  have hfunction : ProxyFunction.readAttributes = ProxyFunction.listChannels :=
    congrArg Call.function hcall
  exact absurd hfunction (by decide)

/-- The fault that an answer with a non-zero error code stands for. -/
def Return.fault (answer : Return) : Fault :=
  .ofStatus (.ofCode answer.error)

theorem World.stored_nil {σ : Type} (region : Region) (world : World σ) :
    world.stored region [] = world := by
  have hmemory : world.memory.store region.base [] = world.memory := by
    unfold Memory.store Memory.replace
    congr
    funext other
    by_cases hother : other = region.base
    · simp [hother, Bytes.overwrite]
    · simp [hother]
  change { world with memory := world.memory.store region.base [] } = world
  rw [hmemory]

namespace Endpoint

namespace Operation

/-- The call of an operation that makes just one. -/
def call? : Operation → Option Call
  | channelIds start => some (.listChannels start)
  | readAttributes channel first count => some (.readAttributes channel first count)
  | openChannel channel => some (.readAttributes channel 0 Attribute.standardCount)
  | writeAttributes channel first values => some (.writeAttributes channel first values.length)
  | send channel message request _ => some (.send channel message request.length)
  | post channel message request => some (.post channel message request.length)
  | init | deinit | allChannelIds _ | findChannel .. => none

/-- What an operation puts into the buffer before it calls. -/
def staged : Operation → Bytes
  | writeAttributes _ _ values => Bytes.ofWords values
  | send _ _ request _ | post _ _ request => request
  | _ => []

/-- The checks of an operation's arguments that are made before it calls. -/
def Admissible (buffer : SharedBuffer) : Operation → Prop
  | readAttributes _ _ count => count ≠ 0 ∧ 4 * count.toNat ≤ buffer.size.toNat
  | openChannel _ => 4 * Attribute.standardCount.toNat ≤ buffer.size.toNat
  | writeAttributes _ _ values =>
    values ≠ [] ∧ 4 * values.length ≤ buffer.size.toNat ∧
      4 * values.length ≤ buffer.region.length.toNat
  | send _ _ request _ | post _ _ request =>
    request.length < buffer.size.toNat ∧ request.length ≤ buffer.region.length.toNat
  | _ => True

end Operation

variable {σ α β : Type} {platform : Platform σ} {endpoint : Endpoint σ} {buffer : SharedBuffer}

theorem run_command_of_ne {call : Call}
    (hanswer : (endpoint.world.answer platform call).error ≠ 0) :
    (liftM (Supervisor.command platform call) : Action σ Unit).run endpoint =
      (.error (endpoint.world.answer platform call).fault,
        { endpoint with world := endpoint.world.called platform call }) := by
  rw [run_lift_supervisor, run_command, Return.toExcept_of_ne hanswer]
  rfl

theorem run_channelIds_of_ne (hbuffer : endpoint.buffer = some buffer) {start : UInt32}
    (hanswer : (endpoint.world.answer platform (.listChannels start)).error ≠ 0) :
    (channelIds platform start).run endpoint =
      (.error (endpoint.world.answer platform (.listChannels start)).fault,
        { endpoint with world := endpoint.world.called platform (.listChannels start) }) := by
  rw [channelIds, run_withBuffer hbuffer, run_bind, run_command_of_ne hanswer]

theorem run_readAttributes_of_ne (hbuffer : endpoint.buffer = some buffer) {channel : ChannelId}
    {first count : UInt32} (hcount : count ≠ 0) (hsize : 4 * count.toNat ≤ buffer.size.toNat)
    (hanswer : (endpoint.world.answer platform (.readAttributes channel first count)).error ≠ 0) :
    (readAttributes platform channel first count).run endpoint =
      (.error (endpoint.world.answer platform (.readAttributes channel first count)).fault,
        { endpoint with
          world := endpoint.world.called platform (.readAttributes channel first count) }) := by
  have hchecks : ¬(count = 0 ∨ 4 * count.toNat > buffer.size.toNat) := by
    simp only [hcount, false_or]
    omega
  rw [readAttributes, run_withBuffer hbuffer, if_neg hchecks, run_bind, run_command_of_ne hanswer]

theorem run_send_of_ne (hbuffer : endpoint.buffer = some buffer) {channel : ChannelId}
    {message : UInt32} {request : Bytes} {capacity : Nat}
    (hrequest : request.length < buffer.size.toNat)
    (hroom : request.length ≤ buffer.region.length.toNat)
    (hanswer : ((endpoint.world.stored buffer.region request).answer platform
      (.send channel message request.length)).error ≠ 0) :
    let answer := (endpoint.world.stored buffer.region request).answer platform
      (.send channel message request.length)
    (send platform channel message request capacity).run endpoint =
      (.error answer.fault, { endpoint with
        world := ((endpoint.world.stored buffer.region request).called platform
          (.send channel message request.length)).noted
            (.sendFailed message channel (.ofCode answer.error)) }) := by
  intro answer
  rw [run_send_of_lt hbuffer hrequest hroom]
  simp only [Return.toExcept_of_ne hanswer]
  rfl

/-- An operation of one call fails with the fault that the call's error stands for. The firmware and
the memory are left as the call left them, and the buffer is the one there was. -/
theorem perform_of_ne (hbuffer : endpoint.buffer = some buffer) {operation : Operation}
    {call : Call} (hcall : operation.call? = some call) (hchecks : operation.Admissible buffer)
    (hanswer : ((endpoint.world.stored buffer.region operation.staged).answer platform call).error ≠
      0) :
    ∃ world, (operation.perform platform).run endpoint =
        (.error ((endpoint.world.stored buffer.region operation.staged).answer platform call).fault,
          { endpoint with world }) ∧
      world.deeds =
        ((endpoint.world.stored buffer.region operation.staged).called platform call).deeds := by
  cases operation with
  | init | deinit | allChannelIds | findChannel => cases hcall
  | channelIds start =>
    cases hcall
    dsimp only [Operation.staged] at hanswer ⊢
    rw [World.stored_nil] at hanswer ⊢
    rw [Operation.perform, run_map, run_channelIds_of_ne hbuffer hanswer]
    exact ⟨_, rfl, rfl⟩
  | readAttributes channel first count =>
    cases hcall
    obtain ⟨hcount, hsize⟩ := hchecks
    dsimp only [Operation.staged] at hanswer ⊢
    rw [World.stored_nil] at hanswer ⊢
    rw [Operation.perform, run_map, run_readAttributes_of_ne hbuffer hcount hsize hanswer]
    exact ⟨_, rfl, rfl⟩
  | openChannel channel =>
    cases hcall
    dsimp only [Operation.staged] at hanswer ⊢
    rw [World.stored_nil] at hanswer ⊢
    rw [Operation.perform, run_map, openChannel, run_bind,
      run_readAttributes_of_ne hbuffer (by decide) hchecks hanswer]
    exact ⟨_, rfl, rfl⟩
  | writeAttributes channel first values =>
    cases hcall
    obtain ⟨hvalues, hsize, hroom⟩ := hchecks
    dsimp only [Operation.staged] at hanswer ⊢
    rw [Operation.perform, run_map, run_writeAttributes_of_le hbuffer hvalues hsize hroom,
      run_command_of_ne hanswer]
    exact ⟨_, rfl, rfl⟩
  | send channel message request capacity =>
    cases hcall
    obtain ⟨hrequest, hroom⟩ := hchecks
    dsimp only [Operation.staged] at hanswer ⊢
    rw [Operation.perform, run_map, run_send_of_ne hbuffer hrequest hroom hanswer]
    exact ⟨_, rfl, World.deeds_noted _ _⟩
  | post channel message request =>
    cases hcall
    obtain ⟨hrequest, hroom⟩ := hchecks
    dsimp only [Operation.staged] at hanswer ⊢
    rw [Operation.perform, run_map, run_post_of_lt hbuffer hrequest hroom]
    simp only [Return.toExcept_of_ne hanswer]
    exact ⟨_, rfl, rfl⟩

/-- The event is no call of the given kind. -/
def IsApart (kind : Call → Prop) : Event → Prop
  | .called call _ => ¬kind call
  | _ => True

/-- With that buffer, a call of some kind that fails during the action is what the action fails
with; and the buffer stays. -/
def Surfaces (buffer : SharedBuffer) (kind : Call → Prop) (action : Action σ α) : Prop :=
  ∀ endpoint, endpoint.buffer = some buffer →
    (action.run endpoint).2.buffer = some buffer ∧
    ∃ during, (action.run endpoint).2.world.history = during ++ endpoint.world.history ∧
      ∀ call answer, Event.called call answer ∈ during → kind call → answer.error ≠ 0 →
        (action.run endpoint).1 = .error answer.fault

theorem steady_apart {kind allowed : Call → Prop} (hapart : ∀ call, allowed call → ¬kind call)
    (start : World σ) :
    World.Steady platform buffer allowed (World.Since (IsApart kind) start) where
  noted _ _ hsince := hsince.noted trivial
  stored _ _ _ hsince := hsince
  called _ call hallowed hsince := hsince.called (hapart call hallowed)

namespace Surfaces

variable {kind allowed : Call → Prop}

/-- An action that makes no call of the kind has none that fails. -/
theorem of_apart {action : Action σ α}
    (haction : ∀ start, Keeps (Holding buffer (World.Since (IsApart kind) start)) action) :
    Surfaces buffer kind action := by
  intro endpoint hbuffer
  obtain ⟨hsame, during, hhistory, hapart⟩ :=
    haction endpoint.world endpoint ⟨hbuffer, World.Since.refl _⟩
  refine ⟨hsame, during, hhistory, ?_⟩
  intro call answer hcalled hkind
  exact absurd hkind (hapart _ hcalled)

theorem pure (value : α) : Surfaces buffer kind (pure value : Action σ α) :=
  of_apart fun _ => .pure value

theorem throw (fault : Fault) : Surfaces buffer kind (throw fault : Action σ α) :=
  of_apart fun _ => .throw fault

theorem command (platform : Platform σ) (call : Call) :
    Surfaces buffer kind (liftM (Supervisor.command platform call) : Action σ Unit) := by
  intro endpoint hbuffer
  refine ⟨hbuffer, [.called call (endpoint.world.answer platform call)], ?_, ?_⟩
  · rw [run_lift_supervisor, run_command]
    rfl
  · intro other answer hcalled _ hanswer
    obtain ⟨rfl, rfl⟩ : other = call ∧ answer = endpoint.world.answer platform call := by
      simpa using hcalled
    rw [run_command_of_ne hanswer]

theorem bind {action : Action σ α} {next : α → Action σ β} (haction : Surfaces buffer kind action)
    (hnext : ∀ value, Surfaces buffer kind (next value)) :
    Surfaces buffer kind (action >>= next) := by
  intro endpoint hbuffer
  obtain ⟨hmiddle, earlier, hearlier, hfirst⟩ := haction endpoint hbuffer
  rw [run_bind]
  rcases hrun : action.run endpoint with ⟨fault | value, middle⟩
  · rw [hrun] at hmiddle hearlier hfirst
    refine ⟨hmiddle, earlier, hearlier, ?_⟩
    intro call answer hcalled hkind hanswer
    have hfault : fault = answer.fault :=
      Except.error.inj (hfirst call answer hcalled hkind hanswer)
    rw [hfault]
  · rw [hrun] at hmiddle hearlier hfirst
    obtain ⟨hlast, later, hlater, hsecond⟩ := hnext value middle hmiddle
    refine ⟨hlast, later ++ earlier, ?_, ?_⟩
    · rw [hlater, hearlier, List.append_assoc]
    · intro call answer hcalled hkind hanswer
      rcases List.mem_append.1 hcalled with hcalled | hcalled
      · exact hsecond call answer hcalled hkind hanswer
      · -- the first part went on, so no call of the kind failed in it
        cases hfirst call answer hcalled hkind hanswer

theorem ite {condition : Prop} [Decidable condition] {first second : Action σ α}
    (hfirst : Surfaces buffer kind first) (hsecond : Surfaces buffer kind second) :
    Surfaces buffer kind (if condition then first else second) := by
  split
  · exact hfirst
  · exact hsecond

theorem ite_bind {condition : Prop} [Decidable condition] {first : Action σ PUnit}
    {rest : Action σ α} (hfirst : Surfaces buffer kind first)
    (hrest : Surfaces buffer kind rest) :
    Surfaces buffer kind (if condition then first >>= fun _ => rest else rest) :=
  .ite (.bind hfirst fun _ => hrest) hrest

theorem withBuffer {absent : Fault} {use : SharedBuffer → Action σ α}
    (huse : Surfaces buffer kind (use buffer)) :
    Surfaces buffer kind (Action.withBuffer absent use) := by
  intro endpoint hbuffer
  rw [run_withBuffer hbuffer]
  exact huse endpoint hbuffer

theorem channelIds (platform : Platform σ) (start : UInt32) :
    Surfaces buffer kind (channelIds platform start) := by
  have hsteady (world : World σ) :
      World.Steady platform buffer (fun _ => False) (World.Since (IsApart kind) world) :=
    steady_apart (fun _ hnever => hnever.elim) world
  refine .withBuffer (.bind (.command platform _) fun _ => ?_)
  refine .bind (.of_apart fun _ => keeps_readWord 0) fun remaining => ?_
  refine .bind (.of_apart fun _ => keeps_readWord 1) fun returned => ?_
  have hpage : Surfaces buffer kind (do
      let ids ← buffer.readWords 2 returned
      note (.listed start returned remaining)
      return { ids := ids.map ChannelId.mk, remaining, returned } : Action σ Page) :=
    .bind (.of_apart fun _ => keeps_readWords 2 returned) fun _ =>
      .bind (.of_apart fun world => keeps_note (hsteady world) _) fun _ => .pure _
  exact .ite hpage (.bind (.of_apart fun world => keeps_refuse (hsteady world) _) fun _ => hpage)

/-- A walk over the directory fails with a listing that fails. -/
theorem channelIdsFrom (platform : Platform σ) (budget : Nat) (start : UInt32) :
    Surfaces buffer kind (channelIdsFrom platform budget start) := by
  induction budget generalizing start with
  | zero => exact .pure none
  | succ budget ih =>
    refine .bind (.channelIds platform start) fun page => ?_
    exact .ite (.pure _) (.ite_bind (.throw _) (.bind (ih _) fun _ => .pure _))

/-- So does a search, whose other calls only read attributes. -/
theorem findChannelFrom (platform : Platform σ)
    (hread : ∀ channel first count, ¬kind (.readAttributes channel first count))
    (key value : UInt32) (budget : Nat) (start : UInt32) :
    Surfaces buffer kind (findChannelFrom platform key value budget start) := by
  have hsteady (world : World σ) :
      World.Steady platform buffer (fun call => ¬kind call) (World.Since (IsApart kind) world) :=
    steady_apart (fun _ hapart => hapart) world
  induction budget generalizing start with
  | zero => exact .pure none
  | succ budget ih =>
    refine .bind (.channelIds platform start) fun page => ?_
    refine .ite_bind (.of_apart fun world => keeps_refuse (hsteady world) _) ?_
    refine .bind (.of_apart fun world =>
      keeps_firstWith (hsteady world) hread key value page.ids) fun found => ?_
    cases found with
    | some channel => exact .pure _
    | none => exact .ite_bind (.of_apart fun world => keeps_refuse (hsteady world) _) (ih _)

end Surfaces

end Endpoint

end MessageProxy
