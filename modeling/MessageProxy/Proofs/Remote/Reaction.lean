import MessageProxy.Proofs.Action
import MessageProxy.Remote.Respond

/-!
What the reactions of a remote keep of what it remembers. Each function of the message proxy changes
one part of it at most, whether the call succeeds or fails.
-/

namespace MessageProxy.Remote

variable {κ : Type} {P : State κ → Prop}

/-- The remote has the given property, whatever the memory holds. -/
def Recalls (P : State κ → Prop) (shared : Memory × State κ) : Prop :=
  P shared.2

@[simp]
theorem run_update (change : State κ → State κ) (memory : Memory) (state : State κ) :
    (update change).run (memory, state) = (.ok (), memory, change state) :=
  rfl

theorem run_load (setup : Setup κ) (length : UInt64) (memory : Memory) (state : State κ) :
    (load setup length).run (memory, state) =
      if length > setup.size then (.error .invalidParam, memory, state)
      else match state.registered with
        | some address => (.ok (memory.fetch address length.toNat), memory, state)
        | none => (.error .noSharedMemory, memory, state) := by
  unfold load
  split
  · rfl
  · simp only [run_bind, run_get]
    cases state.registered with
    | none => rfl
    | some address => rfl

theorem run_store (setup : Setup κ) (bytes : Bytes) (memory : Memory) (state : State κ) :
    (store setup bytes).run (memory, state) =
      if bytes.length > setup.size.toNat then (.error .failed, memory, state)
      else match state.registered with
        | some address => (.ok (), memory.store address bytes, state)
        | none => (.error .noSharedMemory, memory, state) := by
  unfold store
  split
  · rfl
  · simp only [run_bind, run_get]
    cases state.registered with
    | none => rfl
    | some address => rfl

theorem keeps_update {change : State κ → State κ} (hchange : ∀ state, P state → P (change state)) :
    Keeps (Recalls P) (update change) :=
  fun shared hstate => hchange shared.2 hstate

theorem keeps_load (setup : Setup κ) (length : UInt64) : Keeps (Recalls P) (load setup length) := by
  rintro ⟨memory, state⟩ hstate
  rw [run_load]
  split
  · exact hstate
  · cases state.registered with
    | none => exact hstate
    | some address => exact hstate

theorem keeps_store (setup : Setup κ) (bytes : Bytes) :
    Keeps (Recalls P) (store setup bytes) := by
  rintro ⟨memory, state⟩ hstate
  rw [run_store]
  split
  · exact hstate
  · cases state.registered with
    | none => exact hstate
    | some address => exact hstate

theorem keeps_listChannels (setup : Setup κ) (start : UInt64) :
    Keeps (Recalls P) (listChannels setup start) := by
  refine .ite_bind (.throw _) ?_
  cases setup.listedCount with
  | some returned => exact keeps_store setup _
  | none => exact .ite (keeps_store setup _) (keeps_store setup _)

theorem keeps_readAttributes (setup : Setup κ) (id first count : UInt32) :
    Keeps (Recalls P) (readAttributes setup id first count) := by
  unfold readAttributes
  cases setup.channel? id with
  | none => exact .throw _
  | some channel =>
    cases hfault : channel.readFault with
    | some fault =>
      simp only [hfault]
      exact fun _ hstate => hstate
    | none =>
      simp only [hfault]
      refine .bind (fun _ hstate => hstate) fun shared => ?_
      cases valuesFrom (shared.2.held id) count.toNat first with
      | error status => exact .throw _
      | ok values => exact keeps_store setup _

theorem keeps_writeAttributes
    (hheld : ∀ (state : State κ) held, P state → P { state with held })
    (setup : Setup κ) (id first : UInt32) (count : UInt64) :
    Keeps (Recalls P) (writeAttributes setup id first count) := by
  refine .bind (keeps_load setup _) fun bytes => ?_
  exact .ite_bind (.throw _) (keeps_update fun state hstate => hheld state _ hstate)

theorem keeps_answer
    (hagents : ∀ (state : State κ) agents, P state → P { state with agents })
    (setup : Setup κ) (id message : UInt32) (length : UInt64) :
    Keeps (Recalls P) (answer setup id message length) := by
  refine .bind (keeps_load setup _) fun request => ?_
  cases setup.channel? id with
  | none => exact .throw _
  | some channel =>
    cases hhandler : channel.handler with
    | none =>
      simp only [hhandler]
      exact .throw _
    | some handler =>
      simp only [hhandler]
      rintro ⟨memory, state⟩ hstate
      simp only [run_bind, run_get]
      obtain ⟨outcome, agents⟩ := handler message request state.agents
      have hheard := hagents state agents hstate
      cases outcome with
      | error status => exact hheard
      | ok response =>
        exact Keeps.bind (keeps_store setup _) (fun _ => .pure _) (memory, { state with agents })
          hheard

theorem keeps_keep
    (hposted : ∀ (state : State κ) posted, P state → P { state with posted })
    (setup : Setup κ) (id message : UInt32) (length : UInt64) :
    Keeps (Recalls P) (keep setup id message length) := by
  refine .bind (keeps_load setup _) fun bytes => ?_
  exact .ite_bind (.throw _) (keeps_update fun state hstate => hposted state _ hstate)

theorem keeps_setMemory
    (hregistered : ∀ (state : State κ) registered, P state → P { state with registered })
    (setup : Setup κ) (low high : UInt64) : Keeps (Recalls P) (setMemory setup low high) := by
  refine .ite ?_ ?_
  · cases setup.deregisterFault with
    | some fault => exact .throw _
    | none => exact keeps_update fun state hstate => hregistered state _ hstate
  · cases setup.registerFault with
    | some fault => exact .throw _
    | none => exact keeps_update fun state hstate => hregistered state _ hstate

/-- `P` does not show the part of a remote that a function of the message proxy may change. -/
structure Untouched (P : State κ → Prop) (function : UInt64) : Prop where
  registered : function = ProxyFunction.setSharedMemory →
    ∀ (state : State κ) registered, P state → P { state with registered }
  held : function = ProxyFunction.writeAttributes →
    ∀ (state : State κ) held, P state → P { state with held }
  agents : function = ProxyFunction.sendWithResponse →
    ∀ (state : State κ) agents, P state → P { state with agents }
  posted : function = ProxyFunction.sendWithoutResponse →
    ∀ (state : State κ) posted, P state → P { state with posted }

theorem keeps_messageProxy {function : UInt64} (huntouched : Untouched P function)
    (setup : Setup κ) (arguments : List UInt64) :
    Keeps (Recalls P) (messageProxy setup function arguments) := by
  unfold messageProxy
  dsimp only
  by_cases hsize : function = ProxyFunction.sharedMemorySize
  · rw [if_pos hsize]
    cases setup.sizeFault with
    | some fault => exact .throw _
    | none => exact .pure _
  rw [if_neg hsize]
  by_cases hset : function = ProxyFunction.setSharedMemory
  · rw [if_pos hset]
    exact .bind (keeps_setMemory (huntouched.registered hset) setup _ _) fun _ => .pure _
  rw [if_neg hset]
  refine .ite (.bind (keeps_listChannels setup _) fun _ => .pure _) ?_
  refine .ite (.bind (keeps_readAttributes setup _ _ _) fun _ => .pure _) ?_
  by_cases hwrite : function = ProxyFunction.writeAttributes
  · rw [if_pos hwrite]
    exact .bind (keeps_writeAttributes (huntouched.held hwrite) setup _ _ _) fun _ => .pure _
  rw [if_neg hwrite]
  by_cases hsend : function = ProxyFunction.sendWithResponse
  · rw [if_pos hsend]
    exact keeps_answer (huntouched.agents hsend) setup _ _ _
  rw [if_neg hsend]
  by_cases hpost : function = ProxyFunction.sendWithoutResponse
  · rw [if_pos hpost]
    exact .bind (keeps_keep (huntouched.posted hpost) setup _ _ _) fun _ => .pure _
  rw [if_neg hpost]
  exact .throw _

/-- A call keeps what its function does not touch. -/
theorem keeps_react
    (hreceived : ∀ (state : State κ) received, P state → P { state with received })
    {call : Call} (huntouched : Untouched P call.function) (setup : Setup κ) :
    Keeps (Recalls P) (react setup call) :=
  .bind (keeps_update fun state hstate => hreceived state _ hstate) fun _ =>
    .ite (.pure _) (.ite (keeps_messageProxy huntouched setup _) (.ite (.pure _) (.throw _)))

/-- A call about channels and their attributes changes nothing but the attributes. -/
theorem keeps_react_directory
    (hreceived : ∀ (state : State κ) received, P state → P { state with received })
    (hheld : ∀ (state : State κ) held, P state → P { state with held }) (setup : Setup κ)
    {call : Call} (hcall : call.function = ProxyFunction.listChannels ∨
      call.function = ProxyFunction.readAttributes ∨
      call.function = ProxyFunction.writeAttributes) :
    Keeps (Recalls P) (react setup call) := by
  have hapart {other : UInt64} (hother : call.function = other)
      (hkinds : other ∉ [ProxyFunction.listChannels, ProxyFunction.readAttributes,
        ProxyFunction.writeAttributes]) : False := by
    rw [hother] at hcall
    exact hkinds (by simpa using hcall)
  refine keeps_react hreceived ?_ setup
  refine ⟨fun hset => ?_, fun _ => hheld, fun hsend => ?_, fun hpost => ?_⟩
  · exact (hapart hset (by decide)).elim
  · exact (hapart hsend (by decide)).elim
  · exact (hapart hpost (by decide)).elim

/-- A remote that has a message proxy notes a call to it, and answers it. -/
theorem run_react {setup : Setup κ} (hproxy : setup.hasMessageProxy = true) {call : Call}
    (hextension : call.extension = Extension.messageProxy) (memory : Memory) (state : State κ) :
    (react setup call).run (memory, state) =
      (messageProxy setup call.function call.arguments).run
        (memory, { state with received := call :: state.received }) := by
  have hbase : ¬call.extension = Extension.base := by
    rw [hextension]
    decide
  unfold react
  rw [run_bind, run_update]
  simp only [if_neg hbase, if_pos (And.intro hextension hproxy)]

end MessageProxy.Remote
