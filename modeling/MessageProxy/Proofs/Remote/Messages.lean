import MessageProxy.Proofs.Remote.Reaction

/-!
How a remote reacts to messages, as equations about its runs.
-/

namespace MessageProxy.Remote

variable {κ : Type}

/-- What a channel makes of a message: the outcome, and the handlers' state afterwards. -/
def reply (setup : Setup κ) (id message : UInt32) (request : Bytes) (agents : κ) :
    Except Status Bytes × κ :=
  match setup.channel? id with
  | none => (.error .invalidParam, agents)
  | some channel =>
    match channel.handler with
    | none => (.error .notSupported, agents)
    | some handler => handler message request agents

theorem reply_of_handler {setup : Setup κ} {id : UInt32} {channel : Channel κ}
    {handler : Handler κ} (hchannel : setup.channel? id = some channel)
    (hhandler : channel.handler = some handler) (message : UInt32) (request : Bytes) (agents : κ) :
    reply setup id message request agents = handler message request agents := by
  simp only [reply, hchannel, hhandler]

/-- A message that fits is read from the registered memory and given to its channel; the response is
written there if it fits as well. -/
theorem run_answer {setup : Setup κ} {length : UInt64} {state : State κ} {address : UInt64}
    (hlength : ¬length > setup.size) (hregistered : state.registered = some address)
    (id message : UInt32) (memory : Memory) :
    (answer setup id message length).run (memory, state) =
      let replied := reply setup id message (memory.fetch address length.toNat) state.agents
      let after := { state with agents := replied.2 }
      match replied.1 with
      | .error status => (.error status, memory, after)
      | .ok response =>
        if response.length > setup.size.toNat then (.error .failed, memory, after)
        else (.ok (setup.reportedLength.getD response.length.toUInt64),
          memory.store address response, after) := by
  obtain ⟨_, held, posted, received, agents⟩ := state
  cases hregistered
  unfold answer reply
  simp only [run_bind, run_load, if_neg hlength]
  cases setup.channel? id with
  | none => rfl
  | some channel =>
    cases hhandler : channel.handler with
    | none =>
      simp only [hhandler]
      rfl
    | some handler =>
      simp only [hhandler, run_bind, run_get]
      obtain ⟨outcome, heard⟩ := handler message (memory.fetch address length.toNat) agents
      change ExceptT.run (match outcome with
        | .error status => throw status
        | .ok response => do
          store setup response
          return setup.reportedLength.getD response.length.toUInt64 : Reaction κ UInt64)
        (memory, ⟨some address, held, posted, received, heard⟩) = _
      cases outcome with
      | error status => rfl
      | ok response =>
        simp only [run_bind, run_store]
        by_cases hresponse : response.length > setup.size.toNat
        · simp only [if_pos hresponse]
        · simp only [if_neg hresponse]
          rfl

/-- A message without a response that fits is kept, if its channel exists. -/
theorem run_keep {setup : Setup κ} {length : UInt64} {state : State κ} {address : UInt64}
    (hlength : ¬length > setup.size) (hregistered : state.registered = some address)
    (id message : UInt32) (memory : Memory) :
    (keep setup id message length).run (memory, state) =
      if (setup.channel? id).isNone then (.error .invalidParam, memory, state)
      else
        let posted := { channel := id, message, bytes := memory.fetch address length.toNat }
        (.ok (), memory, { state with posted := posted :: state.posted }) := by
  obtain ⟨_, held, posted, received, agents⟩ := state
  cases hregistered
  unfold keep
  simp only [run_bind, run_load, if_neg hlength]
  by_cases hchannel : (setup.channel? id).isNone = true
  · simp only [if_pos hchannel]
    rfl
  · simp only [if_neg hchannel]
    rfl

/-- Sending a message is what the remote's function for it does with the same arguments. -/
theorem run_react_send {setup : Setup κ} (hproxy : setup.hasMessageProxy = true)
    (channel : ChannelId) (message : UInt32) (length : Nat) (memory : Memory) (state : State κ) :
    (react setup (.send channel message length)).run (memory, state) =
      (answer setup channel.raw message length.toUInt64).run (memory, { state with
        received := .send channel message length :: state.received }) := by
  rw [run_react hproxy rfl]
  change (answer setup channel.raw.toUInt64.toUInt32 message.toUInt64.toUInt32 length.toUInt64).run
    _ = _
  rw [UInt32.toUInt32_toUInt64, UInt32.toUInt32_toUInt64]

theorem run_react_post {setup : Setup κ} (hproxy : setup.hasMessageProxy = true)
    (channel : ChannelId) (message : UInt32) (length : Nat) (memory : Memory) (state : State κ) :
    (react setup (.post channel message length)).run (memory, state) =
      (do
        keep setup channel.raw message length.toUInt64
        return 0 : Reaction κ UInt64).run (memory, { state with
          received := .post channel message length :: state.received }) := by
  rw [run_react hproxy rfl]
  change (do
    keep setup channel.raw.toUInt64.toUInt32 message.toUInt64.toUInt32 length.toUInt64
    return 0 : Reaction κ UInt64).run _ = _
  rw [UInt32.toUInt32_toUInt64, UInt32.toUInt32_toUInt64]

end MessageProxy.Remote
