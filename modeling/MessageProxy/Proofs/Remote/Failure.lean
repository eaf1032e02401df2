import MessageProxy.Proofs.Endpoint.Skipping
import MessageProxy.Proofs.Remote.Connection
import MessageProxy.Proofs.Remote.Messages

/-!
Failures of the firmware as the callers of an endpoint see them, and those of a remote's handlers
among them: what a handler fails with is encoded by the remote and decoded by the endpoint.
-/

namespace MessageProxy

namespace Status

theorem code_ite {code known : Int64} {status rest : Status} (hstatus : status.code = known)
    (hrest : rest.code = code) : (if code = known then status else rest).code = code := by
  split
  · rename_i hcode
    rw [hstatus, hcode]
  · exact hrest

/-- What an error code stands for has that code, whether or not the code is in the table. -/
theorem code_ofCode (code : Int64) : (ofCode code).code = code := by
  unfold ofCode
  repeat
    apply code_ite
    · rfl
  rfl

end Status

namespace Endpoint

variable {σ : Type}

/-- What becomes of the calls that a platform fails, at an endpoint with that buffer. -/
structure TranslatesFailures (platform : Platform σ) (buffer : SharedBuffer) : Prop where
  /-- An operation of one call, whose arguments pass the checks made before it, makes no other call
  and fails with the fault that the call's error stands for. -/
  single : ∀ (endpoint : Endpoint σ) (operation : Operation) (call : Call),
    endpoint.buffer = some buffer →
    operation.call? = some call → operation.Admissible buffer →
    let answer := (endpoint.world.stored buffer.region operation.staged).answer platform call
    answer.error ≠ 0 →
      ∃ world, (operation.perform platform).run endpoint =
          (.error (.ofStatus (.ofCode answer.error)), { endpoint with world }) ∧
        world.deeds = endpoint.world.deeds ++ [.called call answer]
  /-- What the caller has for the response is left as it is. -/
  response : ∀ (endpoint : Endpoint σ) channel message request caller,
    endpoint.buffer = some buffer → request.length < buffer.size.toNat →
    request.length ≤ buffer.region.length.toNat →
    let answer := (endpoint.world.stored buffer.region request).answer platform
      (.send channel message request.length)
    let result := (send platform channel message request caller.length).run endpoint
    answer.error ≠ 0 →
      deliverTo caller result.1 = (.error (.ofStatus (.ofCode answer.error)), caller) ∧
        result.2.buffer = some buffer
  /-- A walk over the directory fails with any call that fails. -/
  walk : ∀ budget, Surfaces buffer (fun _ => True) (allChannelIds platform budget)
  /-- A search fails with any listing that fails. -/
  search : ∀ budget key value,
    Surfaces buffer (fun call => ∃ start, call = .listChannels start)
      (findChannel platform budget key value)
  /-- A search goes past every channel whose attribute cannot be read: from there on it does what it
  does with the channels behind it. -/
  skip : ∀ (endpoint : Endpoint σ) budget key value later earlier channel answer,
    endpoint.buffer = some buffer →
    ((findChannel platform budget key value).run endpoint).2.world.history =
      later ++ .called (.readAttributes channel key 1) answer :: earlier →
    endpoint.world.history <:+ earlier → answer.error ≠ 0 →
    ∃ left start page before rest next, page.ids = before ++ channel :: rest ∧
      next.buffer = some buffer ∧
      next.world.history = .noted (.skipped channel (.ofStatus (.ofCode answer.error))) ::
        .called (.readAttributes channel key 1) answer :: earlier ∧
      (findChannel platform budget key value).run endpoint =
        (searchOn platform key value left start page rest).run next

theorem translatesFailures (platform : Platform σ) (buffer : SharedBuffer) :
    TranslatesFailures platform buffer where
  single := by
    intro endpoint operation call hbuffer hcall hchecks answer hanswer
    obtain ⟨world, hrun, hdeeds⟩ := perform_of_ne hbuffer hcall hchecks hanswer
    refine ⟨world, hrun, ?_⟩
    rw [hdeeds, World.deeds_called, World.deeds_stored]
  response := by
    intro endpoint channel message request caller hbuffer hrequest hroom answer result hanswer
    have hresult : result = _ := run_send_of_ne hbuffer hrequest hroom hanswer
    rw [hresult]
    exact ⟨rfl, hbuffer⟩
  walk budget := .channelIdsFrom platform budget 0
  search budget key value := by
    apply Surfaces.findChannelFrom
    rintro channel first count ⟨start, hcall⟩
    exact absurd hcall (Call.readAttributes_ne_listChannels channel first count start)
  skip endpoint budget key value later earlier channel answer hbuffer hrun hstart hanswer :=
    findChannelFrom_skips hanswer budget 0 hbuffer hrun hstart

end Endpoint

namespace Remote

open Endpoint

variable {κ α : Type} {setup : Setup κ} {endpoint : Endpoint (State κ × α)} {buffer : SharedBuffer}

/-- What a handler fails with is the error of the call, unless its code is the one of a success. -/
theorem answer_send_of_error (allocate : UInt64 → α → Option Region × α)
    (release : Region → α → α) {world : World (State κ × α)} {address : UInt64} {code : Int64}
    {channel : ChannelId} {message : UInt32} {length : Nat} {agents : κ}
    (hproxy : setup.hasMessageProxy = true) (hlength : length ≤ setup.size.toNat)
    (hregistered : world.state.1.registered = some address)
    (hreply : reply setup channel.raw message (world.memory.fetch address length)
      world.state.1.agents = (.error (.ofCode code), agents)) :
    world.answer (platform setup allocate release) (.send channel message length) =
      .failure (.ofCode code) := by
  let received : State κ :=
    { world.state.1 with
      received := .send channel message length :: world.state.1.received }
  have hreceived : received.registered = some address := hregistered
  have hreplied : reply setup channel.raw message (world.memory.fetch address length)
      received.agents = (.error (.ofCode code), agents) := hreply
  have hrun := run_answer (not_gt_of_le hlength) hreceived channel.raw message world.memory
  rw [toNat_toUInt64_of_le hlength, hreplied] at hrun
  rw [answer_platform, run_react_send hproxy, hrun]
  rfl

/-- A remote with one channel, whose handler fails with an error code. -/
def Setup.failing (code : Int64) : Setup Unit :=
  { size := 4096
    channels := [(1, { attributes := [], readFault := none
                       handler := some fun _ _ agents => (.error (.ofCode code), agents) })] }

end Remote

end MessageProxy
