import MessageProxy.Proofs.Endpoint.Progress
import MessageProxy.Proofs.Endpoint.Transaction
import MessageProxy.Proofs.Forwarding.Round

/-!
The handshake at boot: what it sends and what it reports.

The completion of a handshake has room for the news that the endpoint could not be set up. That
news would have to pass through the very endpoint, though, so it is never sent.
-/

namespace MessageProxy

/-- Whether a call passes a message to a channel. -/
def Call.isMessage (call : Call) : Bool :=
  call.extension = Extension.messageProxy &&
    [ProxyFunction.sendWithResponse, ProxyFunction.sendWithoutResponse].contains call.function

namespace World

variable {σ : Type}

/-- The messages that were passed to channels so far, in order. -/
def messages (world : World σ) : List Call :=
  world.calls.filter Call.isMessage

theorem messages_of_deeds {world other : World σ} {during : List Event}
    (hdeeds : other.deeds = world.deeds ++ during) :
    other.messages = world.messages ++ (during.filterMap Event.call?).filter Call.isMessage := by
  unfold messages
  rw [calls_of_deeds hdeeds, List.filter_append]

theorem messages_called (platform : Platform σ) {call : Call} (hcall : call.isMessage = true)
    (world : World σ) : (world.called platform call).messages = world.messages ++ [call] := by
  rw [messages_of_deeds (deeds_called platform world call)]
  simp [Event.call?, hcall]

theorem Matches.messages_eq {world other : World σ} (hmatches : Matches world other) :
    other.messages = world.messages := by
  unfold messages
  rw [hmatches.calls_eq]

end World

namespace Endpoint

variable {σ : Type} {platform : Platform σ} {endpoint : Endpoint σ}

/-- Whatever is offered, no message is passed to set an endpoint up. -/
theorem Offers.messages_setUp (offers : Offers) :
    (offers.setUp.deeds.filterMap Event.call?).filter Call.isMessage = [] := by
  unfold setUp
  by_cases hprobe : offers.probe.error ≠ 0 ∨ offers.probe.value = 0
  · rw [if_pos hprobe]
    rfl
  by_cases hsize : offers.size.error ≠ 0 ∨ offers.size.value = 0
  · rw [if_neg hprobe, if_pos hsize]
    rfl
  simp only [if_neg hprobe, if_neg hsize]
  cases offers.region with
  | none => rfl
  | some region =>
    by_cases hanswer : (offers.registration region).error ≠ 0
    · dsimp only
      rw [if_pos hanswer]
      rfl
    · dsimp only
      rw [if_neg hanswer]
      rfl

theorem messages_init (platform : Platform σ) (endpoint : Endpoint σ) :
    ((init platform).run endpoint).2.world.messages = endpoint.world.messages := by
  cases hbuffer : endpoint.buffer with
  | some buffer => rw [run_init_of_some hbuffer]
  | none =>
    have hdeeds := (comesTo_setUp platform hbuffer).deeds
    rw [World.messages_of_deeds hdeeds, Offers.messages_setUp, List.append_nil]

/-- An endpoint that cannot be set up has no buffer. -/
theorem buffer_init_of_error {fault : Fault}
    (hfault : ((init platform).run endpoint).1 = .error fault) :
    ((init platform).run endpoint).2.buffer = none := by
  cases hbuffer : endpoint.buffer with
  | some buffer =>
    rw [run_init_of_some hbuffer] at hfault
    cases hfault
  | none =>
    have hcomes := comesTo_setUp platform hbuffer
    exact hcomes.buffer.trans (Offers.setUp_of_error (hcomes.outcome.symm.trans hfault)).1

theorem buffer_init_of_ok (hok : ((init platform).run endpoint).1 = .ok ()) :
    ∃ buffer, ((init platform).run endpoint).2.buffer = some buffer := by
  cases hbuffer : endpoint.buffer with
  | some buffer =>
    rw [run_init_of_some hbuffer]
    exact ⟨buffer, hbuffer⟩
  | none =>
    have hcomes := comesTo_setUp platform hbuffer
    obtain ⟨region, hsome, -⟩ := Offers.setUp_of_ok (hcomes.outcome.symm.trans hok)
    exact ⟨_, hcomes.buffer.trans hsome⟩

/-- An endpoint that comes about still does after it has been set up. -/
theorem ComesAbout.init (hcomes : ComesAbout platform endpoint) :
    ComesAbout platform ((init platform).run endpoint).2 := by
  have hafter : ((Operation.init.perform platform).run endpoint).2 = _ :=
    congrArg Prod.snd (run_map (fun _ => Answer.done) (Endpoint.init platform) endpoint)
  rw [← hafter]
  exact .after .init hcomes

end Endpoint

namespace Forwarding

open Endpoint

variable {σ : Type} {platform : Platform σ} {endpoint : Endpoint σ} {buffer : SharedBuffer}

/-- The context of a handshake that announces a code. -/
def Context.announcing (context : Context) (code : ReturnCode) : Context :=
  { context with completion := ⟨code.code, 0⟩ }

/-- The code that a handshake has to announce, and the endpoint that is left to announce it. -/
def announced (inited : Except Fault Unit × Endpoint σ) : ReturnCode × Endpoint σ :=
  match inited with
  | (.ok _, ready) => (.success, ready)
  | (.error fault, failed) =>
    (.notSupported, { failed with world := failed.world.noted (.handshakeInitFailed fault) })

/-- A handshake completes a request that was never made, with the token zero. -/
theorem announceReady_eq (platform : Platform σ) (context : Context) (endpoint : Endpoint σ) :
    announceReady platform context endpoint =
      let announcement := announced ((init platform).run endpoint)
      let announcing := context.announcing announcement.1
      let completed := (complete platform announcing).run ⟨0⟩ announcement.2
      ((completed.1.1.map fun _ => announcement.1, announcing), completed.2) := by
  unfold announceReady
  rw [bind_state]
  rcases (init platform).run endpoint with ⟨fault | _, settled⟩
  · rfl
  · rfl

/-- Without a shared memory, no completion is sent. -/
theorem run_completing_of_none (platform : Platform σ) (context : Context) (tokens : TokenSource)
    (hbuffer : endpoint.buffer = none) :
    (complete platform context).run tokens endpoint =
      ((.error .notReady, tokens.take.2), endpoint) :=
  run_bind_of_error (Message.run_exchange_of_none platform (.completing context tokens) hbuffer rfl
    (by decide : 8 ≤ Frame.maxData))

/-- The message of a handshake, byte by byte. -/
theorem Message.frame_announcing (context : Context) :
    (completing (context.announcing .success) ⟨0⟩).frame =
      [0xC, 0, 3, 0, 0, 0, 8, 0, 0, 0, 0, 0, 0, 0, 0, 0] := by
  -- neither the processor nor the channel stands in the frame
  change (completing ((Context.fresh 0 ⟨0⟩).announcing .success) ⟨0⟩).frame = _
  decide

/-- The handshake of an endpoint that cannot be set up: nobody is told. -/
theorem announceReady_of_error {failed : Endpoint σ} {fault : Fault}
    (hinit : (init platform).run endpoint = (.error fault, failed))
    (hbuffer : failed.buffer = none) (context : Context) :
    announceReady platform context endpoint =
      ((.error .notReady, context.announcing .notSupported),
        { failed with world := failed.world.noted (.handshakeInitFailed fault) }) := by
  rw [announceReady_eq, hinit]
  dsimp only [announced]
  -- the completion would have to pass through the buffer that is missing
  rw [run_completing_of_none]
  · rfl
  · exact hbuffer

/-- The handshake of an endpoint that is set up is a completion that says so. -/
theorem announceReady_of_ok {ready : Endpoint σ}
    (hinit : (init platform).run endpoint = (.ok (), ready)) (context : Context) :
    announceReady platform context endpoint =
      let completed := (complete platform (context.announcing .success)).run ⟨0⟩ ready
      ((completed.1.1.map fun _ => .success, context.announcing .success), completed.2) := by
  rw [announceReady_eq, hinit]
  rfl

/-- A completion that does not fit the shared memory is not sent. -/
theorem announceReady_of_le {ready : Endpoint σ}
    (hinit : (init platform).run endpoint = (.ok (), ready)) (hbuffer : ready.buffer = some buffer)
    (hsize : buffer.size.toNat ≤ 16) (context : Context) :
    let result := announceReady platform context endpoint
    result.1 = (.error .invalidParameter, context.announcing .success) ∧
      Holding buffer ready.world.Matches result.2 := by
  intro result
  obtain ⟨houtcome, hholding⟩ :=
    run_completing_of_le platform (context.announcing .success) ⟨0⟩ hbuffer hsize
  have hresult : result = _ := announceReady_of_ok hinit context
  rw [hresult]
  dsimp only
  rw [houtcome]
  exact ⟨rfl, hholding⟩

/-- A completion that fits is sent, and its answer is what the handshake comes to. -/
theorem announceReady_of_lt {ready : Endpoint σ}
    (hinit : (init platform).run endpoint = (.ok (), ready)) (hbuffer : ready.buffer = some buffer)
    (hroom : buffer.HasRoom) (hsize : 16 < buffer.size.toNat) (context : Context) :
    let telling := Message.completing (context.announcing .success) ⟨0⟩
    let result := announceReady platform context endpoint
    result.1 = ((acknowledged (telling.body platform buffer ready.world)).map fun _ => .success,
        context.announcing .success) ∧
      Holding buffer (telling.sent platform buffer ready.world).Matches result.2 := by
  intro telling result
  obtain ⟨houtcome, hholding⟩ := run_completing platform (context.announcing .success) ⟨0⟩
    ⟨hbuffer, .refl _⟩ hroom hsize
  have hresult : result = _ := announceReady_of_ok hinit context
  rw [hresult]
  dsimp only
  rw [houtcome]
  exact ⟨rfl, hholding⟩

/-- A code that does not depend on the outcome is the one that is returned. -/
theorem eq_of_map_const {code other : ReturnCode} {outcome : Except Fault Unit}
    (hcode : outcome.map (fun _ => code) = .ok other) : other = code := by
  cases outcome with
  | error fault => cases hcode
  | ok _ =>
    cases hcode
    rfl

/-- An answer may be empty. -/
theorem Message.body_of_silent {message : Message} {world : World σ}
    (hanswer : message.answer platform buffer world = .success 0) :
    message.body platform buffer world = .ok none := by
  have hreply : message.reply platform buffer world = .ok [] := by
    unfold reply
    rw [hanswer]
    rfl
  rw [body_eq_bind, hreply]
  rfl

end Forwarding

end MessageProxy
