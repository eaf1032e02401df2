import MessageProxy.Proofs.Forwarding.Replies
import MessageProxy.Proofs.Remote.Bounds

/-!
One round of the loop that serves forwarded requests, whatever the firmware answers.

A round asks for a request, has it handled once and reports the outcome. An answer that brings a
request is longer than a completion, so once a request has been taken its completion fits the shared
memory.
-/

namespace MessageProxy.Forwarding

open Endpoint

variable {σ : Type} {platform : Platform σ} {endpoint : Endpoint σ} {buffer : SharedBuffer}
  {tokens : TokenSource}

/-- The handler leaves the endpoint's buffer alone. -/
def Handler.KeepsBuffer (handler : Handler σ) : Prop :=
  ∀ cpu request endpoint, (handler cpu request endpoint).2.buffer = endpoint.buffer

/-- Logging a failure of the handler is all that happens before the completion. -/
theorem holding_warned (cpu : UInt64) (outcome : Except Fault Unit)
    (hbuffer : endpoint.buffer = some buffer) :
    Holding buffer endpoint.world.Matches (warned cpu outcome endpoint) := by
  cases outcome with
  | ok _ => exact ⟨hbuffer, .refl _⟩
  | error fault => exact ⟨hbuffer, (World.Matches.refl _).noted _⟩

/-- Where the shared memory is too small to ask for a request, nothing is sent. -/
theorem run_retrieving_of_le (platform : Platform σ) (channel : ChannelId) (tokens : TokenSource)
    (hbuffer : endpoint.buffer = some buffer) (hsize : buffer.size.toNat ≤ 8) :
    let retrieved := (retrieve platform channel).run tokens endpoint
    retrieved.1 = (.error .invalidParameter, tokens.take.2) ∧
      Holding buffer endpoint.world.Matches retrieved.2 := by
  intro retrieved
  obtain ⟨world, hexchange, hworld⟩ := Message.run_exchange_of_le platform
    (.retrieving channel tokens) hbuffer rfl (Nat.zero_le _) hsize
  obtain ⟨last, hretrieve, hmatches⟩ := run_retrieve hexchange
  have hretrieved : retrieved = _ := hretrieve
  rw [hretrieved]
  exact ⟨rfl, hbuffer, hworld.trans hmatches⟩

/-- Where it is not, asking is one call, and what comes of it is what its answer is taken for. -/
theorem run_retrieving (platform : Platform σ) (channel : ChannelId) (tokens : TokenSource)
    (hbuffer : endpoint.buffer = some buffer) (hroom : buffer.HasRoom)
    (hsize : 8 < buffer.size.toNat) :
    let asking := Message.retrieving channel tokens
    let retrieved := (retrieve platform channel).run tokens endpoint
    retrieved.1 = (requested (asking.body platform buffer endpoint.world), tokens.take.2) ∧
      Holding buffer (asking.sent platform buffer endpoint.world).Matches retrieved.2 := by
  intro asking retrieved
  obtain ⟨world, hexchange, hsent⟩ := Message.run_exchange platform asking hbuffer hroom rfl
    (Nat.zero_le _) hsize
  obtain ⟨last, hretrieve, hmatches⟩ := run_retrieve hexchange
  have hretrieved : retrieved = _ := hretrieve
  rw [hretrieved]
  exact ⟨rfl, hbuffer, hsent.trans hmatches⟩

/-- A completion that fits the shared memory is one call, which is acknowledged if its answer is. -/
theorem run_completing (platform : Platform σ) (context : Context) (tokens : TokenSource)
    {world : World σ} (hlogged : Holding buffer world.Matches endpoint) (hroom : buffer.HasRoom)
    (hsize : 16 < buffer.size.toNat) :
    let telling := Message.completing context tokens
    let completed := (complete platform context).run tokens endpoint
    completed.1 = (acknowledged (telling.body platform buffer world), tokens.take.2) ∧
      Holding buffer (telling.sent platform buffer world).Matches completed.2 := by
  intro telling completed
  obtain ⟨hbuffer, hmatches⟩ := hlogged
  have hdata : telling.data.length ≤ Frame.maxData := by
    change 8 ≤ 65535
    omega
  obtain ⟨sent, hexchange, hsent⟩ := Message.run_exchange platform telling hbuffer hroom rfl
    hdata hsize
  rw [telling.body_eq platform buffer hmatches] at hexchange
  obtain ⟨last, hcomplete, hlast⟩ := run_complete hexchange
  have hcompleted : completed = _ := hcomplete
  rw [hcompleted]
  exact ⟨rfl, hbuffer, (telling.sent_matches platform buffer hmatches).trans (hsent.trans hlast)⟩

/-- Where the shared memory is too small for a completion, nothing is sent. -/
theorem run_completing_of_le (platform : Platform σ) (context : Context) (tokens : TokenSource)
    (hbuffer : endpoint.buffer = some buffer) (hsize : buffer.size.toNat ≤ 16) :
    let completed := (complete platform context).run tokens endpoint
    completed.1 = (.error .invalidParameter, tokens.take.2) ∧
      Holding buffer endpoint.world.Matches completed.2 := by
  intro completed
  obtain ⟨world, hexchange, hworld⟩ := Message.run_exchange_of_le platform
    (.completing context tokens) hbuffer rfl (by decide : 8 ≤ Frame.maxData) hsize
  obtain ⟨last, hcomplete, hmatches⟩ := run_complete hexchange
  have hcompleted : completed = _ := hcomplete
  rw [hcompleted]
  exact ⟨rfl, hbuffer, hworld.trans hmatches⟩

/-- Asking takes one token, leaves the buffer and hands no request out, and it only brings one where
there is room for the completion. -/
theorem retrieve_leaves (platform : Platform σ) (channel : ChannelId) (tokens : TokenSource)
    (hbuffer : endpoint.buffer = some buffer) (hroom : buffer.HasRoom) :
    let retrieved := (retrieve platform channel).run tokens endpoint
    retrieved.1.2 = tokens.take.2 ∧
      Holding buffer (fun world => world.handled = endpoint.world.handled) retrieved.2 ∧
      ∀ request, retrieved.1.1 = .ok request → 16 < buffer.size.toNat := by
  intro retrieved
  by_cases hsize : buffer.size.toNat ≤ 8
  · obtain ⟨hretrieved, hmiddle, hmatches⟩ :=
      run_retrieving_of_le platform channel tokens hbuffer hsize
    refine ⟨congrArg Prod.snd hretrieved, ⟨hmiddle, hmatches.handled_eq⟩, ?_⟩
    intro request hrequest
    cases (congrArg Prod.fst hretrieved).symm.trans hrequest
  · obtain ⟨hretrieved, hmiddle, hmatches⟩ :=
      run_retrieving platform channel tokens hbuffer hroom (by omega)
    have hhandled := hmatches.handled_eq.trans (World.handled_called platform _ _)
    refine ⟨congrArg Prod.snd hretrieved, ⟨hmiddle, hhandled⟩, ?_⟩
    intro request hrequest
    exact Message.lt_size_of_requested ((congrArg Prod.fst hretrieved).symm.trans hrequest)

/-- Without a request nothing more is done. -/
theorem run_unserved (handler : Handler σ) {context : Context} {left : TokenSource}
    {middle : Endpoint σ} {fault : Fault}
    (hretrieve : (retrieve platform context.channel).run tokens endpoint =
      ((.error fault, left), middle))
    (hmiddle : middle.buffer = some buffer) :
    let result := run platform handler context tokens endpoint
    result.1 = ((.error fault, context), left) ∧ Holding buffer middle.world.Matches result.2 := by
  intro result
  have hrun : result = _ := run_of_retrieve_error hretrieve
  rw [hrun]
  exact ⟨rfl, hmiddle, (World.Matches.refl _).noted _⟩

/-- A request is handled, and the code of its outcome is sent. -/
theorem run_served {handler : Handler σ} (hkeeps : handler.KeepsBuffer) {context : Context}
    {left : TokenSource} {middle : Endpoint σ} {request : Request}
    (hretrieve : (retrieve platform context.channel).run tokens endpoint =
      ((.ok request, left), middle))
    (hmiddle : middle.buffer = some buffer) (hroom : buffer.HasRoom)
    (hsize : 16 < buffer.size.toNat) :
    let result := run platform handler context tokens endpoint
    let given := { middle with
      world.history := .handled context.cpu request :: middle.world.history }
    let handled := handler context.cpu request given
    let telling := Message.completing (context.reporting handled.1) left
    result.1 = (((acknowledged (telling.body platform buffer handled.2.world)).map fun _ =>
        ReturnCode.ofOutcome handled.1, context.reporting handled.1), left.take.2) ∧
      Holding buffer (telling.sent platform buffer handled.2.world).Matches result.2 := by
  intro result given handled telling
  have hhandled : handled.2.buffer = some buffer := (hkeeps _ _ _).trans hmiddle
  have hhandle : handle handler context.cpu request middle = (handled.1, handled.2) := rfl
  obtain ⟨hcompleted, hlast, hsent⟩ := run_completing platform (context.reporting handled.1) left
    (holding_warned context.cpu handled.1 hhandled) hroom hsize
  have hrun : result = _ := run_of_retrieve hretrieve hhandle (Prod.ext hcompleted rfl)
  rw [hrun]
  exact ⟨rfl, hlast, hsent.noted _⟩

/-- A round of the loop, whatever the firmware answers and the handler comes to. It first asks for
the request, in one call, unless the shared memory is too small for that message. Without a request
the round fails with the fault of asking: the context is as it was, nothing is handled, and nothing
more has been done. With one, the handler is run on it once, on the CPU of the context, and finds it
taken down; unless the handler has requests handled itself, it is the one request that the round has
handled. Then one message with the code of the outcome goes out, for which the shared memory always
has room; it is the last thing that is done. The context keeps that code, and the round succeeds if
the message is acknowledged. The next round finds the same buffer. -/
theorem round_disciplined (platform : Platform σ) (hgrants : platform.GrantsAsked)
    (handler : Handler σ) (hkeeps : handler.KeepsBuffer) (hcomes : ComesAbout platform endpoint)
    (hbuffer : endpoint.buffer = some buffer) (context : Context) (tokens : TokenSource) :
    let asking := Message.retrieving context.channel tokens
    let retrieved := (retrieve platform context.channel).run tokens endpoint
    let result := run platform handler context tokens endpoint
    asking.call = .send context.channel 2 8 ∧
    (buffer.size.toNat ≤ 8 →
      retrieved.1 = (.error .invalidParameter, tokens.take.2) ∧
        retrieved.2.world.deeds = endpoint.world.deeds) ∧
    (8 < buffer.size.toNat →
      retrieved.1 = (requested (asking.body platform buffer endpoint.world), tokens.take.2) ∧
        retrieved.2.world.deeds = endpoint.world.deeds ++
          [.called asking.call (asking.answer platform buffer endpoint.world)]) ∧
    (∀ fault, retrieved.1.1 = .error fault →
      result.1 = ((.error fault, context), tokens.take.2) ∧
        retrieved.2.world.Matches result.2.world ∧
        result.2.world.deeds = retrieved.2.world.deeds ∧
        result.2.world.handled = endpoint.world.handled) ∧
    (∀ request, retrieved.1.1 = .ok request →
      let given := { retrieved.2 with
        world.history := .handled context.cpu request :: retrieved.2.world.history }
      let handled := handler context.cpu request given
      let code := ReturnCode.ofOutcome handled.1
      let reporting := { context with completion.code := code.code }
      let telling := Message.completing reporting tokens.take.2
      let staged := handled.2.world.stored buffer.region telling.frame
      given.world.deeds = retrieved.2.world.deeds ++ [.handled context.cpu request] ∧
      (handled.2.world.handled = given.world.handled →
        result.2.world.handled = endpoint.world.handled ++ [(context.cpu, request)]) ∧
      16 < buffer.size.toNat ∧ telling.call = .send context.channel 3 16 ∧
        telling.data = Bytes.ofUInt32 code.code.toUInt32 ++
          Bytes.ofUInt32 context.completion.reserved ∧
        staged.memory.fetch buffer.region.base 16 = telling.frame ∧
        (staged.called platform telling.call).Matches result.2.world ∧
        result.2.world.deeds = handled.2.world.deeds ++
          [.called telling.call (telling.answer platform buffer handled.2.world)] ∧
        result.1 = (((acknowledged (telling.body platform buffer handled.2.world)).map fun _ =>
          code, reporting), tokens.take.2.take.2)) ∧
    ComesAbout platform result.2 ∧ result.2.buffer = some buffer := by
  intro asking retrieved result
  have hroom := hcomes.hasRoom hgrants hbuffer
  obtain ⟨htokens, ⟨hmiddle, huntouched⟩, hsize⟩ :=
    retrieve_leaves platform context.channel tokens hbuffer hroom
  have hfailed (fault : Fault) (hfault : retrieved.1.1 = .error fault) :
      result.1 = ((.error fault, context), tokens.take.2) ∧
        Holding buffer retrieved.2.world.Matches result.2 :=
    run_unserved handler (Prod.ext (Prod.ext hfault htokens) rfl) hmiddle
  have hserved (request : Request) (hrequest : retrieved.1.1 = .ok request) :=
    run_served hkeeps (Prod.ext (Prod.ext hrequest htokens) rfl) hmiddle hroom
      (hsize request hrequest)
  -- either way the round ends with the buffer it began with
  have hkept : result.2.buffer = some buffer := by
    cases houtcome : retrieved.1.1 with
    | error fault => exact (hfailed fault houtcome).2.1
    | ok request => exact (hserved request houtcome).2.1
  refine ⟨rfl, ?_, ?_, ?_, ?_, hcomes.of_buffer (hkept.trans hbuffer.symm), hkept⟩
  · intro hsmall
    obtain ⟨hretrieved, -, hmatches⟩ :=
      run_retrieving_of_le platform context.channel tokens hbuffer hsmall
    exact ⟨hretrieved, hmatches.deeds_eq⟩
  · intro hlarge
    obtain ⟨hretrieved, -, hsent⟩ :=
      run_retrieving platform context.channel tokens hbuffer hroom hlarge
    exact ⟨hretrieved, hsent.deeds_eq.trans (World.deeds_called platform _ _)⟩
  · intro fault hfault
    obtain ⟨hresult, -, hmatches⟩ := hfailed fault hfault
    exact ⟨hresult, hmatches, hmatches.deeds_eq, hmatches.handled_eq.trans huntouched⟩
  · intro request hrequest given handled code reporting telling staged
    obtain ⟨hresult, -, hsent⟩ := hserved request hrequest
    have hhanded : given.world.handled = endpoint.world.handled ++ [(context.cpu, request)] :=
      (World.handled_record retrieved.2.world (.handled context.cpu request)).trans
        (congrArg (· ++ _) huntouched)
    -- the completion has nothing handled
    have hreported : result.2.world.handled = handled.2.world.handled :=
      hsent.handled_eq.trans (World.handled_called platform staged telling.call)
    refine ⟨World.deeds_record retrieved.2.world rfl, ?_, hsize request hrequest, rfl, rfl,
      Memory.fetch_store _ _ _, hsent, ?_, hresult⟩
    · exact fun hsame => hreported.trans (hsame.trans hhanded)
    · exact hsent.deeds_eq.trans (World.deeds_called platform _ _)

/-- An agent that forwards the same request again and again, and times out on completions. -/
def unanswering : Remote.Setup Unit :=
  let forward : Remote.Handler Unit := fun message frame agents =>
    match Header.decode? frame with
    | none => (.error .invalidParam, agents)
    | some header =>
      if message = Service.completeMessage.toUInt32 then (.error .timeout, agents)
      else ((Frame.encode header.reply (Bytes.ofWords [0, 0, 3] ++ [1, 2, 3])).mapError
        fun _ => .failed, agents)
  { size := 64
    channels := [(1, { attributes := [], readFault := none, handler := some forward })] }

/-- A handler that takes down what it gets at an address of its own and runs out of resources, where
nobody takes the completion. It is called once, and the context has the code. -/
theorem round_disciplined_unanswering :
    let firmware := Remote.platform unanswering Heap.allocate Heap.release
    let handler : Handler (Remote.State Unit × Heap) := fun cpu request endpoint =>
      (.error .outOfResources, { endpoint with
        world := endpoint.world.stored ⟨0x8000, 1, 0x8000⟩ (cpu.toUInt8 :: request.data) })
    let endpoint := after firmware
      { buffer := none, world := .fresh (.initial unanswering (), .fresh) } .init
    let context : Context := { cpu := 3, channel := ⟨1⟩, completion := ⟨0, 7⟩ }
    let result := run firmware handler context ⟨0xFFFF⟩ endpoint
    firmware.GrantsAsked ∧ handler.KeepsBuffer ∧ ComesAbout firmware endpoint ∧
      endpoint.buffer = some ⟨⟨0x1000, 1, 0x1000⟩, 64⟩ ∧
      result.1 = ((.error .timeout, { context with completion := ⟨-5, 7⟩ }), ⟨1⟩) ∧
      result.2.world.handled = [(3, { remaining := 0, data := [1, 2, 3] })] ∧
      result.2.world.memory.fetch 0x8000 4 = [3, 1, 2, 3] ∧
      result.2.buffer = some ⟨⟨0x1000, 1, 0x1000⟩, 64⟩ := by
  intro firmware handler endpoint context result
  have hgrants : firmware.GrantsAsked := Remote.grants_heap.asked unanswering Heap.release
  have hkeeps : handler.KeepsBuffer := fun _ _ _ => rfl
  have hcomes : ComesAbout firmware endpoint := .after .init (.fresh _)
  have hbuffer : endpoint.buffer = some ⟨⟨0x1000, 1, 0x1000⟩, 64⟩ := by decide
  obtain ⟨-, -, -, -, hserved, -, hkept⟩ :=
    round_disciplined firmware hgrants handler hkeeps hcomes hbuffer context ⟨0xFFFF⟩
  have hrequest : ((retrieve firmware context.channel).run ⟨0xFFFF⟩ endpoint).1.1 =
      .ok { remaining := 0, data := [1, 2, 3] } := rfl
  obtain ⟨-, hhandled, -, -, -, -, hmatches, -, hresult⟩ := hserved _ hrequest
  have hmemory : result.2.world.memory.fetch 0x8000 4 = [3, 1, 2, 3] := by
    rw [hmatches.memory_eq]
    rfl
  have hfirst : endpoint.world.handled = [] := rfl
  have hone : result.2.world.handled = [(3, { remaining := 0, data := [1, 2, 3] })] := by
    rw [hhandled rfl, hfirst]
    rfl
  have houtcome : result.1 = ((.error .timeout, { context with completion := ⟨-5, 7⟩ }), ⟨1⟩) := by
    rw [hresult]
    rfl
  exact ⟨hgrants, hkeeps, hcomes, hbuffer, houtcome, hone, hmemory, hkept⟩

end MessageProxy.Forwarding
