import MessageProxy.Proofs.Forwarding.Exchange

/-!
Serving an agent that forwards requests from a queue.

One event takes the first message off the queue, has it handled and reports the outcome; so a run of
events takes as many messages, in order.
-/

namespace MessageProxy.Forwarding

open Remote

variable {κ α : Type} {setup : Setup κ} {allocate : UInt64 → α → Option Region × α}
  {release : Region → α → α} {endpoint : Endpoint (State κ × α)} {buffer : SharedBuffer}

/-- An agent that forwards requests from a queue. Asked for a request it hands out the first message
and takes it off the queue; what a completion says it takes down. Its answers are framed as replies
to the requests, and tell of a success. -/
structure Forwards (handler : Remote.Handler κ) (queue completions : κ → List Bytes) : Prop where
  retrieves : ∀ token frame agents message rest,
    let header := Header.request ServiceGroup.requestForward Service.retrieveMessage token
    Frame.encode header [] = .ok frame → queue agents = message :: rest →
    retrieveHeaderLength + message.length ≤ Frame.maxData →
    ∃ remaining answer after,
      Frame.encode header.reply
        (Bytes.ofWords [0, remaining, message.length.toUInt32] ++ message) = .ok answer ∧
      handler Service.retrieveMessage.toUInt32 frame agents = (.ok answer, after) ∧
      queue after = rest ∧ completions after = completions agents
  completes : ∀ token frame agents payload,
    let header := Header.request ServiceGroup.requestForward Service.completeMessage token
    Frame.encode header payload = .ok frame →
    ∃ answer after, Frame.encode header.reply (Bytes.ofUInt32 0) = .ok answer ∧
      handler Service.completeMessage.toUInt32 frame agents = (.ok answer, after) ∧
      queue after = queue agents ∧ completions after = completions agents ++ [payload]

section Queue

variable {queue completions : κ → List Bytes} {handler : Remote.Handler κ}
  {channel : ChannelId} {entry : Channel κ}

/-- The first message of the queue is retrieved as it is, and is off the queue then. -/
theorem retrieve_queued (allocate : UInt64 → α → Option Region × α) (release : Region → α → α)
    (hconnected : Connected setup buffer endpoint) (hreported : setup.reportedLength = none)
    (hchannel : setup.channel? channel.raw = some entry) (hhandler : entry.handler = some handler)
    (hforwards : Forwards handler queue completions) (tokens : TokenSource) {message : Bytes}
    {rest : List Bytes} (hqueue : queue endpoint.world.state.1.agents = message :: rest)
    (hlength : retrieveHeaderLength + message.length ≤ Frame.maxData)
    (hroom : Header.length + retrieveHeaderLength + message.length ≤ setup.size.toNat) :
    ∃ remaining agents next,
      (retrieve (platform setup allocate release) channel).run tokens endpoint =
        ((.ok { remaining, data := message }, tokens.take.2), next) ∧
      Heard setup buffer agents endpoint next ∧ queue agents = rest ∧
      completions agents = completions endpoint.world.state.1.agents := by
  have hframe := Frame.encode_of_le
    (.request ServiceGroup.requestForward Service.retrieveMessage tokens.next)
    (show ([] : Bytes).length ≤ Frame.maxData from Nat.zero_le _)
  obtain ⟨remaining, answer, agents, hanswer, hhandled, hrest, hsame⟩ :=
    hforwards.retrieves tokens.next _ _ message rest hframe hqueue hlength
  have hframeLength := Frame.length_of_encode hframe
  have hanswerLength := Frame.length_of_encode hanswer
  rw [List.length_append, Bytes.length_ofWords] at hanswerLength
  unfold Header.length retrieveHeaderLength at hroom
  obtain ⟨next, hexchange, hheard⟩ := exchange_answered allocate release hconnected hreported
    hframe (by rw [hframeLength, Header.length, List.length_nil]; omega)
    ((reply_of_handler hchannel hhandler _ _ _).trans hhandled) hanswer
    (by rw [hanswerLength, Header.length]; simp only [List.length_cons, List.length_nil]; omega)
  have hreturned : message.length.toUInt32.toNat = message.length := by
    unfold retrieveHeaderLength Frame.maxData at hlength
    exact UInt32.toNat_ofNat_of_lt' (show message.length < 2 ^ 32 by omega)
  have hrequest : Retrieval.request
      { status := 0, remaining, returned := message.length.toUInt32, data := message } =
        .ok { remaining, data := message } := by
    have htake : Bytes.take? message.length.toUInt32.toNat message = some message := by
      rw [hreturned, Bytes.take?, if_pos (Nat.le_refl _), List.take_length]
    unfold Retrieval.request
    simp only [htake]
    rfl
  refine ⟨remaining, agents, _, ?_,
    hheard.noted (.retrieved 0 remaining message.length.toUInt32), hrest, hsame⟩
  unfold retrieve
  rw [run_bind_own, hexchange]
  simp only [Retrieval.ofBody?_ofWords]
  change (ExceptT.run (accept (Retrieval.request
    { status := 0, remaining, returned := message.length.toUInt32, data := message }) :
      TokenAction (State κ × α) Request) tokens.take.2 _) = _
  rw [hrequest]
  rfl

/-- A completion is taken down as it was sent, and leaves the queue as it is. -/
theorem complete_queued (allocate : UInt64 → α → Option Region × α) (release : Region → α → α)
    (hconnected : Connected setup buffer endpoint) (hreported : setup.reportedLength = none)
    (context : Context) (hchannel : setup.channel? context.channel.raw = some entry)
    (hhandler : entry.handler = some handler) (hforwards : Forwards handler queue completions)
    (tokens : TokenSource)
    (hroom : Header.length + retrieveHeaderLength ≤ setup.size.toNat) :
    ∃ agents next,
      (complete (platform setup allocate release) context).run tokens endpoint =
        ((.ok (), tokens.take.2), next) ∧
      Heard setup buffer agents endpoint next ∧
      queue agents = queue endpoint.world.state.1.agents ∧
      completions agents =
        completions endpoint.world.state.1.agents ++ [context.completion.encode] := by
  have hpayload : context.completion.encode.length = 8 := rfl
  have hframe := Frame.encode_of_le
    (.request ServiceGroup.requestForward Service.completeMessage tokens.next)
    (show context.completion.encode.length ≤ Frame.maxData by rw [hpayload]; decide)
  obtain ⟨answer, agents, hanswer, hhandled, hsame, htaken⟩ :=
    hforwards.completes tokens.next _ _ context.completion.encode hframe
  have hframeLength := Frame.length_of_encode hframe
  have hanswerLength := Frame.length_of_encode hanswer
  rw [Bytes.length_ofUInt32] at hanswerLength
  unfold Header.length retrieveHeaderLength at hroom
  obtain ⟨next, hexchange, hheard⟩ := exchange_answered allocate release hconnected hreported
    hframe (by rw [hframeLength, Header.length, hpayload]; omega)
    ((reply_of_handler hchannel hhandler _ _ _).trans hhandled) hanswer
    (by rw [hanswerLength, Header.length]; omega)
  refine ⟨agents, next, ?_, hheard, hsame, htaken⟩
  unfold complete
  rw [run_bind_own, hexchange]
  rfl

end Queue

/-- A handler that keeps to a state of its own, beside that of the firmware. -/
def apart (serve : UInt64 → Request → α → Except Fault Unit × α) : Handler (State κ × α) :=
  fun cpu request endpoint =>
    let served := serve cpu request endpoint.world.state.2
    (served.1, { endpoint with
      world := { endpoint.world with state := (endpoint.world.state.1, served.2) } })

/-- What comes of requests that are served one after the other. -/
def served (serve : UInt64 → Request → α → Except Fault Unit × α) (cpu : UInt64) :
    α → List Request → List (Except Fault Unit)
  | _, [] => []
  | own, request :: rest =>
    (serve cpu request own).1 :: served serve cpu (serve cpu request own).2 rest

section Event

variable {queue completions : κ → List Bytes} {handler : Remote.Handler κ} {entry : Channel κ}
  {agent : Agent}

/-- A handler that keeps to itself leaves the remote and the connection as they were. -/
theorem handle_apart (hconnected : Connected setup buffer endpoint)
    (serve : UInt64 → Request → α → Except Fault Unit × α) (cpu : UInt64) (request : Request) :
    ∃ done, handle (apart serve) cpu request endpoint =
        ((serve cpu request endpoint.world.state.2).1, done) ∧
      Connected setup buffer done ∧
      done.world.state =
        (endpoint.world.state.1, (serve cpu request endpoint.world.state.2).2) ∧
      done.world.handled = endpoint.world.handled ++ [(cpu, request)] :=
  ⟨_, rfl, ⟨hconnected.holds, hconnected.fits, hconnected.registered⟩, rfl,
    World.handled_record endpoint.world (.handled cpu request)⟩

theorem heard_warned (hconnected : Connected setup buffer endpoint) (cpu : UInt64)
    (outcome : Except Fault Unit) :
    Heard setup buffer endpoint.world.state.1.agents endpoint (warned cpu outcome endpoint) := by
  cases outcome with
  | ok _ => exact .refl hconnected
  | error fault => exact (Heard.refl hconnected).noted _

/-- An event has the first message of the queue handled once and its outcome reported. -/
theorem onEvent_queued (allocate : UInt64 → α → Option Region × α) (release : Region → α → α)
    (hconnected : Connected setup buffer endpoint) (hreported : setup.reportedLength = none)
    (hchannel : setup.channel? agent.context.channel.raw = some entry)
    (hhandler : entry.handler = some handler) (hforwards : Forwards handler queue completions)
    (serve : UInt64 → Request → α → Except Fault Unit × α) (event : UInt32) {message : Bytes}
    {rest : List Bytes} (hqueue : queue endpoint.world.state.1.agents = message :: rest)
    (hlength : retrieveHeaderLength + message.length ≤ Frame.maxData)
    (hroom : Header.length + retrieveHeaderLength + message.length ≤ setup.size.toNat) :
    ∃ remaining next,
      let request : Request := { remaining, data := message }
      let result := serve agent.context.cpu request endpoint.world.state.2
      agent.onEvent (platform setup allocate release) (apart serve) event endpoint =
        ({ tokens := agent.tokens.take.2.take.2, context := agent.context.reporting result.1
           last := some (.ok (.ofOutcome result.1)) }, next) ∧
      Connected setup buffer next ∧ queue next.world.state.1.agents = rest ∧
      completions next.world.state.1.agents = completions endpoint.world.state.1.agents ++
        [(agent.context.reporting result.1).completion.encode] ∧
      next.world.state.2 = result.2 ∧
      next.world.handled = endpoint.world.handled ++ [(agent.context.cpu, request)] := by
  have hfired : Heard setup buffer endpoint.world.state.1.agents endpoint
      { endpoint with world := endpoint.world.noted (.eventFired event agent.context.cpu) } :=
    (Heard.refl hconnected).noted _
  obtain ⟨remaining, retrieved, middle, hretrieve, hheard, hrest, hsame⟩ :=
    retrieve_queued allocate release hfired.connected hreported hchannel hhandler hforwards
      agent.tokens hqueue hlength hroom
  obtain ⟨done, hhandle, hdone, hstate, hhandled⟩ := handle_apart hheard.connected serve
    agent.context.cpu { remaining, data := message }
  rw [hheard.pages_eq, hfired.pages_eq] at hhandle hstate
  rw [hfired.agents_eq] at hsame
  generalize hresult : serve agent.context.cpu { remaining, data := message }
    endpoint.world.state.2 = result at hhandle hstate
  have hwarned := heard_warned hdone agent.context.cpu result.1
  obtain ⟨completed, next, hcomplete, hlast, hqueued, htaken⟩ :=
    complete_queued allocate release hwarned.connected hreported
      (agent.context.reporting result.1) hchannel hhandler hforwards
      agent.tokens.take.2 (by omega)
  have hrun := run_of_retrieve hretrieve hhandle hcomplete
  have hagents : (warned agent.context.cpu result.1 done).world.state.1.agents = retrieved := by
    rw [hwarned.agents_eq, hstate]
    exact hheard.agents_eq
  have hended := hlast.noted (.completed (.ofOutcome result.1))
  refine ⟨remaining, { next with world := next.world.noted (.completed (.ofOutcome result.1)) }, ?_⟩
  dsimp only
  rw [hresult]
  refine ⟨?_, hended.connected, ?_, ?_, ?_, ?_⟩
  · exact onEvent_of_run agent event hrun
  · rw [hended.agents_eq, hqueued, hagents, hrest]
  · rw [hended.agents_eq, htaken, hagents, hsame]
  · rw [hended.pages_eq, hwarned.pages_eq, hstate]
  · rw [hended.handled_eq, hwarned.handled_eq, hhandled, hheard.handled_eq, hfired.handled_eq]

/-- A sequence of events, as long as the queue at most, has the first messages of the queue handled
once each and in order, and their outcomes reported. -/
theorem onEvents_queued (allocate : UInt64 → α → Option Region × α) (release : Region → α → α)
    (hconnected : Connected setup buffer endpoint) (hreported : setup.reportedLength = none)
    (hchannel : setup.channel? agent.context.channel.raw = some entry)
    (hhandler : entry.handler = some handler) (hforwards : Forwards handler queue completions)
    (serve : UInt64 → Request → α → Except Fault Unit × α) (events : List UInt32)
    (hevents : events.length ≤ (queue endpoint.world.state.1.agents).length)
    (hmessages : ∀ message ∈ (queue endpoint.world.state.1.agents).take events.length,
      retrieveHeaderLength + message.length ≤ Frame.maxData ∧
      Header.length + retrieveHeaderLength + message.length ≤ setup.size.toNat) :
    let ended := agent.onEvents (platform setup allocate release) (apart serve) events endpoint
    ∃ requests : List Request,
      let outcomes := served serve agent.context.cpu endpoint.world.state.2 requests
      requests.map (·.data) = (queue endpoint.world.state.1.agents).take events.length ∧
      ended.2.world.handled = endpoint.world.handled ++ requests.map (agent.context.cpu, ·) ∧
      queue ended.2.world.state.1.agents =
        (queue endpoint.world.state.1.agents).drop events.length ∧
      completions ended.2.world.state.1.agents = completions endpoint.world.state.1.agents ++
        outcomes.map (fun outcome => (agent.context.reporting outcome).completion.encode) ∧
      ended.1.last = (outcomes.getLast?.map fun outcome => .ok (.ofOutcome outcome)).or
        agent.last := by
  induction events generalizing agent endpoint with
  | nil => exact ⟨[], rfl, (List.append_nil _).symm, rfl, (List.append_nil _).symm, rfl⟩
  | cons event events ih =>
    intro ended
    cases hqueue : queue endpoint.world.state.1.agents with
    | nil =>
      rw [hqueue] at hevents
      exact absurd hevents (Nat.not_succ_le_zero _)
    | cons message rest =>
      rw [hqueue] at hevents hmessages
      obtain ⟨⟨hlength, hroom⟩, hlater⟩ := List.forall_mem_cons.1 hmessages
      obtain ⟨remaining, next, hevent, hnext, hrest, htaken, hown, hhandled⟩ :=
        onEvent_queued allocate release hconnected hreported hchannel hhandler hforwards serve event
          hqueue hlength hroom
      generalize hresult : serve agent.context.cpu { remaining, data := message }
        endpoint.world.state.2 = result at hevent htaken hown
      have hlaterChannel : setup.channel? (Agent.mk agent.tokens.take.2.take.2
          (agent.context.reporting result.1)
          (some (.ok (.ofOutcome result.1)))).context.channel.raw = some entry := hchannel
      obtain ⟨requests, hdata, hrequests, hleft, hcompleted, hlast⟩ := ih hnext hlaterChannel
        (hrest ▸ Nat.le_of_succ_le_succ hevents) (hrest ▸ hlater)
      have hended : ended = Agent.onEvents (platform setup allocate release) (apart serve)
          (Agent.mk agent.tokens.take.2.take.2 (agent.context.reporting result.1)
            (some (.ok (.ofOutcome result.1)))) events next := by
        change Agent.onEvents (platform setup allocate release) (apart serve)
          (agent.onEvent (platform setup allocate release) (apart serve) event endpoint).1 events
          (agent.onEvent (platform setup allocate release) (apart serve) event endpoint).2 = _
        rw [hevent]
      have hserved : served serve agent.context.cpu endpoint.world.state.2
          ({ remaining, data := message } :: requests) =
            result.1 :: served serve agent.context.cpu next.world.state.2 requests := by
        rw [served, hresult, hown]
      rw [hended]
      refine ⟨{ remaining, data := message } :: requests, ?_⟩
      dsimp only
      rw [hserved]
      refine ⟨?_, ?_, ?_, ?_, ?_⟩
      · rw [List.map_cons, hdata, hrest]
        rfl
      · rw [hrequests, hhandled, List.append_assoc]
        rfl
      · rw [hleft, hrest]
        rfl
      · rw [hcompleted, htaken, List.append_assoc]
        rfl
      · rw [hlast, List.getLast?_cons]
        change ((served serve agent.context.cpu next.world.state.2 requests).getLast?.map
          fun outcome => Except.ok (ReturnCode.ofOutcome outcome)).or
            (some (.ok (.ofOutcome result.1))) = _
        cases (served serve agent.context.cpu next.world.state.2 requests).getLast? with
        | none => rfl
        | some outcome => rfl

end Event

/-- An agent that keeps its queue and the completions in lists. -/
def relay : Remote.Handler (List Bytes × List Bytes) := fun message frame (queue, completions) =>
  match Header.decode? frame with
  | none => (.error .invalidParam, queue, completions)
  | some header =>
    let framed (body : Bytes) : Except Status Bytes :=
      (Frame.encode header.reply body).mapError fun _ => .failed
    if message = Service.completeMessage.toUInt32 then
      (framed (Bytes.ofUInt32 0), queue, completions ++ [frame.drop Header.length])
    else
      let first := queue.headD []
      (framed (Bytes.ofWords [0, queue.tail.length.toUInt32, first.length.toUInt32] ++ first),
        queue.tail, completions)

theorem forwards_relay : Forwards relay Prod.fst Prod.snd where
  retrieves token frame agents message rest := by
    intro header hframe hqueue hlength
    obtain ⟨-, rfl⟩ := Frame.eq_of_encode hframe
    obtain ⟨_, completions⟩ := agents
    cases hqueue
    have hbody : (Bytes.ofWords [0, rest.length.toUInt32, message.length.toUInt32] ++
        message).length ≤ Frame.maxData := by
      rw [List.length_append, Bytes.length_ofWords]
      exact hlength
    have hanswer := Frame.encode_of_le header.reply hbody
    refine ⟨rest.length.toUInt32, _, (rest, completions), hanswer, ?_, rfl, rfl⟩
    unfold relay
    simp only [Header.decode?_encode_append]
    exact congrArg (fun outcome => (Except.mapError (fun _ => Status.failed) outcome, rest,
      completions)) hanswer
  completes token frame agents payload := by
    intro header hframe
    obtain ⟨-, rfl⟩ := Frame.eq_of_encode hframe
    obtain ⟨queue, completions⟩ := agents
    have hbody : (Bytes.ofUInt32 0).length ≤ Frame.maxData := by decide
    have hanswer := Frame.encode_of_le header.reply hbody
    refine ⟨_, (queue, completions ++ [payload]), hanswer, ?_, rfl, rfl⟩
    unfold relay
    simp only [Header.decode?_encode_append, List.drop_left' (Header.length_encode _)]
    exact congrArg (fun outcome => (Except.mapError (fun _ => Status.failed) outcome, queue,
      completions ++ [payload])) hanswer

/-- A remote with that agent on its one channel. -/
def relaying : Setup (List Bytes × List Bytes) :=
  { size := 64, channels := [(1, { attributes := [], readFault := none, handler := some relay })] }

/-- A handler that refuses empty requests. -/
def refuseEmpty (_ : UInt64) (request : Request) (heap : Heap) : Except Fault Unit × Heap :=
  (if request.data = [] then .error .accessDenied else .ok (), heap)

end MessageProxy.Forwarding
