import MessageProxy.Forwarding.Loop
import MessageProxy.Proofs.Remote.Exchange

/-!
One message of the request forwarding service group, and one round of the loop that serves forwarded
requests, as equations about their runs.
-/

namespace MessageProxy.Forwarding

open Remote

variable {κ α : Type} {setup : Setup κ} {allocate : UInt64 → α → Option Region × α}
  {release : Region → α → α} {endpoint : Endpoint (State κ × α)} {buffer : SharedBuffer}
  {tokens : TokenSource}

section Actions

variable {σ : Type}

theorem run_takeToken (tokens : TokenSource) (endpoint : Endpoint σ) :
    (takeToken : TokenAction σ UInt16).run tokens endpoint =
      ((.ok tokens.next, tokens.take.2), endpoint) :=
  rfl

theorem run_bufferSize {endpoint : Endpoint σ} (hbuffer : endpoint.buffer = some buffer) :
    (bufferSize : Action σ UInt64).run endpoint = (.ok buffer.size, endpoint) := by
  unfold bufferSize
  simp only [run_bind, run_get, Endpoint.sharedMemorySize, hbuffer, Option.map_some, run_pure]

/-- A refusal is logged. -/
theorem run_accept (outcome : Except Refusal α) (tokens : TokenSource) (endpoint : Endpoint σ) :
    ∃ world, (accept outcome : TokenAction σ α).run tokens endpoint =
        ((outcome.mapError Refusal.fault, tokens), { endpoint with world }) ∧
      endpoint.world.Matches world := by
  cases outcome with
  | ok value => exact ⟨_, rfl, .refl _⟩
  | error reason => exact ⟨_, rfl, (World.Matches.refl _).noted _⟩

end Actions

/-- A message is answered with the data of the agent's frame, and takes one token. -/
theorem exchange_answered (allocate : UInt64 → α → Option Region × α) (release : Region → α → α)
    (hconnected : Connected setup buffer endpoint) (hreported : setup.reportedLength = none)
    {channel : ChannelId} {service : UInt8} {data frame body answer : Bytes} {agents : κ}
    (hframe : Frame.encode (.request ServiceGroup.requestForward service tokens.next) data =
      .ok frame)
    (hrequest : frame.length < setup.size.toNat)
    (hreply : reply setup channel.raw service.toUInt32 frame endpoint.world.state.1.agents =
      (.ok answer, agents))
    (hanswer : Frame.encode (Header.request ServiceGroup.requestForward service tokens.next).reply
      body = .ok answer)
    (hsize : answer.length ≤ setup.size.toNat) :
    ∃ next, (exchange (platform setup allocate release) channel service data).run tokens endpoint =
        ((.ok (some body), tokens.take.2), next) ∧ Heard setup buffer agents endpoint next := by
  obtain ⟨next, hsend, hheard⟩ := send_answered allocate release hconnected hreported hrequest
    hreply hsize hsize
  have hdecode := Frame.decode_of_encode (Header.answers_reply _) hanswer
  have hlength := Frame.length_of_encode hanswer
  refine ⟨next, ?_, hheard⟩
  have hcapacity := run_bufferSize hconnected.holds
  rw [hconnected.fits.size] at hcapacity
  unfold exchange
  rw [run_bind_own, run_takeToken]
  dsimp only
  rw [hframe]
  simp only [run_bind_own, Endpoint.run_lift_own, hcapacity, hsend]
  cases answer with
  | nil => exact absurd hlength (by rw [Header.length, List.length_nil]; omega)
  | cons first rest =>
    change ExceptT.run (do
      let answered ← accept (Frame.decode
        (.request ServiceGroup.requestForward service tokens.next) (first :: rest))
      return some answered.2 : TokenAction (State κ × α) (Option Bytes)) tokens.take.2 next = _
    rw [hdecode]
    rfl

/-- The completion that reports an outcome. -/
def Context.reporting (context : Context) (outcome : Except Fault Unit) : Context :=
  { context with completion.code := (ReturnCode.ofOutcome outcome).code }

/-- The endpoint after a handler's failure, if it failed, has been logged. -/
def warned {σ : Type} (cpu : UInt64) (outcome : Except Fault Unit) (endpoint : Endpoint σ) :
    Endpoint σ :=
  match outcome with
  | .ok () => endpoint
  | .error fault => { endpoint with world := endpoint.world.noted (.handlerFailed cpu fault) }

/-- What a round logs when its completion has been answered. -/
def closing (channel : ChannelId) (code : ReturnCode) : Except Fault Unit → Notice
  | .ok () => .completed code
  | .error fault => .completionFailed channel fault

section Round

variable {σ : Type} {platform : Platform σ} {handler : Handler σ} {context : Context}
  {tokens left last : TokenSource} {endpoint middle done next : Endpoint σ}

/-- A request that cannot be retrieved is neither handled nor completed. -/
theorem run_of_retrieve_error {fault : Fault}
    (hretrieve : (retrieve platform context.channel).run tokens endpoint =
      ((.error fault, left), middle)) :
    run platform handler context tokens endpoint =
      (((.error fault, context), left),
        { middle with world := middle.world.noted (.retrieveFailed context.channel fault) }) := by
  unfold run
  rw [bind_own, hretrieve]
  rfl

/-- A request that is retrieved is handled, and its outcome is reported. -/
theorem run_of_retrieve {request : Request} {outcome reported : Except Fault Unit}
    (hretrieve : (retrieve platform context.channel).run tokens endpoint =
      ((.ok request, left), middle))
    (hhandle : handle handler context.cpu request middle = (outcome, done))
    (hcomplete : (complete platform (context.reporting outcome)).run left
      (warned context.cpu outcome done) = ((reported, last), next)) :
    run platform handler context tokens endpoint =
      (((reported.map fun _ => .ofOutcome outcome, context.reporting outcome), last),
        { next with
          world := next.world.noted (closing context.channel (.ofOutcome outcome) reported) }) := by
  unfold Context.reporting at hcomplete
  unfold run
  rw [bind_own, hretrieve]
  dsimp only
  rw [bind_own, lift_own, hhandle]
  cases outcome with
  | ok _ =>
    rw [warned] at hcomplete
    dsimp only
    rw [bind_own, hcomplete]
    cases reported with
    | ok _ => rfl
    | error _ => rfl
  | error fault =>
    rw [warned] at hcomplete
    dsimp only
    rw [bind_own, Endpoint.note_own]
    dsimp only
    rw [bind_own, hcomplete]
    cases reported with
    | ok _ => rfl
    | error _ => rfl

end Round

theorem onEvent_of_run {σ : Type} {platform : Platform σ} {handler : Handler σ} (agent : Agent)
    (event : UInt32) {endpoint next : Endpoint σ} {outcome : Except Fault ReturnCode}
    {context : Context} {tokens : TokenSource}
    (hrun : run platform handler agent.context agent.tokens
        { endpoint with world := endpoint.world.noted (.eventFired event agent.context.cpu) } =
      (((outcome, context), tokens), next)) :
    agent.onEvent platform handler event endpoint =
      ({ tokens, context, last := some outcome }, next) := by
  have hevent : agent.onEvent platform handler event endpoint =
      let answered := run platform handler agent.context agent.tokens
        { endpoint with world := endpoint.world.noted (.eventFired event agent.context.cpu) }
      ({ tokens := answered.1.2, context := answered.1.1.2, last := some answered.1.1.1 },
        answered.2) :=
    rfl
  rw [hevent, hrun]

/-- The agent after a sequence of events. -/
def Agent.onEvents {σ : Type} (platform : Platform σ) (handler : Handler σ) (agent : Agent)
    (events : List UInt32) : StateM (Endpoint σ) Agent :=
  events.foldlM (Agent.onEvent platform handler) agent

end MessageProxy.Forwarding
