import MessageProxy.Forwarding.Exchange

/-!
The loop that serves forwarded requests: retrieve one, handle it here, report the outcome.

A request that cannot be retrieved is not completed. A request that is handled is completed with
the code of its outcome, whatever the outcome is.
-/

namespace MessageProxy.Forwarding

variable {σ : Type}

/-- What handles forwarded requests, given the CPU they are handled on. -/
abbrev Handler (σ : Type) := UInt64 → Request → StateM (Endpoint σ) (Except Fault Unit)

/-- Gives a request to its handler. -/
def handle (handler : Handler σ) (cpu : UInt64) (request : Request) :
    StateM (Endpoint σ) (Except Fault Unit) := do
  (World.record (.handled cpu request) : StateM (World σ) Unit)
  handler cpu request

/-- Serves one forwarded request. Returns the reported code, and the context with that code in its
completion; a request that could not be retrieved leaves the context as it was. -/
def run (platform : Platform σ) (handler : Handler σ) (context : Context) :
    StateT TokenSource (StateM (Endpoint σ)) (Except Fault ReturnCode × Context) := do
  match ← (retrieve platform context.channel).run with
  | .error fault =>
    note (.retrieveFailed context.channel fault)
    return (.error fault, context)
  | .ok request =>
    let outcome ← handle handler context.cpu request
    if let .error fault := outcome then
      note (.handlerFailed context.cpu fault)
    let code := ReturnCode.ofOutcome outcome
    let context := { context with completion.code := code.code }
    match ← (complete platform context).run with
    | .error fault =>
      note (.completionFailed context.channel fault)
      return (.error fault, context)
    | .ok () =>
      note (.completed code)
      return (.ok code, context)

/-- The handshake at boot: initialises the endpoint and sends a first completion with the token
zero, which says whether that worked. -/
def announceReady (platform : Platform σ) (context : Context) :
    StateM (Endpoint σ) (Except Fault ReturnCode × Context) := do
  let code ← match ← (Endpoint.init platform).run with
    | .ok () => pure ReturnCode.success
    | .error fault => do
      note (.handshakeInitFailed fault)
      pure ReturnCode.notSupported
  let context := { context with completion := ⟨code.code, 0⟩ }
  let (outcome, _) ← (complete platform context).run.run ⟨0⟩
  return (outcome.map fun _ => code, context)

/-- A loop that runs whenever an event says so. -/
structure Agent where
  tokens : TokenSource
  context : Context
  /-- The outcome of the latest event. -/
  last : Option (Except Fault ReturnCode)

/-- Serves one forwarded request when an event arrives. -/
def Agent.onEvent (platform : Platform σ) (handler : Handler σ) (agent : Agent) (event : UInt32) :
    StateM (Endpoint σ) Agent := do
  note (.eventFired event agent.context.cpu)
  let ((outcome, context), tokens) ← (run platform handler agent.context).run agent.tokens
  return { tokens, context, last := some outcome }

end MessageProxy.Forwarding
