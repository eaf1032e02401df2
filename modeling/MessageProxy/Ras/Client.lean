import MessageProxy.Delivery
import MessageProxy.Endpoint.Lifecycle
import MessageProxy.Frame.Token
import MessageProxy.Peer
import MessageProxy.Ras.Reply

/-!
A client of a RAS agent: setting a session up in stages, and asking for error sources.

A session only moves forward. A stage that fails leaves it where it is, and establishing it again
goes on from there; the one fault that establishing reports is that the session is not ready.
-/

namespace MessageProxy.Ras

/-- A client and how far its session has come. -/
structure Client (σ : Type) where
  config : Config
  /-- The capability to give envelopes away, if the client has it. -/
  communicate : Option (Communicate σ)
  /-- How requests are delivered, once the session is ready. -/
  delivery : Option (Delivery σ)
  tokens : TokenSource
  stage : Stage

/-- An action of a client over its endpoint. -/
abbrev ClientAction (σ : Type) := ExceptT Fault (StateT (Client σ) (StateM (Endpoint σ)))

namespace Client

variable {σ : Type}

/-- A client whose session has not been established. -/
def ofConfig (config : Config) (communicate : Option (Communicate σ)) : Client σ :=
  { config, communicate, delivery := none, tokens := ⟨1⟩, stage := .uninitialized }

/-- Moves the session to another stage. -/
def enter (stage : Stage) : ClientAction σ Unit := do
  let client ← get
  note (.entered client.stage stage)
  set { client with stage }
  if stage = .ready then
    note (.sessionReady client.config.group client.config.passThrough)

/-- Makes the session ready with the given delivery. -/
def finish (delivery : Delivery σ) : ClientAction σ Unit := do
  modify ({ · with delivery := some delivery })
  enter .ready

/-- Initialises the message proxy and finds the agent's channel; finds nothing when the search
spends its budget. -/
def resolve (platform : Platform σ) (budget : Nat) : ClientAction σ (Option ChannelId) := do
  let { source, group, .. } := (← get).config
  match ← observing (Endpoint.init platform : Action σ Unit) with
  | .error fault => refuse (.initFailed fault)
  | .ok () =>
    match ← observing (Endpoint.resolveChannel platform budget source group) with
    | .error fault => refuse (.resolveFailed group fault)
    | .ok none => return none
    | .ok (some channel) =>
      enter (.channelResolved channel)
      return some channel

/-- Opens the agent's channel. -/
def openChannel (platform : Platform σ) (channel : ChannelId) : ClientAction σ Unit := do
  match ← observing (Endpoint.openRequestChannel platform channel) with
  | .error fault => refuse (.openFailed channel fault)
  | .ok _ => enter (.channelOpen channel)

/-- Goes on from a channel that is known. -/
def establishOn (platform : Platform σ) (channel : ChannelId) : ClientAction σ Bool := do
  openChannel platform channel
  finish (.passThrough channel)
  return true

/-- Drives the session towards readiness and tells whether it got there; it does not when the
search for the channel spends its budget of directory pages. -/
def establish (platform : Platform σ) (budget : Nat) : ClientAction σ Bool := do
  let client ← get
  match client.stage with
  | .ready => return true
  | .channelOpen channel =>
    finish (.passThrough channel)
    return true
  | .channelResolved channel => establishOn platform channel
  | .uninitialized =>
    if client.config.passThrough then
      match ← resolve platform budget with
      | some channel => establishOn platform channel
      | none => return false
    else match client.communicate with
      | none => refuse .noCommunication
      | some communicate =>
        finish (.enveloped communicate client.config.envelope)
        return true

/-- Takes the next token. -/
def takeToken : ClientAction σ UInt16 := do
  let client ← get
  set { client with tokens := client.tokens.take.2 }
  return client.tokens.take.1

/-- Sends one request, whose response may have a payload of `capacity` bytes, and returns the
response if its status is a success. -/
def request (platform : Platform σ) (service : UInt8) (data : Bytes) (capacity : Nat) :
    ClientAction σ Reply := do
  let client ← get
  match client.stage, client.delivery with
  | .ready, some delivery =>
    let header := Header.request client.config.group service (← takeToken)
    match Frame.encode header data with
    | .error fault => throw fault
    | .ok frame =>
      let response ← delivery.exchange platform service frame
        (Header.length + ResponseHeader.length + capacity)
      let reply ← accept (Reply.ofFrame header response)
      note (.serviceAnswered service reply.header)
      accept (AgentStatus.check reply.header.status)
      return reply
  | _, _ => throw .notReady

/-- The number of error sources that the agent knows. -/
def sourceCount (platform : Platform σ) : ClientAction σ UInt32 := do
  accept (← request platform Service.sourceCount [] 4).sourceCount

/-- The ids of all error sources. -/
def sourceIds (platform : Platform σ) : ClientAction σ (List UInt32) := do
  accept (← request platform Service.sourceIds [] (4 * maxSources)).sourceIds

/-- The descriptor of one error source. -/
def sourceDescriptor (platform : Platform σ) (source : UInt32) :
    ClientAction σ SourceDescriptor := do
  accept ((← request platform Service.sourceDescriptor (Bytes.ofUInt32 source)
    maxDescriptorLength).sourceDescriptor source)

end Client

end MessageProxy.Ras
