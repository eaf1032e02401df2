import MessageProxy.Endpoint.Lifecycle
import MessageProxy.Endpoint.Messages
import MessageProxy.Frame.Codec
import MessageProxy.Frame.Token

/-!
The messages of the request forwarding service group.

An acknowledgement may be empty or shorter than a status word; a longer one has to start with the
status of a success. A retrieved request is a status, two counters and the request's bytes.
-/

namespace MessageProxy.Forwarding

/-! The services of the request forwarding service group. -/

namespace Service

def enableNotification : UInt8 := 1
def retrieveMessage : UInt8 := 2
def completeMessage : UInt8 := 3

end Service

/-- The size of what stands in front of a retrieved request. -/
def retrieveHeaderLength : Nat := 12

/-- An action that takes tokens. -/
abbrev TokenAction (σ : Type) := ExceptT Fault (StateT TokenSource (StateM (Endpoint σ)))

variable {σ : Type}

/-- Takes the next token. -/
def takeToken : TokenAction σ UInt16 := do
  let source ← get
  set source.take.2
  return source.take.1

/-- The size of the shared memory; an endpoint without one is not ready. -/
def bufferSize : Action σ UInt64 := do
  match (← get).sharedMemorySize with
  | some size => return size
  | none => throw .notReady

/-- Sends one message and returns the data of the agent's answer; an agent may answer with
nothing. -/
def exchange (platform : Platform σ) (channel : ChannelId) (service : UInt8) (data : Bytes) :
    TokenAction σ (Option Bytes) := do
  let header := Header.request ServiceGroup.requestForward service (← takeToken)
  match Frame.encode header data with
  | .error fault => throw fault
  | .ok frame =>
    let capacity ← (bufferSize : Action σ UInt64)
    match ← Endpoint.send platform channel service.toUInt32 frame capacity.toNat with
    | [] => return none
    | answer =>
      let (_, body) ← accept (Frame.decode header answer)
      return some body

/-- Accepts an acknowledgement unless it starts with the status of a failure. -/
def checkAcknowledgement (body : Option Bytes) : Except Refusal Unit :=
  match Bytes.words (body.getD []) with
  | status :: _ => AgentStatus.check status.toInt32
  | [] => .ok ()

/-- Sends a completion and checks its acknowledgement. -/
def complete (platform : Platform σ) (context : Context) : TokenAction σ Unit := do
  let body ← exchange platform context.channel Service.completeMessage context.completion.encode
  accept (checkAcknowledgement body)

/-- Asks the agent to tell when it forwards a request. -/
def enableNotification (platform : Platform σ) (channel : ChannelId) : TokenAction σ Unit := do
  let body ← exchange platform channel Service.enableNotification []
  accept (checkAcknowledgement body)
  note (.notificationsEnabled channel)

/-- What a retrieve answer says before its status is looked at. -/
structure Retrieval where
  status : Int32
  remaining : UInt32
  returned : UInt32
  data : Bytes
deriving DecidableEq

/-- Reads the status and the counters of a retrieve answer. -/
def Retrieval.ofBody? : Bytes → Option Retrieval
  | s0 :: s1 :: s2 :: s3 :: m0 :: m1 :: m2 :: m3 :: r0 :: r1 :: r2 :: r3 :: data =>
    some { status := (Bytes.toUInt32 s0 s1 s2 s3).toInt32
           remaining := Bytes.toUInt32 m0 m1 m2 m3
           returned := Bytes.toUInt32 r0 r1 r2 r3
           data }
  | _ => none

theorem Retrieval.ofBody?_ofWords (status remaining returned : UInt32) (data : Bytes) :
    ofBody? (Bytes.ofWords [status, remaining, returned] ++ data) =
      some { status := status.toInt32, remaining, returned, data } := by
  simp [Bytes.ofWords, Bytes.ofUInt32, ofBody?, Bytes.toUInt32_digit]

/-- The request of a successful retrieve answer: as many bytes as it says. -/
def Retrieval.request (retrieval : Retrieval) : Except Refusal Request := do
  AgentStatus.check retrieval.status
  match Bytes.take? retrieval.returned.toNat retrieval.data with
  | some data => return { remaining := retrieval.remaining, data }
  | none => throw .incomplete

/-- Fetches the request that the agent forwards at the moment. -/
def retrieve (platform : Platform σ) (channel : ChannelId) : TokenAction σ Request := do
  match ← exchange platform channel Service.retrieveMessage [] with
  | none => refuse .incomplete
  | some body =>
    match Retrieval.ofBody? body with
    | none => refuse .incomplete
    | some retrieval =>
      note (.retrieved retrieval.status retrieval.remaining retrieval.returned)
      accept retrieval.request

end MessageProxy.Forwarding
