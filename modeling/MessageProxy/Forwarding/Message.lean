import MessageProxy.Bytes
import MessageProxy.Channel.Id
import MessageProxy.Fault

/-!
What request forwarding exchanges: a forwarded request, the code that reports its outcome and the
arguments of a completion.
-/

namespace MessageProxy.Forwarding

/-- A request that the agent forwards to this side. -/
structure Request where
  /-- Bytes of the request that the agent still holds. -/
  remaining : UInt32
  data : Bytes
deriving DecidableEq

/-- The outcome of a request, as it is reported to the agent. -/
inductive ReturnCode where
  | success
  | notSupported
  | invalidParams
  | denied
  | noMemory
deriving DecidableEq

namespace ReturnCode

/-- The code that reports a handler's outcome. -/
def ofOutcome : Except Fault Unit → ReturnCode
  | .ok () => success
  | .error .invalidParameter => invalidParams
  | .error .accessDenied => denied
  | .error .outOfResources => noMemory
  | .error _ => notSupported

/-- The code as a completion carries it. -/
def code : ReturnCode → Int32
  | success => 0
  | notSupported => -1
  | invalidParams => -2
  | denied => -3
  | noMemory => -5

/-- The name of the code, as log lines show it. -/
def name : ReturnCode → String
  | success => "Success"
  | notSupported => "NotSupported"
  | invalidParams => "InvalidParams"
  | denied => "Denied"
  | noMemory => "NoMemory"

end ReturnCode

/-- The arguments of a completion: the outcome's code and a word that is sent as given. -/
structure Completion where
  code : Int32
  reserved : UInt32
deriving DecidableEq

/-- The arguments in their encoded form. -/
def Completion.encode (completion : Completion) : Bytes :=
  Bytes.ofUInt32 completion.code.toUInt32 ++ Bytes.ofUInt32 completion.reserved

/-- Where a forwarding loop runs, on which channel, and what its next completion says. -/
structure Context where
  cpu : UInt64
  channel : ChannelId
  completion : Completion
deriving DecidableEq

/-- The context of a loop that has not completed anything. -/
def Context.fresh (cpu : UInt64) (channel : ChannelId) : Context :=
  { cpu, channel, completion := ⟨0, 0⟩ }

end MessageProxy.Forwarding
