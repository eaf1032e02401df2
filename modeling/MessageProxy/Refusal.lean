import MessageProxy.Channel.Info
import MessageProxy.Fault
import MessageProxy.Frame.AgentStatus
import MessageProxy.Frame.Header

/-!
Reasons for which something that came from the other side, or a request to it, is refused.

A reason is a cause with what belongs to it. The fault that the caller sees and the warning that
is logged are both read off the cause; malformed bytes are refused without a warning.
-/

namespace MessageProxy

/-- The part of the system that a log line is about. -/
inductive Origin where
  | supervisor
  | softwareEvents
  | messageProxy
  | rpmi
deriving DecidableEq

/-- The name of a part, as log lines show it. -/
def Origin.name : Origin → String
  | supervisor => "sbi"
  | softwareEvents => "sse"
  | messageProxy => "mpxy"
  | rpmi => "rpmi"

/-- The device tree string of the node that describes a RAS agent. -/
def agentCompatible : String := "riscv,sbi-mpxy-ras-agent"

/-- The device tree property that holds an agent's channel. -/
def channelProperty : String := "riscv,sbi-mpxy-channel-id"

/-- Why something is refused. -/
inductive Refusal where
  /-- The firmware has no message proxy, or does not tell. -/
  | noMessageProxy
  /-- A page of the channel list announces more ids than the shared memory holds. -/
  | listingOverflow (returned : UInt32)
  /-- No channel has the attribute value. -/
  | noChannel (key value : UInt32)
  /-- A response is said to be longer than the shared memory. -/
  | responseOverflow (length : UInt64)
  /-- The bytes end before something that has to be there. -/
  | incomplete
  /-- A frame answers another request. -/
  | foreign (answer request : Header)
  /-- An agent reports a failure. -/
  | agentFailed (status : Int32)
  /-- A device descriptor does not describe a RAS agent. -/
  | notAnAgent
  /-- A device descriptor names no channel. -/
  | noChannelProperty
  /-- A device descriptor's channel is not one cell. -/
  | malformedChannelProperty
  /-- A channel does not carry RPMI, or does not answer requests. -/
  | notARequestChannel (channel : ChannelId) (info : ChannelInfo)
  /-- An envelope came back with a length that its buffer cannot have. -/
  | envelopeLength (length : UInt64)
  /-- Envelopes are configured and there is nobody to give them to. -/
  | noCommunication
  /-- The message proxy could not be initialised for a session. -/
  | initFailed (fault : Fault)
  /-- The channel of a service group could not be found for a session. -/
  | resolveFailed (group : UInt16) (fault : Fault)
  /-- A session's channel could not be opened. -/
  | openFailed (channel : ChannelId) (fault : Fault)
  /-- A list of error sources is incomplete or longer than a client takes. -/
  | sourceListTooLarge (returned remaining : UInt32)
  /-- A descriptor did not come in one piece. -/
  | fragmentedDescriptor (source remaining : UInt32)
  /-- A descriptor is of an unknown type. -/
  | unknownDescriptor (flags : UInt32)
  /-- A descriptor is said to be longer than a client takes. -/
  | oversizedDescriptor (source returned : UInt32)
deriving DecidableEq

namespace Refusal

/-- The fault that the caller sees. -/
def fault : Refusal → Fault
  | noMessageProxy | noChannel .. | notARequestChannel .. => .unsupported
  | notAnAgent | noChannelProperty => .notFound
  | malformedChannelProperty => .invalidParameter
  | noCommunication | initFailed _ | resolveFailed .. | openFailed .. => .notReady
  | sourceListTooLarge .. => .capacityExceeded
  | listingOverflow _ | responseOverflow _ | incomplete | foreign .. | agentFailed _
  | envelopeLength _ | fragmentedDescriptor .. | unknownDescriptor _ | oversizedDescriptor .. =>
    .deviceError

/-- The part of the system that the warning is about. -/
def origin : Refusal → Origin
  | noMessageProxy | listingOverflow _ | noChannel .. | responseOverflow _ => .messageProxy
  | _ => .rpmi

/-- A frame's group, service and token, as log lines show them. -/
def address (header : Header) : String :=
  hexadecimal header.group.toNat ++ "/" ++ hexadecimal header.service.toNat ++ "/" ++
    toString header.token.toNat

/-- The warning to log, for the reasons that are worth one. -/
def warning? : Refusal → Option String
  | noMessageProxy => some "MPXY extension not present"
  | listingOverflow returned =>
    some s!"channel list overflows shared memory ({returned.toNat} ids)"
  | noChannel key value =>
    some ("no channel with attribute " ++ hexadecimal key.toNat ++ " = " ++
      hexadecimal value.toNat)
  | responseOverflow length =>
    some s!"response length {length.toNat} overflows shared memory"
  | foreign answer request =>
    some ("response " ++ address answer ++ " does not answer " ++ address request)
  | agentFailed status =>
    match AgentStatus.ofCode? status with
    | some meaning => some ("agent returned " ++ meaning.name)
    | none => some s!"agent returned unknown status {status.toInt}"
  | notAnAgent => some ("no '" ++ agentCompatible ++ "' node")
  | noChannelProperty => some ("no '" ++ channelProperty ++ "' property")
  | notARequestChannel channel info =>
    some ("channel " ++ channel.shown ++ " is not an RPMI request channel (protocol " ++
      toString info.protocolId.toNat ++ ", caps " ++ info.capability.described ++ ")")
  | envelopeLength length => some s!"communicate returned bad length {length.toNat}"
  | noCommunication => some "indirect transport without communicate capability"
  | initFailed fault => some ("mpxy init failed: " ++ fault.message)
  | resolveFailed group fault =>
    some ("no channel for service group " ++ hexadecimal group.toNat ++ ": " ++ fault.message)
  | openFailed channel fault =>
    some ("channel " ++ channel.shown ++ " open failed: " ++ fault.message)
  | sourceListTooLarge returned remaining =>
    some (s!"error source list too large (returned {returned.toNat}, remaining " ++
      s!"{remaining.toNat})")
  | fragmentedDescriptor source remaining =>
    some (s!"descriptor of source {source.toNat} is fragmented ({remaining.toNat} bytes " ++
      "remaining)")
  | unknownDescriptor flags =>
    some ("unknown descriptor type in flags " ++ hexadecimal flags.toNat)
  | oversizedDescriptor source returned =>
    some s!"descriptor of source {source.toNat} is {returned.toNat} bytes"
  | incomplete | malformedChannelProperty => none

end Refusal

end MessageProxy
