import MessageProxy.Channel.Capability
import MessageProxy.Channel.Id

/-!
The standard attributes of one channel, read as a block that starts at attribute zero.
-/

namespace MessageProxy

/-- The standard attributes that a client looks at. -/
structure ChannelInfo where
  protocolId : UInt32
  protocolVersion : UInt32
  maxMessageLength : UInt32
  sendTimeout : UInt32
  completionTimeout : UInt32
  capability : Capability
  eventId : UInt32
deriving DecidableEq

namespace ChannelInfo

/-- Reads the standard block; a block shorter than the standard attributes is refused. -/
def ofAttributes? (values : List UInt32) : Option ChannelInfo :=
  if values.length < Attribute.standardCount.toNat then none
  else match values with
    | protocolId :: protocolVersion :: maxMessageLength :: sendTimeout :: completionTimeout ::
        capability :: eventId :: _ =>
      some { protocolId, protocolVersion, maxMessageLength, sendTimeout, completionTimeout,
             capability := .ofBits capability, eventId }
    | _ => none

/-- Whether the channel carries RPMI and answers requests. -/
def isRequestChannel (info : ChannelInfo) : Bool :=
  info.protocolId = protocolRpmi && info.capability.contains .sendWithResponse

/-- The attributes as log lines show them. -/
def described (info : ChannelInfo) : String :=
  "ChannelInfo \x7b protocol_id: " ++ toString info.protocolId.toNat ++
  ", protocol_version: " ++ toString info.protocolVersion.toNat ++
  ", max_message_len: " ++ toString info.maxMessageLength.toNat ++
  ", send_timeout_us: " ++ toString info.sendTimeout.toNat ++
  ", completion_timeout_us: " ++ toString info.completionTimeout.toNat ++
  ", capability: " ++ info.capability.described ++
  ", sse_event_id: " ++ toString info.eventId.toNat ++ " \x7d"

end ChannelInfo

end MessageProxy
