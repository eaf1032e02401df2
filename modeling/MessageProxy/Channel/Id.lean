import MessageProxy.Text

/-!
Channel identifiers and the identifiers of channel attributes.
-/

namespace MessageProxy

/-- The identifier that the remote side gave to a channel. -/
structure ChannelId where
  raw : UInt32
deriving DecidableEq

namespace ChannelId

/-- The identifier as log lines show it. -/
def shown (channel : ChannelId) : String :=
  hexadecimal channel.raw.toNat

/-- The identifier with its type, as log lines show it inside other values. -/
def described (channel : ChannelId) : String :=
  s!"ChannelId({channel.raw.toNat})"

end ChannelId

/-! Attributes below `standardCount` exist on every channel; those from `protocolBase` on belong to
the message protocol that the channel carries. -/

namespace Attribute

def protocolId : UInt32 := 0x00
def protocolVersion : UInt32 := 0x01
def maxMessageLength : UInt32 := 0x02
def sendTimeout : UInt32 := 0x03
def completionTimeout : UInt32 := 0x04
def capability : UInt32 := 0x05
def eventId : UInt32 := 0x06
def interruptControl : UInt32 := 0x07
def interruptAddressLow : UInt32 := 0x08
def interruptAddressHigh : UInt32 := 0x09
def interruptData : UInt32 := 0x0A
def eventsStateControl : UInt32 := 0x0B

/-- The number of standard attributes. -/
def standardCount : UInt32 := 0x0C

/-- The first attribute that a message protocol defines. -/
def protocolBase : UInt32 := 0x80000000

/-- On a channel that carries RPMI, the service group it serves. -/
def serviceGroup : UInt32 := protocolBase

/-- On a channel that carries RPMI, the version of its service group. -/
def serviceGroupVersion : UInt32 := protocolBase + 1

end Attribute

/-- The protocol identifier of a channel that carries RPMI. -/
def protocolRpmi : UInt32 := 0

end MessageProxy
