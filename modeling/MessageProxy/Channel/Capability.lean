import MessageProxy.Text

/-!
The transfer and notification mechanisms that a channel supports.
-/

namespace MessageProxy

/-- A set of mechanisms, one bit each. -/
structure Capability where
  bits : UInt32
deriving DecidableEq

namespace Capability

def messageInterrupt : Capability := ⟨1⟩
def softwareEvent : Capability := ⟨2⟩
def eventsState : Capability := ⟨4⟩
def sendWithResponse : Capability := ⟨8⟩
def sendWithoutResponse : Capability := ⟨16⟩
def getNotifications : Capability := ⟨32⟩

/-- Every mechanism with its name, in the order of the bits. -/
def all : List (String × Capability) :=
  [("MSI", messageInterrupt), ("SSE", softwareEvent), ("EVENTS_STATE", eventsState),
   ("SEND_WITH_RESPONSE", sendWithResponse), ("SEND_WITHOUT_RESPONSE", sendWithoutResponse),
   ("GET_NOTIFICATIONS", getNotifications)]

/-- The six bits that have a meaning. -/
def defined : UInt32 := 0x3F

/-- The capability attribute read as a set; bits without a meaning are dropped. -/
def ofBits (bits : UInt32) : Capability :=
  ⟨bits &&& defined⟩

/-- Whether every bit of `bits` has a meaning. -/
def isDefined (bits : UInt32) : Bool :=
  bits &&& defined = bits

/-- Whether every mechanism of `part` is in `whole`. -/
def contains (whole part : Capability) : Bool :=
  whole.bits &&& part.bits = part.bits

/-- The mechanisms of both sets. -/
def union (left right : Capability) : Capability :=
  ⟨left.bits ||| right.bits⟩

/-- The names of the mechanisms in the set, in the order of the bits. -/
def names (capability : Capability) : List String :=
  (all.filter fun entry => capability.contains entry.2).map Prod.fst

/-- The set as log lines show it. -/
def described (capability : Capability) : String :=
  match capability.names with
  | [] => "ChannelCapability(0x0)"
  | names => "ChannelCapability(" ++ " | ".intercalate names ++ ")"

end Capability

end MessageProxy
