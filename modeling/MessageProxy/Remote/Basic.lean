import MessageProxy.World

/-!
Firmware that lives in memory: what it offers and what it remembers.

A remote's `Setup` is fixed. It says which extensions there are, which calls fail, and which
channels exist, in ascending order. Its `State` is the one registered address, the attributes of
the channels, and what it received. It takes the registered address for the one at which the memory
is mapped. Channels may have a handler that answers messages; handlers
share state of type `κ`.
-/

namespace MessageProxy.Remote

/-- What answers the messages of a channel: it gets a message's identifier and its bytes. -/
abbrev Handler (κ : Type) := UInt32 → Bytes → κ → Except Status Bytes × κ

/-- Answers every message with its own bytes. -/
def echo {κ : Type} : Handler κ :=
  fun _ request agents => (.ok request, agents)

/-- A channel as it is set up. -/
structure Channel (κ : Type) where
  /-- Attributes and their values at first; of two values for one, the earlier counts. -/
  attributes : List (UInt32 × UInt32)
  /-- The failure of every attempt to read attributes, if reading them fails. -/
  readFault : Option Status
  handler : Option (Handler κ)

/-- A channel without attributes and without a handler. -/
def Channel.bare {κ : Type} : Channel κ :=
  { attributes := [], readFault := none, handler := none }

/-- Sets attributes over those that a channel has, the later ones over the earlier. -/
def Channel.setAttributes {κ : Type} (channel : Channel κ) (values : List (UInt32 × UInt32)) :
    Channel κ :=
  { channel with attributes := values.reverse ++ channel.attributes }

/-- The attributes of a channel that carries RPMI and serves a group. -/
def rpmiAttributes (group event : UInt32) : List (UInt32 × UInt32) :=
  let capability := Capability.sendWithResponse.union
    (Capability.sendWithoutResponse.union Capability.softwareEvent)
  [(Attribute.protocolId, protocolRpmi), (Attribute.protocolVersion, 0x00010000),
   (Attribute.maxMessageLength, 4096), (Attribute.capability, capability.bits),
   (Attribute.eventId, event), (Attribute.serviceGroup, group)]

/-- What a remote offers. -/
structure Setup (κ : Type) where
  hasMessageProxy : Bool := true
  hasSoftwareEvents : Bool := true
  /-- The shared memory it asks for, and never reaches beyond. -/
  size : UInt64
  sizeFault : Option Status := none
  registerFault : Option Status := none
  deregisterFault : Option Status := none
  /-- The channels by identifier, in ascending order. -/
  channels : List (UInt32 × Channel κ) := []
  /-- The most ids on one page of the directory. -/
  pageLimit : UInt64 := 0xFFFFFFFFFFFFFFFF
  /-- Whether every page announces further ids and has none. -/
  stalled : Bool := false
  /-- A number of ids that every page says it has, without having any. -/
  listedCount : Option UInt32 := none
  /-- A length that every response is said to have. -/
  reportedLength : Option UInt64 := none

namespace Setup

variable {κ : Type}

/-- The channel with the given identifier. -/
def channel? (setup : Setup κ) (id : UInt32) : Option (Channel κ) :=
  (setup.channels.find? fun entry => entry.1 = id).map Prod.snd

/-- The identifiers of the channels, in ascending order. -/
def ids (setup : Setup κ) : List UInt32 :=
  setup.channels.map Prod.fst

/-- Changes one channel of an ascending list, which is bare if it is not there yet. -/
def updateChannel (id : UInt32) (change : Channel κ → Channel κ) :
    List (UInt32 × Channel κ) → List (UInt32 × Channel κ)
  | [] => [(id, change .bare)]
  | (other, channel) :: rest =>
    if id < other then (id, change .bare) :: (other, channel) :: rest
    else if id = other then (id, change channel) :: rest
    else (other, channel) :: updateChannel id change rest

/-- Changes one channel, which is added if it is not there yet. -/
def withChannel (setup : Setup κ) (id : UInt32) (change : Channel κ → Channel κ) : Setup κ :=
  { setup with channels := updateChannel id change setup.channels }

end Setup

/-- A message that was sent without waiting for a response. -/
structure Posted where
  channel : UInt32
  message : UInt32
  bytes : Bytes
deriving DecidableEq

/-- What a remote remembers. -/
structure State (κ : Type) where
  /-- The address of the registered shared memory. -/
  registered : Option UInt64
  /-- The value of a channel's attribute, if it has been set. -/
  held : UInt32 → UInt32 → Option UInt32
  /-- The messages that were posted, the latest first. -/
  posted : List Posted
  /-- The calls that were received, the latest first. -/
  received : List Call
  /-- The state of the channels' handlers. -/
  agents : κ

namespace State

variable {κ : Type}

/-- A remote that has not been called yet. -/
def initial (setup : Setup κ) (agents : κ) : State κ :=
  { registered := none
    held := fun id key => (setup.channel? id).bind fun channel => channel.attributes.lookup key
    posted := []
    received := []
    agents }

/-- The calls that were received, in order. -/
def calls (state : State κ) : List Call :=
  state.received.reverse

/-- The messages that were posted, in order. -/
def posts (state : State κ) : List Posted :=
  state.posted.reverse

/-- The channels whose attributes were read, in the order of the calls. -/
def attributeReads (state : State κ) : List UInt32 :=
  (state.calls.filter fun call =>
      call.extension = Extension.messageProxy && call.function = ProxyFunction.readAttributes).map
    fun call => (call.arguments.headD 0).toUInt32

/-- The number of calls that were received for a function. -/
def count (state : State κ) (extension function : UInt64) : Nat :=
  state.received.countP fun call => call.extension = extension && call.function = function

end State

end MessageProxy.Remote
