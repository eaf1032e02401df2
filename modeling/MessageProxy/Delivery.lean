import MessageProxy.Config.Basic
import MessageProxy.Endpoint.Messages

/-!
Delivering a request frame and getting the reply, straight through a channel or in an envelope.

An envelope is a tag, the length of the frame behind it and the frame. It is given to a
communicate capability, which puts the reply frame where the request frame was.
-/

namespace MessageProxy

namespace Envelope

/-- The encoded size of a tag and a length. -/
def headerLength : Nat := 24

/-- A tag and the length of what follows, in their encoded form. -/
def header (tag : Guid) (length : UInt64) : Bytes :=
  tag.toList ++ Bytes.ofUInt64 length

/-- The buffer that goes out with a request: it has room for the longer of the request and a reply
of `capacity` bytes, and zeros behind the request. -/
def wrap (tag : Guid) (request : Bytes) (capacity : Nat) : Bytes :=
  header tag request.length.toUInt64 ++ Bytes.zeroExtend (max request.length capacity) request

/-- The reply in a buffer of which `length` bytes are in use. -/
def unwrap (buffer : Bytes) (length : UInt64) : Except Refusal Bytes :=
  if length.toNat < headerLength ∨ length.toNat > buffer.length then
    .error (.envelopeLength length)
  else .ok ((buffer.take length.toNat).drop headerLength)

end Envelope

/-- The capability to give an envelope away. It is given the buffer and how much of it is in use,
and fails or returns what it wrote to the start of the buffer and how much is in use then. -/
abbrev Communicate (σ : Type) := Bytes → UInt64 → σ → Except Fault (Bytes × UInt64) × σ

variable {σ : Type}

/-- Gives an envelope away: the buffer afterwards, which has kept its length, and how much of it is
in use. -/
def World.communicate (communicate : Communicate σ) (buffer : Bytes) (length : UInt64) :
    StateM (World σ) (Except Fault (Bytes × UInt64)) := fun world =>
  let (outcome, state) := communicate buffer length world.state
  (outcome.map fun (written, inUse) =>
      (Bytes.overwrite (written.take buffer.length) buffer, inUse),
    { world with state, history := .communicated buffer length :: world.history })

/-- How a client's requests reach its peer. -/
inductive Delivery (σ : Type) where
  /-- Frames go straight through a channel. -/
  | passThrough (channel : ChannelId)
  /-- Frames go in envelopes with a tag. -/
  | enveloped (communicate : Communicate σ) (tag : Guid)

namespace Delivery

/-- The channel of a delivery that uses one. -/
def channel? : Delivery σ → Option ChannelId
  | passThrough channel => some channel
  | enveloped .. => none

/-- Sends a request in an envelope and returns the reply, which may be as long as `capacity`. -/
def exchangeEnveloped (communicate : Communicate σ) (tag : Guid) (request : Bytes)
    (capacity : Nat) : Action σ Bytes := do
  let length := Envelope.headerLength + request.length
  match ← World.communicate communicate (Envelope.wrap tag request capacity) length.toUInt64 with
  | .error fault => throw fault
  | .ok (buffer, inUse) =>
    let reply ← accept (Envelope.unwrap buffer inUse)
    if reply.length > capacity then throw .capacityExceeded
    return reply

/-- Sends a request for `service` and returns the reply, which may be as long as `capacity`. -/
def exchange (platform : Platform σ) (delivery : Delivery σ) (service : UInt8) (request : Bytes)
    (capacity : Nat) : Action σ Bytes :=
  match delivery with
  | passThrough channel => Endpoint.send platform channel service.toUInt32 request capacity
  | enveloped communicate tag => exchangeEnveloped communicate tag request capacity

end Delivery

end MessageProxy
