import MessageProxy.Endpoint.Basic

/-!
Sending messages through the shared buffer, with and without waiting for the response.

A request has to be strictly smaller than the shared memory. A response is taken only when it fits
both the shared memory and the caller's capacity; the first limit is checked first.
-/

namespace MessageProxy.Endpoint

variable {σ : Type}

/-- Puts a request into the buffer. -/
def stage (buffer : SharedBuffer) (request : Bytes) : Action σ Unit := do
  if request.length ≥ buffer.size.toNat then throw .invalidParameter
  buffer.write request

/-- Sends a message and returns its response, which may be as long as `capacity`. -/
def send (platform : Platform σ) (channel : ChannelId) (message : UInt32) (request : Bytes)
    (capacity : Nat) : Action σ Bytes :=
  Action.withBuffer .invalidParameter fun buffer => do
    stage buffer request
    match ← (Supervisor.request platform (.send channel message request.length)).run with
    | .error status =>
      note (.sendFailed message channel status)
      throw (.ofStatus status)
    | .ok length =>
      if length = 0 then return []
      if length > buffer.size then refuse (.responseOverflow length)
      if length.toNat > capacity then throw .capacityExceeded
      let response ← buffer.read length.toNat
      note (.answered message channel length)
      return response

/-- Sends a message that has no response. -/
def post (platform : Platform σ) (channel : ChannelId) (message : UInt32) (request : Bytes) :
    Action σ Unit :=
  Action.withBuffer .invalidParameter fun buffer => do
    stage buffer request
    Supervisor.command platform (.post channel message request.length)

/-- What a caller with a buffer of its own gets: the length of the response, which is copied to the
start of the buffer. A failure leaves the buffer as it was. -/
def deliverTo (caller : Bytes) : Except Fault Bytes → Except Fault Nat × Bytes
  | .ok response => (.ok response.length, Bytes.overwrite response caller)
  | .error fault => (.error fault, caller)

end MessageProxy.Endpoint
