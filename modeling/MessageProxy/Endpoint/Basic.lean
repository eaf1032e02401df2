import MessageProxy.Supervisor

/-!
A client's end of the message proxy: at most one shared buffer, and the world.

Requests, replies, channel lists and attribute values all pass through the start of the buffer.
The size that the firmware reported bounds every message; the region's length bounds every copy.
-/

namespace MessageProxy

/-- The buffer shared with the firmware. -/
structure SharedBuffer where
  region : Region
  /-- The size that the firmware asked for. -/
  size : UInt64
deriving DecidableEq

/-- A client's end; it has a buffer exactly while it is initialised. -/
structure Endpoint (σ : Type) where
  buffer : Option SharedBuffer
  world : World σ

/-- An action of an endpoint. -/
abbrev Action (σ : Type) := ExceptT Fault (StateM (Endpoint σ))

variable {σ : Type}

/-- An action on the world leaves the endpoint's buffer alone. -/
instance : MonadLiftT (StateM (World σ)) (StateM (Endpoint σ)) where
  monadLift action := fun endpoint =>
    let (result, world) := action endpoint.world
    (result, { endpoint with world })

instance : MonadNote (StateM (Endpoint σ)) where
  note notice := monadLift (note notice : StateM (World σ) Unit)

/-- A failed supervisor call fails the action with the fault it stands for. -/
instance : MonadLiftT (Supervisor σ) (Action σ) where
  monadLift action := ExceptT.mk do return (← action.run).mapError Fault.ofStatus

/-- A client with state of its own runs an endpoint's actions as they are. -/
instance {τ : Type} :
    MonadLiftT (Action σ) (ExceptT Fault (StateT τ (StateM (Endpoint σ)))) where
  monadLift action := ExceptT.mk (monadLift (ExceptT.run action))

namespace Action

/-- Runs `use` with the buffer of an initialised endpoint; without one, fails with `absent` and
does nothing. -/
def withBuffer {α : Type} (absent : Fault) (use : SharedBuffer → Action σ α) : Action σ α := do
  match (← get).buffer with
  | some buffer => use buffer
  | none => throw absent

end Action

namespace SharedBuffer

/-- The first `count` bytes of the buffer, however long its region is. -/
def fetch (buffer : SharedBuffer) (count : Nat) : Action σ Bytes :=
  monadLift (World.fetch buffer.region count : StateM (World σ) Bytes)

/-- Copies `bytes` to the start of the buffer. -/
def write (buffer : SharedBuffer) (bytes : Bytes) : Action σ Unit :=
  if bytes.length > buffer.region.length.toNat then throw .invalidParameter
  else monadLift (World.store buffer.region bytes : StateM (World σ) Unit)

/-- The first `count` bytes of the buffer. -/
def read (buffer : SharedBuffer) (count : Nat) : Action σ Bytes :=
  if count > buffer.region.length.toNat then throw .deviceError
  else fetch buffer count

/-- The offset behind the word with the given index. -/
def wordEnd (index : UInt64) : UInt64 :=
  index * 4 + 4

/-- Consecutive words from the one with index `first` on; they have to lie within the size that the
firmware asked for. -/
def readWords (buffer : SharedBuffer) (first count : UInt32) : Action σ (List UInt32) :=
  if count = 0 then pure []
  else if wordEnd (first.toUInt64 + count.toUInt64 - 1) > buffer.size then throw .deviceError
  else do
    let bytes ← fetch buffer (4 * (first.toNat + count.toNat))
    return Bytes.words (bytes.drop (4 * first.toNat))

/-- The word with index `index`. -/
def readWord (buffer : SharedBuffer) (index : UInt32) : Action σ UInt32 :=
  if wordEnd index.toUInt64 > buffer.size then throw .deviceError
  else do
    let bytes ← fetch buffer (4 * (index.toNat + 1))
    match Bytes.words (bytes.drop (4 * index.toNat)) with
    | word :: _ => return word
    | [] => throw .deviceError

end SharedBuffer

end MessageProxy
