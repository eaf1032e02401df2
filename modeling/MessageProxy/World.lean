import MessageProxy.Call
import MessageProxy.Memory
import MessageProxy.Notice

/-!
The world around the library: firmware that answers calls, an allocator of pages, the memory they
share with a client, and a history of what went on.

A `Platform` is arbitrary. Nothing in the library assumes more of it than the types say, so a
statement over all platforms covers firmware that misbehaves.
-/

namespace MessageProxy

/-- Something that happened between the library and the world. -/
inductive Event where
  | called (call : Call) (answer : Return)
  | noted (notice : Notice)
  | allocated (pages : UInt64) (region : Option Region)
  | released (region : Region)
  /-- An envelope was given away: its buffer and how much of it is in use. -/
  | communicated (buffer : Bytes) (length : UInt64)
  /-- A forwarded request was given to its handler. -/
  | handled (cpu : UInt64) (request : Forwarding.Request)

namespace Event

/-- The call of an event that is one. -/
def call? : Event → Option Call
  | called call _ => some call
  | _ => none

/-- The notice of an event that logs one. -/
def notice? : Event → Option Notice
  | noted notice => some notice
  | _ => none

/-- The envelope of an event that gives one away, and how much of it was in use. -/
def envelope? : Event → Option (Bytes × UInt64)
  | communicated buffer length => some (buffer, length)
  | _ => none

/-- The forwarded request of an event that handles one, and the CPU it was handled on. -/
def request? : Event → Option (UInt64 × Forwarding.Request)
  | handled cpu request => some (cpu, request)
  | _ => none

end Event

/-- The outside of a client: firmware and a page allocator, both with state of type `σ`. -/
structure Platform (σ : Type) where
  /-- Answers a call; the firmware may read and write memory meanwhile. -/
  call : Call → Memory → σ → Return × Memory × σ
  /-- Hands out a run of pages, or refuses to. -/
  allocate : UInt64 → σ → Option Region × σ
  /-- Takes a run of pages back. -/
  release : Region → σ → σ

/-- The state of the world, with everything that happened so far, the latest event first. -/
structure World (σ : Type) where
  memory : Memory
  state : σ
  history : List Event

namespace World

variable {σ : Type}

/-- A world in which nothing has happened yet. -/
def fresh (state : σ) : World σ :=
  { memory := .zeroed, state, history := [] }

/-- Everything that happened so far, in order. -/
def events (world : World σ) : List Event :=
  world.history.reverse

/-- The calls that were made so far, in order. -/
def calls (world : World σ) : List Call :=
  world.events.filterMap Event.call?

/-- The forwarded requests that were given to their handler so far, in order, and the CPUs they were
handled on. -/
def handled (world : World σ) : List (UInt64 × Forwarding.Request) :=
  world.events.filterMap Event.request?

/-- Adds an event to the history. -/
def record (event : Event) : StateM (World σ) Unit :=
  fun world => ((), { world with history := event :: world.history })

/-- Makes a call. -/
def call (platform : Platform σ) (call : Call) : StateM (World σ) Return := fun world =>
  let (answer, memory, state) := platform.call call world.memory world.state
  (answer, { memory, state, history := .called call answer :: world.history })

/-- Asks for pages; those that are granted hold zeros. -/
def allocate (platform : Platform σ) (pages : UInt64) : StateM (World σ) (Option Region) :=
  fun world =>
    let (region, state) := platform.allocate pages world.state
    let memory := match region with
      | some granted => world.memory.clear granted.base
      | none => world.memory
    (region, { memory, state, history := .allocated pages region :: world.history })

/-- Gives pages back; their contents stay. -/
def release (platform : Platform σ) (region : Region) : StateM (World σ) Unit := fun world =>
  ((), { world with
          state := platform.release region world.state
          history := .released region :: world.history })

/-- Writes to the start of a region. -/
def store (region : Region) (bytes : Bytes) : StateM (World σ) Unit :=
  fun world => ((), { world with memory := world.memory.store region.base bytes })

/-- Reads from the start of a region. -/
def fetch (region : Region) (count : Nat) : StateM (World σ) Bytes :=
  fun world => (world.memory.fetch region.base count, world)

end World

/-- Monads in which something can be logged. -/
class MonadNote (m : Type → Type) where
  /-- Logs a notice. -/
  note : Notice → m Unit

export MonadNote (note)

variable {σ : Type} {m : Type → Type}

instance : MonadNote (StateM (World σ)) where
  note notice := World.record (.noted notice)

instance [Monad m] [MonadNote m] {ε : Type} : MonadNote (ExceptT ε m) where
  note notice := ExceptT.lift (note notice)

instance [Monad m] [MonadNote m] {τ : Type} : MonadNote (StateT τ m) where
  note notice := StateT.lift (note notice)

/-- Logs the reason, if it is worth a line, and fails with its fault. -/
def refuse [Monad m] [MonadNote m] [MonadExceptOf Fault m] {α : Type} (reason : Refusal) : m α := do
  note (.refused reason)
  throw reason.fault

/-- The value of a check, or its refusal. -/
def accept [Monad m] [MonadNote m] [MonadExceptOf Fault m] {α : Type} :
    Except Refusal α → m α
  | .ok value => pure value
  | .error reason => refuse reason

end MessageProxy
