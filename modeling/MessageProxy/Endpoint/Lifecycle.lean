import MessageProxy.Endpoint.Basic

/-!
Setting the shared buffer up and tearing it down.

Initialising asks whether the firmware has a message proxy, how much memory it wants, allocates
the pages and registers them; tearing down goes the other way. Each either completes or leaves the
endpoint as it was, with every page it took given back.
-/

namespace MessageProxy.Endpoint

variable {σ : Type}

/-- Whether the endpoint has a registered buffer. -/
def isInitialized (endpoint : Endpoint σ) : Bool :=
  endpoint.buffer.isSome

/-- The size that the firmware asked for, while the endpoint is initialised. -/
def sharedMemorySize (endpoint : Endpoint σ) : Option UInt64 :=
  endpoint.buffer.map (·.size)

/-- The pages to allocate for a buffer of `size` bytes. -/
def pagesFor (size : UInt64) : UInt64 :=
  size / pageSize + 1

/-- Fails unless the firmware has a message proxy. -/
def requireMessageProxy (platform : Platform σ) : Action σ Unit := do
  match ← (Supervisor.probe platform Extension.messageProxy).run with
  | .ok true => pure ()
  | _ => refuse .noMessageProxy

/-- The memory that the firmware wants; an answer of zero is a device error. -/
def querySize (platform : Platform σ) : Action σ UInt64 := do
  match ← (Supervisor.request platform .sharedMemorySize).run with
  | .ok size => if size = 0 then throw .deviceError else return size
  | .error status =>
    note (.sizeQueryFailed status)
    throw .deviceError

/-- Registers a region with the firmware, or gives it back. -/
def register (platform : Platform σ) (region : Region) : Action σ Unit := do
  match ← (Supervisor.command platform (.registerMemory region.address)).run with
  | .ok () => pure ()
  | .error status =>
    note (.registrationFailed (.ofStatus status))
    World.release platform region
    throw .deviceError

/-- Allocates and registers the shared buffer; on an initialised endpoint it does nothing. -/
def init (platform : Platform σ) : Action σ Unit := do
  unless (← get).isInitialized do
    requireMessageProxy platform
    let size ← querySize platform
    let pages := pagesFor size
    match ← World.allocate platform pages with
    | none => throw .outOfResources
    | some region =>
      register platform region
      note (.registered region.address size pages)
      modify ({ · with buffer := some { region, size } })

/-- Takes the buffer's registration back and frees its pages; when the firmware refuses, the
endpoint stays initialised. -/
def deinit (platform : Platform σ) : Action σ Unit :=
  Action.withBuffer .invalidParameter fun buffer => do
    match ← (Supervisor.command platform .deregisterMemory).run with
    | .ok () =>
      modify ({ · with buffer := none })
      World.release platform buffer.region
      note .released
    | .error status =>
      note (.deregistrationFailed (.ofStatus status))
      throw .deviceError

/-- Ends the endpoint's life: tears it down if it is initialised, and forgets the buffer even when
the firmware refuses, so that the pages are never used again. -/
def drop (platform : Platform σ) : StateM (Endpoint σ) Unit := do
  discard (deinit platform).run
  modify ({ · with buffer := none })

end MessageProxy.Endpoint
