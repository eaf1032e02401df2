import MessageProxy.Remote.Basic

/-!
How the in-memory remote answers calls.

It reads requests from the registered memory and writes replies there, both from the start. A call
that fails changes neither the memory nor the registration nor any attribute.
-/

namespace MessageProxy.Remote

/-- The course of one answer: it may fail, and it may change the memory and the remote. -/
abbrev Reaction (κ : Type) := ExceptT Status (StateM (Memory × State κ))

variable {κ : Type}

/-- The argument with the given index; a missing one is zero. -/
def argument (arguments : List UInt64) (index : Nat) : UInt64 :=
  arguments.getD index 0

/-- The first `length` bytes of the registered memory. -/
def load (setup : Setup κ) (length : UInt64) : Reaction κ Bytes := do
  if length > setup.size then throw .invalidParam
  let (memory, state) ← get
  match state.registered with
  | some address => return memory.fetch address length.toNat
  | none => throw .noSharedMemory

/-- Writes bytes to the start of the registered memory. -/
def store (setup : Setup κ) (bytes : Bytes) : Reaction κ Unit := do
  if bytes.length > setup.size.toNat then throw .failed
  let (memory, state) ← get
  match state.registered with
  | some address => set (memory.store address bytes, state)
  | none => throw .noSharedMemory

/-- Changes what the remote remembers. -/
def update (change : State κ → State κ) : Reaction κ Unit :=
  modify fun (memory, state) => (memory, change state)

/-- Registers an address, or with both halves all ones takes the registration back. -/
def setMemory (setup : Setup κ) (low high : UInt64) : Reaction κ Unit :=
  if low = Call.noAddress ∧ high = Call.noAddress then
    match setup.deregisterFault with
    | some fault => throw fault
    | none => update ({ · with registered := none })
  else match setup.registerFault with
    | some fault => throw fault
    | none => update ({ · with registered := some low })

/-- Lists the channels from an index on. -/
def listChannels (setup : Setup κ) (start : UInt64) : Reaction κ Unit := do
  let count := setup.ids.length
  if start.toNat > count then throw .invalidParam
  match setup.listedCount with
  | some returned => store setup (Bytes.ofWords [0, returned])
  | none =>
    if setup.stalled then
      store setup (Bytes.ofWords [(count - start.toNat).toUInt32, 0])
    else
      let stop := min (start.toNat + setup.pageLimit.toNat) count
      let page := (setup.ids.drop start.toNat).take (stop - start.toNat)
      store setup (Bytes.ofWords
        ((count - stop).toUInt32 :: (stop - start.toNat).toUInt32 :: page))

/-- The values of consecutive attributes; a standard one that has not been set is zero, and any
other has to be set. -/
def valuesFrom (held : UInt32 → Option UInt32) : Nat → UInt32 → Except Status (List UInt32)
  | 0, _ => .ok []
  | count + 1, key =>
    match held key with
    | some value => do return value :: (← valuesFrom held count (key + 1))
    | none =>
      if key < Attribute.standardCount then do return 0 :: (← valuesFrom held count (key + 1))
      else .error .invalidParam

/-- Reads consecutive attributes of a channel. -/
def readAttributes (setup : Setup κ) (id first count : UInt32) : Reaction κ Unit := do
  match setup.channel? id with
  | none => throw .invalidParam
  | some channel =>
    if let some fault := channel.readFault then throw fault
    match valuesFrom ((← get).2.held id) count.toNat first with
    | .error status => throw status
    | .ok values => store setup (Bytes.ofWords values)

/-- Attributes after consecutive ones of a channel have been set. -/
def assign (held : UInt32 → UInt32 → Option UInt32) (id first : UInt32) (values : Array UInt32)
    (other key : UInt32) : Option UInt32 :=
  if other = id then
    match values[(key - first).toNat]? with
    | some value => some value
    | none => held other key
  else held other key

/-- Sets consecutive attributes of a channel. -/
def writeAttributes (setup : Setup κ) (id first : UInt32) (count : UInt64) : Reaction κ Unit := do
  let bytes ← load setup (count * 4)
  if (setup.channel? id).isNone then throw .invalidParam
  let values := (Bytes.words bytes).toArray
  update fun state => { state with held := assign state.held id first values }

/-- Gives a message to its channel's handler and returns the length of the response. -/
def answer (setup : Setup κ) (id message : UInt32) (length : UInt64) : Reaction κ UInt64 := do
  let request ← load setup length
  match setup.channel? id with
  | none => throw .invalidParam
  | some channel =>
    match channel.handler with
    | none => throw .notSupported
    | some handler =>
      let (memory, state) ← get
      let (outcome, agents) := handler message request state.agents
      set (memory, { state with agents })
      match outcome with
      | .error status => throw status
      | .ok response =>
        store setup response
        return setup.reportedLength.getD response.length.toUInt64

/-- Keeps a message that needs no response. -/
def keep (setup : Setup κ) (id message : UInt32) (length : UInt64) : Reaction κ Unit := do
  let bytes ← load setup length
  if (setup.channel? id).isNone then throw .invalidParam
  update fun state => { state with posted := { channel := id, message, bytes } :: state.posted }

/-- Answers a call to the message proxy. -/
def messageProxy (setup : Setup κ) (function : UInt64) (arguments : List UInt64) :
    Reaction κ UInt64 := do
  let first := argument arguments 0
  let second := argument arguments 1
  let third := argument arguments 2
  if function = ProxyFunction.sharedMemorySize then
    match setup.sizeFault with
    | some fault => throw fault
    | none => return setup.size
  else if function = ProxyFunction.setSharedMemory then
    setMemory setup first second
    return 0
  else if function = ProxyFunction.listChannels then
    listChannels setup first
    return 0
  else if function = ProxyFunction.readAttributes then
    readAttributes setup first.toUInt32 second.toUInt32 third.toUInt32
    return 0
  else if function = ProxyFunction.writeAttributes then
    writeAttributes setup first.toUInt32 second.toUInt32 third
    return 0
  else if function = ProxyFunction.sendWithResponse then
    answer setup first.toUInt32 second.toUInt32 third
  else if function = ProxyFunction.sendWithoutResponse then
    keep setup first.toUInt32 second.toUInt32 third
    return 0
  else throw .notSupported

/-- Whether the remote has an extension that a client may ask for. -/
def offers (setup : Setup κ) (extension : UInt64) : Bool :=
  (extension = Extension.messageProxy && setup.hasMessageProxy) ||
    (extension = Extension.softwareEvents && setup.hasSoftwareEvents)

/-- Answers a call. -/
def react (setup : Setup κ) (call : Call) : Reaction κ UInt64 := do
  update fun state => { state with received := call :: state.received }
  if call.extension = Extension.base then
    return if offers setup (argument call.arguments 0) then 1 else 0
  else if call.extension = Extension.messageProxy ∧ setup.hasMessageProxy then
    messageProxy setup call.function call.arguments
  else if call.extension = Extension.softwareEvents ∧ setup.hasSoftwareEvents then
    return 0
  else throw .notSupported

/-- The return, the memory and the remote after a call. -/
def respond (setup : Setup κ) (call : Call) (memory : Memory) (state : State κ) :
    Return × Memory × State κ :=
  let (outcome, memory, state) := (react setup call).run (memory, state)
  (Return.ofExcept outcome, memory, state)

/-- A platform whose firmware is a remote and whose pages come from an allocator with state of its
own. -/
def platform {α : Type} (setup : Setup κ) (allocate : UInt64 → α → Option Region × α)
    (release : Region → α → α) : Platform (State κ × α) where
  call call memory := fun (state, pages) =>
    let (answer, memory, state) := respond setup call memory state
    (answer, memory, state, pages)
  allocate count := fun (state, pages) =>
    let (region, pages) := allocate count pages
    (region, state, pages)
  release region := fun (state, pages) => (state, release region pages)

end MessageProxy.Remote
