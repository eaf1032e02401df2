import MessageProxy.Bench.Bridge
import MessageProxy.Bench.Pool
import MessageProxy.Bench.Reply
import MessageProxy.Delivery
import MessageProxy.Forwarding.Loop
import MessageProxy.Remote.Respond

/-!
The platform of a bench: an in-memory remote behind a bridge, and one page allocator for each
endpoint. Every run of pages has memory of its own, whatever its physical address is.
-/

namespace MessageProxy.Bench

/-- A message that a channel with prepared replies received. -/
structure Seen where
  channel : UInt32
  message : UInt32
  bytes : Bytes

/-- The prepared replies of the channels, and what the channels received, the latest first. -/
structure Agents where
  scripts : List (UInt32 × Script Reply)
  seen : List Seen

/-- Draws a reply for a channel. -/
def drawFor (channel : UInt32) (selector : String) :
    List (UInt32 × Script Reply) → Option Reply × List (UInt32 × Script Reply)
  | [] => (none, [])
  | (id, script) :: rest =>
    if id = channel then
      let (reply, script) := script.draw selector
      (reply, (id, script) :: rest)
    else
      let (reply, rest) := drawFor channel selector rest
      (reply, (id, script) :: rest)

/-- The handler of a channel with prepared replies, drawn by message. -/
def prepared (channel : UInt32) : Remote.Handler Agents := fun message bytes agents =>
  let (reply, scripts) := drawFor channel (toString message.toNat) agents.scripts
  (Reply.bytes reply bytes, { scripts, seen := { channel, message, bytes } :: agents.seen })

/-- What the handler of a forwarded request is to do. -/
inductive Verdict where
  | succeed
  | fail (fault : Fault)
  /-- Tear the endpoint down, and succeed. -/
  | deinit

/-- How a bench is set up. -/
structure Setup where
  remote : Remote.Setup Agents
  pools : List PoolSetup
  interceptions : List Interception

/-- What the outside of a bench remembers. -/
structure State where
  remote : Remote.State Agents
  pools : List Pool
  /-- The functions that were called, the latest first. -/
  called : List (UInt64 × UInt64)
  /-- The regions that were handed out, the latest first; no two are mapped at the same address. -/
  regions : List Region
  /-- The event that was registered last, and its entry argument. -/
  registration : Option (UInt32 × UInt64)
  /-- The prepared replies from the other side of an envelope. -/
  peer : Script PeerReply
  /-- The prepared verdicts of each forwarding loop. -/
  verdicts : List (Script Verdict)

namespace State

/-- Counts a call, and remembers the event that it registers. -/
def observe (state : State) (call : Call) : State :=
  { state with
    called := (call.extension, call.function) :: state.called
    registration := registration? call <|> state.registration }

/-- The calls that reached the remote, as they were made. -/
def remoteCalls (state : State) : List Call :=
  state.remote.calls.map (made state.regions)

/-- The physical address of the registered memory. -/
def registered (state : State) : Option UInt64 :=
  state.remote.registered.map (physical state.regions)

end State

/-- Answers a call at the bridge. -/
def bridge (setup : Setup) (call : Call) (memory : Memory) (state : State) :
    Return × Memory × State :=
  let caught := setup.interceptions.find? fun interception =>
    interception.catches call (state.called.count (call.extension, call.function))
  let state := state.observe call
  match caught with
  | some interception =>
    let memory := match state.remote.registered with
      | some base => memory.store base interception.written
      | none => memory
    (interception.answer, memory, state)
  | none =>
    match passed? state.regions call with
    | none => (.failure .invalidAddress, memory, state)
    | some call =>
      let (answer, memory, remote) := Remote.respond setup.remote call memory state.remote
      (answer, memory, { state with remote })

/-- Asks an endpoint's allocator for pages; the memory behind them is large enough for the remote
in any case. -/
def allocate (setup : Setup) (handle : Nat) (pages : UInt64) (state : State) :
    Option Region × State :=
  match setup.pools[handle]?, state.pools[handle]? with
  | some behaviour, some pool =>
    let backing := max pages (Endpoint.pagesFor setup.remote.size)
    let base := (state.regions.length + 1).toUInt64 * pageSize
    let (region, pool) := pool.allocate behaviour pages backing base
    (region, { state with
      pools := state.pools.set handle pool
      regions := region.toList ++ state.regions })
  | _, _ => (none, state)

/-- The platform of one endpoint. -/
def platform (setup : Setup) (handle : Nat) : Platform State where
  call := bridge setup
  allocate := allocate setup handle
  release region state := { state with pools := state.pools.modify handle (Pool.release region) }

/-- The frame in an envelope's buffer. -/
def framed (buffer : Bytes) (length : UInt64) : Bytes :=
  (buffer.take length.toNat).drop Envelope.headerLength

/-- Receives an envelope: draws a reply by the service of the request and puts it where the request
was. -/
def communicate : Communicate State := fun buffer length state =>
  let request := framed buffer length
  let (drawn, peer) := state.peer.draw (toString ((request[2]?.getD 0).toNat))
  let state := { state with peer }
  let reply := drawn.getD {}
  match reply.fault with
  | some fault => (.error fault, state)
  | none =>
    match Reply.bytes reply.reply request with
    | .error status => (.error (.ofStatus status), state)
    | .ok bytes =>
      let inUse := reply.length.getD (Envelope.headerLength + bytes.length).toUInt64
      (.ok (buffer.take Envelope.headerLength ++ bytes, inUse), state)

/-- Handles a forwarded request by the prepared verdicts of a loop; where none is prepared, it
succeeds. -/
def handler (setup : Setup) (handle loop : Nat) : Forwarding.Handler State := fun _ _ => do
  let endpoint ← get
  let state := endpoint.world.state
  let (verdict, script) := (state.verdicts.getD loop .nothing).draw ""
  set { endpoint with
    world.state := { state with verdicts := state.verdicts.set loop script } }
  match verdict.getD .succeed with
  | .succeed => return .ok ()
  | .fail fault => return .error fault
  | .deinit =>
    discard (Endpoint.deinit (platform setup handle)).run
    return .ok ()

end MessageProxy.Bench
