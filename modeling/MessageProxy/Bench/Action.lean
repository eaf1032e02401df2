import MessageProxy.Bench.Fixture

/-!
What can be done with the clients, the loops, the agents and the events of a bench.

Each action finds what it names by its number, runs the library's own operation on the endpoint
that belongs to it, and keeps what the operation changed.
-/

namespace MessageProxy.Bench

/-- What a walk that may spend its budget found. -/
def walked {α : Type} (found : Except Fault α → Finding) :
    Except Fault (Option α) → Finding
  | .ok (some value) => found (.ok value)
  | .ok none => .unfinished
  | .error fault => found (.error fault)

/-- Runs an action of a client and keeps what it changes. -/
def onClient {α : Type} (index : Nat) (action : Platform State → Ras.ClientAction State α)
    (found : Except Fault α → Ras.Client State → Finding) (setup : Setup) :
    StateM Fixture Finding := do
  match (← get).clients[index]? with
  | none => return .missing .client
  | some entry =>
    let (outcome, client) ← onEndpoint entry.handle
      ((action (platform setup entry.handle)).run.run entry.client)
    modify fun bench => { bench with clients := bench.clients.set index { entry with client } }
    return found outcome client

/-- Whether establishing a session got there. -/
def established (outcome : Except Fault Bool) (found : Except Fault Unit → Finding) : Finding :=
  walked found (outcome.map fun ready => if ready then some () else none)

/-- Makes a client. -/
def makeClient (handle : Nat) (config : Json) (communicates : Bool) :
    Option Client := do
  let config ← Config.ofJson? .lastWins config
  return { handle, client := .ofConfig config (if communicates then some communicate else none) }

/-- Adds a client, and tells its number. -/
def addClient (client : Client) : StateM Fixture Finding := fun bench =>
  (.created (.ok bench.clients.length), { bench with clients := bench.clients ++ [client] })

/-- Makes a client and establishes its session; without a session there is no client. -/
def connect (setup : Setup) (entry : Client) : StateM Fixture Finding := do
  let (outcome, client) ← onEndpoint entry.handle
    ((Ras.Client.establish (platform setup entry.handle) pageBudget).run.run entry.client)
  match outcome with
  | .ok true => addClient { entry with client }
  | .ok false => return .unfinished
  | .error fault => return .created (.error fault)

/-- A context with some of its parts replaced. -/
def ContextChange.apply (change : ContextChange) (context : Forwarding.Context) :
    Forwarding.Context :=
  { context with
    channel := change.channel.getD context.channel
    completion := ⟨change.code.getD context.completion.code,
      change.reserved.getD context.completion.reserved⟩ }

/-- Runs an action of a loop, whose context is changed first, and keeps what the action changes. -/
def onLoop (index : Nat) (change : ContextChange)
    (action : Loop → StateT TokenSource (StateM (Endpoint State)) (Finding × Forwarding.Context)) :
    StateM Fixture Finding := do
  match (← get).loops[index]? with
  | some (some loop) =>
    let loop := { loop with context := change.apply loop.context }
    let ((finding, context), tokens) ← onEndpoint loop.handle ((action loop).run loop.tokens)
    modify fun bench =>
      { bench with loops := bench.loops.set index (some { loop with context, tokens }) }
    return finding
  | _ => return .missing .loop

/-- Makes an agent of a loop, which is used up by that. -/
def makeAgent (index : Nat) : StateM Fixture Finding := fun bench =>
  match bench.loops[index]? with
  | some (some { handle, verdicts, tokens, context }) =>
    (.created (.ok bench.agents.length),
      { bench with
        loops := bench.loops.set index none
        agents := bench.agents ++
          [{ handle, verdicts, agent := { tokens, context, last := none } }] })
  | _ => (.missing .loop, bench)

/-- Delivers an event to an agent. -/
def deliver (setup : Setup) (index : Nat) (event : UInt32) : StateM Fixture Unit := do
  if let some entry := (← get).agents[index]? then
    let { handle, verdicts, agent } := entry
    let agent ← onEndpoint handle
      (agent.onEvent (platform setup handle) (handler setup handle verdicts) event)
    modify fun bench => { bench with agents := bench.agents.set index { entry with agent } }

/-- What is known of an agent. -/
def agentFinding (index : Nat) : StateM Fixture Finding := do
  match (← get).agents[index]? with
  | some { agent, .. } => return .agent agent.last agent.context
  | none => return .missing .agent

/-- Lets an agent's loop retrieve a request. -/
def agentRetrieve (setup : Setup) (index : Nat) : StateM Fixture Finding := do
  match (← get).agents[index]? with
  | none => return .missing .agent
  | some entry =>
    let { handle, agent, .. } := entry
    let (outcome, tokens) ← onEndpoint handle
      ((Forwarding.retrieve (platform setup handle) agent.context.channel).run.run agent.tokens)
    modify fun bench =>
      { bench with agents := bench.agents.set index { entry with agent.tokens := tokens } }
    return .retrieved outcome none

/-- Gives a target an address, which is never zero. -/
def place (target : UInt32 → Recipient) : StateM Fixture UInt64 := fun bench =>
  ((bench.targets.length + 1).toUInt64, { bench with targets := bench.targets ++ [target] })

/-- The target at an address; there is none at the address zero. -/
def targetAt? (targets : List (UInt32 → Recipient)) (address : UInt64) :
    Option (UInt32 → Recipient) :=
  match address.toNat with
  | 0 => none
  | index + 1 => targets[index]?

/-- Routes a channel's event to an agent. Its target keeps its address even when arming fails, as
the firmware may have been told of it. -/
def arm (setup : Setup) (handle index : Nat) (channel : ChannelId) (entryPoint : UInt64) :
    StateM Fixture Finding := do
  if index < (← get).agents.length then
    let address ← place (.agent index)
    let outcome ← onEndpoint handle (Forwarding.arm (platform setup handle) channel entryPoint
      address (Recipient.agent index)).run
    match outcome with
    | .error fault => return .armed (.error fault)
    | .ok subscription =>
      let bench ← get
      set { bench with armed := bench.armed ++ [subscription] }
      return .armed (.ok (bench.armed.length, subscription.event,
        bench.world.state.registration.map Prod.snd = some subscription.address))
  else return .missing .agent

/-- Stops an armed event. -/
def disarm (setup : Setup) (index : Nat) : StateM Fixture Finding := do
  match (← get).armed[index]? with
  | none => return .missing .armed
  | some subscription =>
    return .done (← onEndpoint 0 (Forwarding.disarm (platform setup 0) subscription.event).run)

/-- The subscription that was registered last; one without a target is none. -/
def registered (bench : Fixture) : Option (Subscription Recipient) := do
  let (event, address) ← bench.world.state.registration
  return { address, event, target := ← targetAt? bench.targets address }

/-- Delivers the event whose subscription was registered last. -/
def fire (setup : Setup) : StateM Fixture Finding := do
  match registered (← get) with
  | none => return .missing .registration
  | some subscription =>
    match subscription.dispatch with
    | .agent index event => deliver setup index event
    | .callback event argument =>
      modify fun bench => { bench with fired := (event, argument) :: bench.fired }
    return .nothing

/-- Forgets the clients, the loops and the agents, and with them the last registration. -/
def forget : StateM Fixture Unit :=
  modify fun bench => { bench with
    clients := []
    loops := []
    agents := []
    world.state.registration := none }

/-- How a client delivers its requests. -/
def routeOf : Delivery State → Route
  | .passThrough channel => .passThrough channel
  | .enveloped _ tag => .enveloped tag

/-- How a step's request is delivered. -/
def Route.delivery : Route → Delivery State
  | passThrough channel => .passThrough channel
  | enveloped tag => .enveloped communicate tag

/-- What is found when a message is sent with a buffer of `capacity` bytes. -/
def sent (outcome : Except Fault Bytes) (capacity : Nat) : Finding :=
  let (outcome, buffer) := Endpoint.deliverTo (List.replicate capacity filler) outcome
  .sent outcome buffer

end MessageProxy.Bench
