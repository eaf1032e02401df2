import MessageProxy.Bench.Action

/-!
Running the steps of a bench. Each step starts with an empty history, so that what it leaves there
is what happened during the step.
-/

namespace MessageProxy.Bench

/-- Takes one step. -/
def take (setup : Setup) : Step → StateM Fixture Finding
  | .init handle => do
    return .done (← onEndpoint handle (Endpoint.init (platform setup handle)).run)
  | .deinit handle => do
    return .done (← onEndpoint handle (Endpoint.deinit (platform setup handle)).run)
  | .status handle => onEndpoint handle do
    let endpoint ← get
    return .status endpoint.isInitialized endpoint.sharedMemorySize
  | .drop handle => do
    forget
    onEndpoint handle (Endpoint.drop (platform setup handle))
    return .nothing
  | .pages => do return .pages (← get).world.state.pools
  | .channelIds handle start => do
    return .page (← onEndpoint handle (Endpoint.channelIds (platform setup handle) start).run)
  | .allChannelIds handle => do
    return walked .channels
      (← onEndpoint handle (Endpoint.allChannelIds (platform setup handle) pageBudget).run)
  | .readAttributes handle channel first count => do
    return .words (← onEndpoint handle
      (Endpoint.readAttributes (platform setup handle) channel first count).run)
  | .writeAttributes handle channel first values => do
    return .done (← onEndpoint handle
      (Endpoint.writeAttributes (platform setup handle) channel first values).run)
  | .openChannel handle channel => do
    return .info (← onEndpoint handle (Endpoint.openChannel (platform setup handle) channel).run)
  | .openRequestChannel handle channel => do
    return .info (← onEndpoint handle
      (Endpoint.openRequestChannel (platform setup handle) channel).run)
  | .findChannel handle key value => do
    return walked .channel (← onEndpoint handle
      (Endpoint.findChannel (platform setup handle) pageBudget key value).run)
  | .resolveChannel handle source group => do
    match ChannelSource.ofJson? .lastWins source with
    | none => return .unreadable
    | some source =>
      return walked .channel (← onEndpoint handle
        (Endpoint.resolveChannel (platform setup handle) pageBudget source group).run)
  | .send handle channel message request capacity => do
    return sent (← onEndpoint handle
      (Endpoint.send (platform setup handle) channel message request capacity).run) capacity
  | .post handle channel message request => do
    return .done (← onEndpoint handle
      (Endpoint.post (platform setup handle) channel message request).run)
  | .exchange handle route service request capacity => do
    return sent (← onEndpoint handle
      (route.delivery.exchange (platform setup handle) service request capacity).run) capacity
  | .client handle config communicates =>
    match makeClient handle config communicates with
    | none => return .unreadable
    | some entry => addClient entry
  | .connect handle config communicates =>
    match makeClient handle config communicates with
    | none => return .unreadable
    | some entry => connect setup entry
  | .establish index =>
    onClient index (Ras.Client.establish · pageBudget)
      (fun outcome client => established outcome (.established · client.stage)) setup
  | .clientState index =>
    onClient index (fun _ => get)
      (fun _ client => .client client.stage (client.delivery.map routeOf)) setup
  | .sourceCount index =>
    onClient index Ras.Client.sourceCount (fun outcome _ => .word outcome) setup
  | .sourceIds index => onClient index Ras.Client.sourceIds (fun outcome _ => .words outcome) setup
  | .sourceDescriptor index source =>
    onClient index (Ras.Client.sourceDescriptor · source) (fun outcome _ => .descriptor outcome)
      setup
  | .announce handle context => do
    let (outcome, context) ← onEndpoint handle
      (Forwarding.announceReady (platform setup handle) context)
    return .reported outcome context
  | .loop handle context verdicts => fun bench =>
    let prepared := bench.world.state.verdicts
    (.created (.ok bench.loops.length),
      { bench with
        loops := bench.loops ++
          [some { handle, verdicts := prepared.length, tokens := ⟨1⟩, context }]
        world.state.verdicts := prepared ++ [verdicts] })
  | .enableNotification index change => onLoop index change fun loop => do
    let outcome ← (Forwarding.enableNotification (platform setup loop.handle)
      loop.context.channel).run
    return (.acknowledged outcome loop.context, loop.context)
  | .retrieve index change => onLoop index change fun loop => do
    let outcome ← (Forwarding.retrieve (platform setup loop.handle) loop.context.channel).run
    return (.retrieved outcome loop.context, loop.context)
  | .complete index change => onLoop index change fun loop => do
    let outcome ← (Forwarding.complete (platform setup loop.handle) loop.context).run
    return (.acknowledged outcome loop.context, loop.context)
  | .run index change => onLoop index change fun loop => do
    let (outcome, context) ← Forwarding.run (platform setup loop.handle)
      (handler setup loop.handle loop.verdicts) loop.context
    return (.reported outcome context, context)
  | .agent index => makeAgent index
  | .onEvent index event => do
    deliver setup index event
    agentFinding index
  | .agentState index => agentFinding index
  | .agentRetrieve index => agentRetrieve setup index
  | .arm handle index channel entryPoint => arm setup handle index channel entryPoint
  | .disarm index => disarm setup index
  | .fire => fire setup
  | .call call => do return .returned (← onWorld (World.call (platform setup 0) call))
  | .probe extension => do
    return .offered (← onWorld (Supervisor.probe (platform setup 0) extension).run)
  | .specVersion => do return .version (← onWorld (Supervisor.specVersion (platform setup 0)).run)
  | .registerEvent event argument entryPoint => do
    let target := (Recipient.callback · argument)
    let address ← place target
    return .commanded (← onWorld
      (SoftwareEvent.register (platform setup 0) { address, event, target } entryPoint).run)
  | .unregisterEvent event => do
    return .commanded (← onWorld (SoftwareEvent.unregister (platform setup 0) event).run)
  | .enableEvent event => do
    return .commanded (← onWorld (SoftwareEvent.enable (platform setup 0) event).run)
  | .disableEvent event => do
    return .commanded (← onWorld (SoftwareEvent.disable (platform setup 0) event).run)
  | .maskHart => do return .commanded (← onWorld (SoftwareEvent.maskHart (platform setup 0)).run)
  | .unmaskHart => do
    return .commanded (← onWorld (SoftwareEvent.unmaskHart (platform setup 0)).run)
  | .remote => do
    let state := (← get).world.state
    return .remote state.remote.attributeReads state.remote.posts state.registered
  | .remoteCalls => do return .calls (← get).world.state.remoteCalls
  | .remoteCount extension function => do
    return .count ((← get).world.state.remote.count extension function)
  | .remoteAttribute channel key => do
    return .value ((← get).world.state.remote.held channel key)
  | .remoteTotal => do return .count (← get).world.state.remote.received.length

/-- Takes one step with a history of its own, and tells what could be watched. -/
def watch (step : StateM Fixture Finding) : StateM Fixture Observation := fun bench =>
  let { remote, .. } := bench.world.state
  let (finding, bench) := step { bench with
    fired := []
    world.history := []
    world.state.remote := { remote with agents.seen := [] } }
  let events := bench.world.events
  ({ finding
     calls := events.filterMap Event.call?
     seen := bench.world.state.remote.agents.seen.reverse
     envelopes := events.filterMap Event.envelope?
     handled := events.filterMap Event.request?
     fired := bench.fired.reverse
     notices := events.filterMap Event.notice? }, bench)

/-- Ends a run: forgets the clients, the loops and the agents, then drops every endpoint in order,
and tells what became of the pages. -/
def finish (setup : Setup) : StateM Fixture Finding := do
  forget
  for handle in List.range (← get).buffers.length do
    onEndpoint handle (Endpoint.drop (platform setup handle))
  return .pages (← get).world.state.pools

/-- Takes every step and ends the run: what could be watched during each, and at the end. -/
def run (setup : Setup) (scripts : List (UInt32 × Script Reply)) (peer : Script PeerReply)
    (steps : List Step) : List Observation × Observation :=
  let (observations, bench) := (steps.mapM fun step => watch (take setup step)).run
    (initial setup scripts peer)
  (observations, ((watch (finish setup)).run bench).1)

end MessageProxy.Bench
