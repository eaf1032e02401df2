import MessageProxy.Bench.Step

/-!
A bench during a run: the world, its endpoints and everything that was made on them.
-/

namespace MessageProxy.Bench

/-- Whom an event is delivered to. -/
inductive Recipient where
  | agent (index : Nat) (event : UInt32)
  | callback (event : UInt32) (argument : UInt64)

/-- A client and the endpoint it uses. -/
structure Client where
  handle : Nat
  client : Ras.Client State

/-- A forwarding loop, its endpoint and the number of its verdicts. -/
structure Loop where
  handle : Nat
  verdicts : Nat
  tokens : TokenSource
  context : Forwarding.Context

/-- A forwarding agent, its endpoint and the number of its verdicts. -/
structure Agent where
  handle : Nat
  verdicts : Nat
  agent : Forwarding.Agent

/-- A bench during a run. -/
structure Fixture where
  world : World State
  /-- The shared buffer of each endpoint. -/
  buffers : List (Option SharedBuffer)
  clients : List Client := []
  /-- The loops, without those that became agents. -/
  loops : List (Option Loop) := []
  agents : List Agent := []
  /-- The target of every subscription that was made; its address is its place in the list, counted
  from one. -/
  targets : List (UInt32 → Recipient) := []
  /-- The subscriptions that were armed. -/
  armed : List (Subscription Recipient) := []
  /-- The deliveries to callbacks, the latest first. -/
  fired : List (UInt32 × UInt64) := []

/-- The most directory pages that one walk takes; an honest directory has fewer. -/
def pageBudget : Nat := UInt32.size + 1

/-- What a caller's buffer is filled with at first. -/
def filler : UInt8 := 0x5A

/-- Runs an action of an endpoint. -/
def onEndpoint {α : Type} (handle : Nat) (action : StateM (Endpoint State) α) : StateM Fixture α :=
  fun bench =>
    let (result, endpoint) := action
      { buffer := bench.buffers.getD handle none, world := bench.world }
    (result, { bench with
      world := endpoint.world
      buffers := bench.buffers.set handle endpoint.buffer })

/-- Runs an action on the world. -/
def onWorld {α : Type} (action : StateM (World State) α) : StateM Fixture α := fun bench =>
  let (result, world) := action bench.world
  (result, { bench with world })

/-- A bench before its first step. -/
def initial (setup : Setup) (scripts : List (UInt32 × Script Reply)) (peer : Script PeerReply) :
    Fixture :=
  { world := .fresh
      { remote := .initial setup.remote { scripts, seen := [] }
        pools := setup.pools.map fun _ => {}
        called := []
        regions := []
        registration := none
        peer
        verdicts := [] }
    buffers := setup.pools.map fun _ => none }

end MessageProxy.Bench
