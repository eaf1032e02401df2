import MessageProxy.Bench.Platform
import MessageProxy.Forwarding.Notification
import MessageProxy.Ras.Client

/-!
The steps of a bench run and what each of them finds.

Endpoints, clients, loops, agents and armed events are named by the order in which they came.
-/

namespace MessageProxy.Bench

/-- How a client or a step delivers a request. -/
inductive Route where
  | passThrough (channel : ChannelId)
  | enveloped (tag : Guid)

/-- What is put into a loop's context before a step. -/
structure ContextChange where
  channel : Option ChannelId := none
  code : Option Int32 := none
  reserved : Option UInt32 := none

/-- One step. -/
inductive Step where
  | init (handle : Nat)
  | deinit (handle : Nat)
  | status (handle : Nat)
  | drop (handle : Nat)
  | pages
  | channelIds (handle : Nat) (start : UInt32)
  | allChannelIds (handle : Nat)
  | readAttributes (handle : Nat) (channel : ChannelId) (first count : UInt32)
  | writeAttributes (handle : Nat) (channel : ChannelId) (first : UInt32) (values : List UInt32)
  | openChannel (handle : Nat) (channel : ChannelId)
  | openRequestChannel (handle : Nat) (channel : ChannelId)
  | findChannel (handle : Nat) (key value : UInt32)
  | resolveChannel (handle : Nat) (source : Json) (group : UInt16)
  | send (handle : Nat) (channel : ChannelId) (message : UInt32) (request : Bytes) (capacity : Nat)
  | post (handle : Nat) (channel : ChannelId) (message : UInt32) (request : Bytes)
  | exchange (handle : Nat) (route : Route) (service : UInt8) (request : Bytes) (capacity : Nat)
  | client (handle : Nat) (config : Json) (communicates : Bool)
  | connect (handle : Nat) (config : Json) (communicates : Bool)
  | establish (client : Nat)
  | clientState (client : Nat)
  | sourceCount (client : Nat)
  | sourceIds (client : Nat)
  | sourceDescriptor (client : Nat) (source : UInt32)
  | announce (handle : Nat) (context : Forwarding.Context)
  | loop (handle : Nat) (context : Forwarding.Context) (verdicts : Script Verdict)
  | enableNotification (loop : Nat) (change : ContextChange)
  | retrieve (loop : Nat) (change : ContextChange)
  | complete (loop : Nat) (change : ContextChange)
  | run (loop : Nat) (change : ContextChange)
  | agent (loop : Nat)
  | onEvent (agent : Nat) (event : UInt32)
  | agentState (agent : Nat)
  | agentRetrieve (agent : Nat)
  | arm (handle agent : Nat) (channel : ChannelId) (entryPoint : UInt64)
  | disarm (armed : Nat)
  | fire
  | call (call : Call)
  | probe (extension : UInt64)
  | specVersion
  | registerEvent (event : UInt32) (argument entryPoint : UInt64)
  | unregisterEvent (event : UInt32)
  | enableEvent (event : UInt32)
  | disableEvent (event : UInt32)
  | maskHart
  | unmaskHart
  | remote
  | remoteCalls
  | remoteCount (extension function : UInt64)
  | remoteAttribute (channel key : UInt32)
  | remoteTotal

/-- What a step names and the bench does not have. -/
inductive Missing where
  | client
  | loop
  | agent
  | armed
  | registration

/-- A step's finding. -/
inductive Finding where
  | nothing
  | missing (what : Missing)
  /-- A document could not be read. -/
  | unreadable
  /-- A walk over the directory spent its budget. -/
  | unfinished
  | done (outcome : Except Fault Unit)
  | status (initialized : Bool) (size : Option UInt64)
  | pages (pools : List Pool)
  | page (outcome : Except Fault Endpoint.Page)
  | channels (outcome : Except Fault (List ChannelId))
  | channel (outcome : Except Fault ChannelId)
  | words (outcome : Except Fault (List UInt32))
  | info (outcome : Except Fault ChannelInfo)
  | sent (outcome : Except Fault Nat) (buffer : Bytes)
  | created (outcome : Except Fault Nat)
  | established (outcome : Except Fault Unit) (stage : Ras.Stage)
  | client (stage : Ras.Stage) (route : Option Route)
  | word (outcome : Except Fault UInt32)
  | descriptor (outcome : Except Fault Ras.SourceDescriptor)
  | reported (outcome : Except Fault Forwarding.ReturnCode) (context : Forwarding.Context)
  | acknowledged (outcome : Except Fault Unit) (context : Forwarding.Context)
  | retrieved (outcome : Except Fault Forwarding.Request) (context : Option Forwarding.Context)
  | agent (last : Option (Except Fault Forwarding.ReturnCode)) (context : Forwarding.Context)
  /-- The index and the event of an armed subscription, and whether its address is the one that was
  registered last. -/
  | armed (outcome : Except Fault (Nat × UInt32 × Bool))
  | returned (answer : Return)
  | offered (outcome : Except Status Bool)
  | version (outcome : Except Status (UInt32 × UInt32))
  | commanded (outcome : Except Status Unit)
  | remote (attributeReads : List UInt32) (posts : List Remote.Posted) (registered : Option UInt64)
  | calls (calls : List Call)
  | count (count : Nat)
  | value (value : Option UInt32)

/-- Everything that could be watched during a step. -/
structure Observation where
  finding : Finding
  calls : List Call
  seen : List Seen
  envelopes : List (Bytes × UInt64)
  handled : List (UInt64 × Forwarding.Request)
  /-- The events that reached a callback, with its argument. -/
  fired : List (UInt32 × UInt64)
  notices : List Notice

/-- The log lines of an observation that are wanted when lines are shown down to a threshold. -/
def Observation.lines (observation : Observation) (threshold : Level) : List String :=
  (observation.notices.filter fun notice => notice.level.shownAt threshold).filterMap Notice.line?

end MessageProxy.Bench
