import MessageProxy.Supervisor

/-!
Software events: the firmware delivers an event by jumping to an entry point with an argument, the
address of a subscription, and the entry point dispatches the subscription.
-/

namespace MessageProxy

/-- What an entry argument points to: an event and what to do when it is delivered. -/
structure Subscription (α : Type) where
  /-- Where the subscription is kept. -/
  address : UInt64
  event : UInt32
  /-- What the event's identifier is given to. -/
  target : UInt32 → α

/-- Delivers the subscription's event to its target. -/
def Subscription.dispatch {α : Type} (subscription : Subscription α) : α :=
  subscription.target subscription.event

namespace SoftwareEvent

variable {σ : Type}

/-- Registers the subscription for delivery at `entryPoint`, which gets the subscription's address
as its argument; firmware without software events does not support it. -/
def register {α : Type} (platform : Platform σ) (subscription : Subscription α)
    (entryPoint : UInt64) : Supervisor σ Unit := do
  unless ← Supervisor.probe platform Extension.softwareEvents do
    throw .notSupported
  Supervisor.command platform
    (.registerEvent subscription.event entryPoint subscription.address)
  note (.eventRegistered subscription.event entryPoint)

/-- Takes the registration of `event` back. -/
def unregister (platform : Platform σ) (event : UInt32) : Supervisor σ Unit :=
  Supervisor.command platform (.unregisterEvent event)

/-- Lets a registered event be delivered. -/
def enable (platform : Platform σ) (event : UInt32) : Supervisor σ Unit :=
  Supervisor.command platform (.enableEvent event)

/-- Stops the delivery of an event. -/
def disable (platform : Platform σ) (event : UInt32) : Supervisor σ Unit :=
  Supervisor.command platform (.disableEvent event)

/-- Lets the calling hart receive events. -/
def unmaskHart (platform : Platform σ) : Supervisor σ Unit :=
  Supervisor.command platform .unmaskHart

/-- Keeps events from the calling hart. -/
def maskHart (platform : Platform σ) : Supervisor σ Unit :=
  Supervisor.command platform .maskHart

end SoftwareEvent

end MessageProxy
