import MessageProxy.Endpoint.Attributes
import MessageProxy.SoftwareEvent

/-!
Having the firmware tell of forwarded requests by a software event.

Arming reads which event a channel uses, registers it, enables it and unmasks the hart; disarming
masks the hart, disables the event and takes the registration back. Either stops at the first call
that fails.
-/

namespace MessageProxy.Forwarding

variable {σ : Type}

/-- Routes the event of `channel` to `target`, by way of the given entry point. The subscription is
kept at `address`, where it stays when arming fails. -/
def arm {α : Type} (platform : Platform σ) (channel : ChannelId) (entryPoint address : UInt64)
    (target : UInt32 → α) : Action σ (Subscription α) := do
  match ← Endpoint.readAttributes platform channel Attribute.eventId 1 with
  | [] => throw .deviceError
  | event :: _ =>
    let subscription := { address, event, target }
    SoftwareEvent.register platform subscription entryPoint
    SoftwareEvent.enable platform event
    SoftwareEvent.unmaskHart platform
    note (.armed channel event)
    return subscription

/-- Stops the delivery of an armed event. -/
def disarm (platform : Platform σ) (event : UInt32) : Action σ Unit := do
  SoftwareEvent.maskHart platform
  SoftwareEvent.disable platform event
  SoftwareEvent.unregister platform event
  note (.disarmed event)

end MessageProxy.Forwarding
