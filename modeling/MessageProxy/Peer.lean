import MessageProxy.Config.Basic
import MessageProxy.Endpoint.Directory

/-!
Finding and opening the channel of a peer that serves an RPMI service group.
-/

namespace MessageProxy.Endpoint

variable {σ : Type}

/-- The channel that a source names for `group`; searching takes at most `budget` pages of the
directory, and finds nothing when it spends them. -/
def resolveChannel (platform : Platform σ) (budget : Nat) (source : ChannelSource)
    (group : UInt16) : Action σ (Option ChannelId) :=
  match source with
  | .probe => findChannel platform budget Attribute.serviceGroup group.toUInt32
  | .fixed channel => pure (some channel)
  | .descriptor descriptor => do return some (← accept descriptor.channel)

/-- Opens a channel that has to carry RPMI and answer requests. -/
def openRequestChannel (platform : Platform σ) (channel : ChannelId) : Action σ ChannelInfo := do
  let info ← openChannel platform channel
  unless info.isRequestChannel do
    refuse (.notARequestChannel channel info)
  return info

end MessageProxy.Endpoint
