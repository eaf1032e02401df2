import MessageProxy.Channel.Id

/-!
How far a RAS session has come.
-/

namespace MessageProxy.Ras

/-- The stages of setting up a session. -/
inductive Stage where
  /-- Nothing is known yet. -/
  | uninitialized
  /-- The agent's channel is known. -/
  | channelResolved (channel : ChannelId)
  /-- The agent's channel is open and carries RPMI requests. -/
  | channelOpen (channel : ChannelId)
  /-- Requests may be sent. -/
  | ready
deriving DecidableEq

/-- The stage as log lines show it. -/
def Stage.described : Stage → String
  | uninitialized => "Uninitialized"
  | channelResolved channel => "ChannelResolved(" ++ channel.described ++ ")"
  | channelOpen channel => "ChannelOpen(" ++ channel.described ++ ")"
  | ready => "Ready"

end MessageProxy.Ras
