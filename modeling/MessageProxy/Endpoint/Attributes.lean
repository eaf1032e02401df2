import MessageProxy.Endpoint.Basic

/-!
Reading and writing the attributes of a channel, consecutive ones in one call. Nothing is kept
between calls.
-/

namespace MessageProxy.Endpoint

variable {σ : Type}

/-- The values of `count` attributes from `first` on. -/
def readAttributes (platform : Platform σ) (channel : ChannelId) (first count : UInt32) :
    Action σ (List UInt32) :=
  Action.withBuffer .deviceError fun buffer => do
    if count = 0 ∨ 4 * count.toNat > buffer.size.toNat then throw .invalidParameter
    Supervisor.command platform (.readAttributes channel first count)
    buffer.readWords 0 count

/-- Sets consecutive attributes from `first` on. -/
def writeAttributes (platform : Platform σ) (channel : ChannelId) (first : UInt32)
    (values : List UInt32) : Action σ Unit :=
  Action.withBuffer .deviceError fun buffer => do
    if values.isEmpty ∨ 4 * values.length > buffer.size.toNat then throw .invalidParameter
    buffer.write (Bytes.ofWords values)
    Supervisor.command platform (.writeAttributes channel first values.length)

/-- The standard attributes of a channel. -/
def openChannel (platform : Platform σ) (channel : ChannelId) : Action σ ChannelInfo := do
  match ChannelInfo.ofAttributes?
      (← readAttributes platform channel 0 Attribute.standardCount) with
  | none => throw .deviceError
  | some info =>
    note (.opened channel info)
    return info

end MessageProxy.Endpoint
