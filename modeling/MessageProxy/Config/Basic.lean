import MessageProxy.Config.Descriptor

/-!
The configuration of a client: how requests are delivered, where the channel comes from and which
service group is served.
-/

namespace MessageProxy

/-- The tag that tells the receiver of an envelope what is in it, in the order of the wire. -/
abbrev Guid := Vector UInt8 16

/-- Where the channel of a client comes from. -/
inductive ChannelSource where
  /-- The directory is searched for the service group. -/
  | probe
  | fixed (channel : ChannelId)
  | descriptor (descriptor : Descriptor)
deriving DecidableEq

/-- The configuration of a client. -/
structure Config where
  /-- Whether requests go straight to a channel, and not in envelopes. -/
  passThrough : Bool := true
  source : ChannelSource := .probe
  group : UInt16 := ServiceGroup.ras
  envelope : Guid := Vector.replicate 16 0
deriving DecidableEq

/-- Reads a channel source: the name of the one that takes nothing, or an object whose only member
names the source. -/
def ChannelSource.ofJson? (repeats : Json.Repeats) : Json → Option ChannelSource
  | .text (some "probe") => some .probe
  | .object members =>
    match repeats.members members with
    | [(some "probe", .null)] => some .probe
    | [(some "fixed", value)] => (Json.uint32? value).map fun raw => .fixed ⟨raw⟩
    | [(some "descriptor", value)] => (Descriptor.ofJson? repeats value).map .descriptor
    | _ => none
  | _ => none

/-- Reads an envelope tag: a list of exactly sixteen bytes. -/
def guid? (json : Json) : Option Guid := do
  let bytes ← Json.list? Json.uint8? json
  if h : bytes.toArray.size = 16 then return ⟨bytes.toArray, h⟩ else none

/-- Reads a configuration. -/
def Config.ofJson? (repeats : Json.Repeats) (json : Json) : Option Config := do
  let default : Config := {}
  let names := ["pass_through", "channel", "service_group", "envelope_guid"]
  match ← Json.fields? repeats names json with
  | [passThrough, source, group, envelope] =>
    return {
      passThrough := ← Json.fieldOr default.passThrough Json.bool? passThrough
      source := ← Json.fieldOr default.source (ChannelSource.ofJson? repeats) source
      group := ← Json.fieldOr default.group Json.uint16? group
      envelope := ← Json.fieldOr default.envelope guid? envelope }
  | _ => none

end MessageProxy
