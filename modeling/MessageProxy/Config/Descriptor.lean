import MessageProxy.Json.Decode
import MessageProxy.Refusal

/-!
Device descriptors: the strings and properties of one device tree node, and the channel that a
RAS agent's node names.
-/

namespace MessageProxy

/-- A device tree node; no two properties have the same name. -/
structure Descriptor where
  compatible : List String
  properties : List (String × Bytes)
deriving DecidableEq

namespace Descriptor

/-- A node without strings and properties. -/
def empty : Descriptor :=
  { compatible := [], properties := [] }

/-- Sets a property, in place of one with the same name. -/
def setProperty (descriptor : Descriptor) (name : String) (value : Bytes) : Descriptor :=
  { descriptor with
    properties := descriptor.properties.filter (fun entry => entry.1 ≠ name) ++ [(name, value)] }

/-- Whether the node is compatible with `kind`. -/
def isCompatible (descriptor : Descriptor) (kind : String) : Bool :=
  descriptor.compatible.contains kind

/-- The value of a property. -/
def property? (descriptor : Descriptor) (name : String) : Option Bytes :=
  (descriptor.properties.find? fun entry => entry.1 = name).map Prod.snd

/-- The channel that the node of a RAS agent names. -/
def channel (descriptor : Descriptor) : Except Refusal ChannelId :=
  if descriptor.isCompatible agentCompatible then
    match descriptor.property? channelProperty with
    | none => .error .noChannelProperty
    | some value =>
      match Bytes.cell? value with
      | some raw => .ok ⟨raw⟩
      | none => .error .malformedChannelProperty
  else .error .notAnAgent

/-- Adds one member of the object that holds the properties. -/
def addProperty? (descriptor : Descriptor) (member : Option String × Json) : Option Descriptor := do
  return descriptor.setProperty (← member.1) (← Json.list? Json.uint8? member.2)

/-- Reads a descriptor. -/
def ofJson? (repeats : Json.Repeats) (json : Json) : Option Descriptor := do
  match ← Json.fields? repeats ["compatible", "properties"] json with
  | [compatible, properties] =>
    let compatible ← Json.fieldOr [] (Json.list? Json.string?) compatible
    match properties with
    | none => return { compatible, properties := [] }
    | some (.object members) =>
      (repeats.members members).foldlM addProperty? { compatible, properties := [] }
    | some _ => none
  | _ => none

end Descriptor

end MessageProxy
