import MessageProxy.Frame.Codec
import MessageProxy.Frame.Response

/-!
What the replies of a RAS agent say.

Each reading is a check of one reply and has no effects, so that it can be said for every byte
string which replies are taken and what is read out of them.
-/

namespace MessageProxy.Ras

/-! The services of the RAS service group. -/
namespace Service

def sourceCount : UInt8 := 0x1
def sourceIds : UInt8 := 0x2
def sourceDescriptor : UInt8 := 0x3

end Service

/-- The most error source ids that one list holds. -/
def maxSources : Nat := 512

/-- The longest descriptor that is taken. -/
def maxDescriptorLength : Nat := 1024

/-- The bits of a response's flags that hold the type of a descriptor. -/
def descriptorTypeMask : UInt32 := 0xF

/-- The number of known descriptor types. -/
def descriptorTypes : UInt32 := 1

/-- The format of a descriptor. -/
inductive DescriptorType where
  /-- A generic hardware error source, version 2. -/
  | ghesv2
deriving DecidableEq

/-- The format that a response's flags name, if it is known. -/
def DescriptorType.ofFlags? (flags : UInt32) : Option DescriptorType :=
  if flags &&& descriptorTypeMask = 0 then some .ghesv2 else none

/-- The description of one error source. -/
structure SourceDescriptor where
  type : DescriptorType
  bytes : Bytes
deriving DecidableEq

/-- The header and the payload of a response. -/
structure Reply where
  header : ResponseHeader
  payload : Bytes
deriving DecidableEq

namespace Reply

/-- The response in a frame that answers `request`, whatever its status is. -/
def ofFrame (request : Header) (frame : Bytes) : Except Refusal Reply := do
  let (_, body) ← Frame.decode request frame
  match ResponseHeader.split? body with
  | some (header, payload) => return { header, payload }
  | none => throw .incomplete

/-- The number of error sources: the first word of the payload. -/
def sourceCount (reply : Reply) : Except Refusal UInt32 :=
  match Bytes.words (reply.payload.take 4) with
  | count :: _ => .ok count
  | [] => .error .incomplete

/-- The ids of all error sources: as many words of the payload as the header says. A list that is
incomplete or too long is refused before the payload is looked at. -/
def sourceIds (reply : Reply) : Except Refusal (List UInt32) :=
  let { returned, remaining, .. } := reply.header
  if returned.toNat > maxSources ∨ remaining ≠ 0 then
    .error (.sourceListTooLarge returned remaining)
  else match Bytes.take? (4 * returned.toNat) reply.payload with
    | some bytes => .ok (Bytes.words bytes)
    | none => .error .incomplete

/-- The descriptor of `source`: as many bytes of the payload as the header says. -/
def sourceDescriptor (source : UInt32) (reply : Reply) : Except Refusal SourceDescriptor :=
  let { flags, returned, remaining, .. } := reply.header
  if remaining ≠ 0 then .error (.fragmentedDescriptor source remaining)
  else match DescriptorType.ofFlags? flags with
    | none => .error (.unknownDescriptor flags)
    | some type =>
      if returned.toNat > maxDescriptorLength then .error (.oversizedDescriptor source returned)
      else match Bytes.take? returned.toNat reply.payload with
        | some bytes => .ok { type, bytes }
        | none => .error .incomplete

end Reply

end MessageProxy.Ras
