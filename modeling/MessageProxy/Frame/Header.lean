import MessageProxy.Bytes

/-!
The eight-byte header in front of every RPMI message, and its byte-swapped image. A header is
read from its encoded form whatever follows it, and encoded as it was read.
-/

namespace MessageProxy

/-! Message types, the values of a header's `kind`. -/
namespace MessageKind

def normalRequest : UInt8 := 0x0
def postedRequest : UInt8 := 0x1
def acknowledgement : UInt8 := 0x2
def notification : UInt8 := 0x3

end MessageKind

/-! Service groups, the values of a header's `group`. -/
namespace ServiceGroup

def base : UInt16 := 0x0001
def systemReset : UInt16 := 0x0002
def systemSuspend : UInt16 := 0x0003
def hartState : UInt16 := 0x0004
def performance : UInt16 := 0x0005
def clock : UInt16 := 0x0007
def ras : UInt16 := 0x000B
def requestForward : UInt16 := 0x000C

end ServiceGroup

/-- The order in which a machine keeps the bytes of a word. -/
inductive ByteOrder where
  | little
  | big
deriving DecidableEq

/-- The header of one message. -/
structure Header where
  group : UInt16
  service : UInt8
  kind : UInt8
  token : UInt16
  dataLength : UInt16
deriving DecidableEq

namespace Header

/-- The encoded size of a header. -/
def length : Nat := 8

/-- The header of a request without data. -/
def request (group : UInt16) (service : UInt8) (token : UInt16) : Header :=
  { group, service, kind := MessageKind.normalRequest, token, dataLength := 0 }

/-- The header of the acknowledgement of a message, without data. -/
def reply (header : Header) : Header :=
  { header with kind := MessageKind.acknowledgement, dataLength := 0 }

/-- Whether two headers name the same group, service and token. -/
def answers (answer request : Header) : Bool :=
  answer.group = request.group && answer.service = request.service && answer.token = request.token

/-- The header in its encoded form. -/
def encode (header : Header) : Bytes :=
  Bytes.ofUInt16 header.group ++ [header.service, header.kind] ++
    Bytes.ofUInt16 header.token ++ Bytes.ofUInt16 header.dataLength

/-- The header at the start of `frame`, unless the frame is shorter than a header. -/
def decode? : Bytes → Option Header
  | g0 :: g1 :: service :: kind :: t0 :: t1 :: n0 :: n1 :: _ =>
    some { group := Bytes.toUInt16 g0 g1, service, kind, token := Bytes.toUInt16 t0 t1,
           dataLength := Bytes.toUInt16 n0 n1 }
  | _ => none

/-- The header with the bytes of every two-byte field in reverse order. -/
def swapBytes (header : Header) : Header :=
  { header with
    group := Bytes.reverse16 header.group
    token := Bytes.reverse16 header.token
    dataLength := Bytes.reverse16 header.dataLength }

/-- The image of a header in a machine's memory, as it must be for the wire; only a machine that
keeps the most significant byte first has to swap. -/
def toWire (order : ByteOrder) (header : Header) : Header :=
  match order with
  | .little => header
  | .big => header.swapBytes

/-- The image that came from the wire, as a machine reads it. -/
def ofWire (order : ByteOrder) (header : Header) : Header :=
  header.toWire order

theorem answers_iff {answer request : Header} :
    answer.answers request = true ↔ answer.group = request.group ∧
      answer.service = request.service ∧ answer.token = request.token := by
  simp only [answers, Bool.and_eq_true, decide_eq_true_eq, and_assoc]

theorem answers_reply (request : Header) : request.reply.answers request = true := by
  simp [answers, reply]

@[simp]
theorem length_encode (header : Header) : header.encode.length = length :=
  rfl

theorem decode?_encode_append (header : Header) (rest : Bytes) :
    decode? (header.encode ++ rest) = some header := by
  simp [encode, Bytes.ofUInt16, decode?, Bytes.toUInt16_digit]

theorem encode_of_decode? {frame : Bytes} {header : Header} (h : decode? frame = some header) :
    header.encode = frame.take length := by
  unfold decode? at h
  split at h
  · cases h
    simp [encode, Bytes.ofUInt16_toUInt16, length]
  · cases h

theorem length_le_of_decode? {frame : Bytes} {header : Header}
    (hheader : decode? frame = some header) : length ≤ frame.length := by
  unfold decode? at hheader
  split at hheader
  · simp only [length, List.length_cons]
    omega
  · cases hheader

end Header

end MessageProxy
