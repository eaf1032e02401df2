import MessageProxy.Frame.Header

/-!
The twenty-byte header at the start of the response bodies of the RAS service group.
-/

namespace MessageProxy

/-- The status, the flags and the three counters in front of a response's payload. -/
structure ResponseHeader where
  status : Int32
  flags : UInt32
  remaining : UInt32
  returned : UInt32
  function : UInt32
deriving DecidableEq

namespace ResponseHeader

/-- The encoded size of a response header. -/
def length : Nat := 20

/-- The header in its encoded form. -/
def encode (header : ResponseHeader) : Bytes :=
  Bytes.ofUInt32 header.status.toUInt32 ++ Bytes.ofUInt32 header.flags ++
    Bytes.ofUInt32 header.remaining ++ Bytes.ofUInt32 header.returned ++
    Bytes.ofUInt32 header.function

/-- The header at the start of `body` and the payload behind it, unless the body is too short. -/
def split? : Bytes → Option (ResponseHeader × Bytes)
  | s0 :: s1 :: s2 :: s3 :: f0 :: f1 :: f2 :: f3 :: m0 :: m1 :: m2 :: m3 ::
      r0 :: r1 :: r2 :: r3 :: i0 :: i1 :: i2 :: i3 :: payload =>
    some ({ status := (Bytes.toUInt32 s0 s1 s2 s3).toInt32
            flags := Bytes.toUInt32 f0 f1 f2 f3
            remaining := Bytes.toUInt32 m0 m1 m2 m3
            returned := Bytes.toUInt32 r0 r1 r2 r3
            function := Bytes.toUInt32 i0 i1 i2 i3 }, payload)
  | _ => none

/-- The header with the bytes of every field in reverse order. -/
def swapBytes (header : ResponseHeader) : ResponseHeader :=
  { status := (Bytes.reverse32 header.status.toUInt32).toInt32
    flags := Bytes.reverse32 header.flags
    remaining := Bytes.reverse32 header.remaining
    returned := Bytes.reverse32 header.returned
    function := Bytes.reverse32 header.function }

/-- The image of a header in a machine's memory, as it must be for the wire. -/
def toWire (order : ByteOrder) (header : ResponseHeader) : ResponseHeader :=
  match order with
  | .little => header
  | .big => header.swapBytes

/-- The image that came from the wire, as a machine reads it. -/
def ofWire (order : ByteOrder) (header : ResponseHeader) : ResponseHeader :=
  header.toWire order

@[simp]
theorem length_encode (header : ResponseHeader) : header.encode.length = length :=
  rfl

theorem split?_encode_append (header : ResponseHeader) (payload : Bytes) :
    split? (header.encode ++ payload) = some (header, payload) := by
  simp [encode, Bytes.ofUInt32, split?, Bytes.toUInt32_digit]

theorem append_of_split? {body payload : Bytes} {header : ResponseHeader}
    (h : split? body = some (header, payload)) : body = header.encode ++ payload := by
  unfold split? at h
  split at h
  · cases h
    simp [encode, Bytes.ofUInt32_toUInt32]
  · cases h

end ResponseHeader

end MessageProxy
