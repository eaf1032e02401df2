import MessageProxy.Proofs.Frame.Fields

/-!
Headers and byte orders.

The codecs of the two headers are bijections between headers and strings of as many bytes as their
fields have. Swapping reverses the bytes of each field where they stand, which makes the encoded
form the one that a machine of the other byte order keeps in its memory.
-/

namespace MessageProxy

namespace Bytes

/-- The bytes of consecutive fields with the given widths, each field in reverse order. -/
def reverseFields : List Nat → Bytes → Bytes
  | [], bytes => bytes
  | width :: widths, bytes => (bytes.take width).reverse ++ reverseFields widths (bytes.drop width)

theorem reverseFields_nil (widths : List Nat) : reverseFields widths [] = [] := by
  induction widths with
  | nil => rfl
  | cons width widths ih => rw [reverseFields, List.take_nil, List.drop_nil, ih, List.reverse_nil,
      List.append_nil]

/-- Fields that are reversed twice are as they were. -/
theorem reverseFields_reverseFields (widths : List Nat) (bytes : Bytes) :
    reverseFields widths (reverseFields widths bytes) = bytes := by
  induction widths generalizing bytes with
  | nil => rfl
  | cons width widths ih =>
    rw [reverseFields.eq_2 bytes, reverseFields]
    by_cases hwidth : width ≤ bytes.length
    · have hfront : ((bytes.take width).reverse).length = width := by
        rw [List.length_reverse, List.length_take, Nat.min_eq_left hwidth]
      rw [List.take_left' hfront, List.drop_left' hfront, List.reverse_reverse, ih,
        List.take_append_drop]
    · -- the last field is cut short, and nothing follows it
      have hshort : bytes.length ≤ width := Nat.le_of_not_le hwidth
      rw [List.take_of_length_le hshort, List.drop_of_length_le hshort, reverseFields_nil,
        List.append_nil, List.take_of_length_le (by rw [List.length_reverse]; exact hshort),
        List.drop_of_length_le (by rw [List.length_reverse]; exact hshort), List.reverse_reverse,
        reverseFields_nil, List.append_nil]

theorem ofUInt16_reverse16 (word : UInt16) :
    ofUInt16 (reverse16 word) = (ofUInt16 word).reverse := by
  rw [reverse16, ofUInt16_toUInt16]
  rfl

theorem ofUInt32_reverse32 (word : UInt32) :
    ofUInt32 (reverse32 word) = (ofUInt32 word).reverse := by
  rw [reverse32, ofUInt32_toUInt32]
  rfl

end Bytes

namespace ByteOrder

/-- The 16-bit word that a machine keeps at an offset of its memory. -/
def load16 (order : ByteOrder) (bytes : Bytes) (offset : Nat) : UInt16 :=
  match order with
  | .little => bytes.word16 offset
  | .big => Bytes.toUInt16 (bytes.getD (offset + 1) 0) (bytes.getD offset 0)

/-- The 32-bit word that a machine keeps at an offset of its memory. -/
def load32 (order : ByteOrder) (bytes : Bytes) (offset : Nat) : UInt32 :=
  match order with
  | .little => bytes.word32 offset
  | .big => Bytes.toUInt32 (bytes.getD (offset + 3) 0) (bytes.getD (offset + 2) 0)
      (bytes.getD (offset + 1) 0) (bytes.getD offset 0)

end ByteOrder

/-- The header that a machine keeps at the start of its memory, field by field. -/
def Header.load (order : ByteOrder) (bytes : Bytes) : Header where
  group := order.load16 bytes 0
  service := bytes.getD 2 0
  kind := bytes.getD 3 0
  token := order.load16 bytes 4
  dataLength := order.load16 bytes 6

/-- The response header that a machine keeps at the start of its memory, field by field. -/
def ResponseHeader.load (order : ByteOrder) (bytes : Bytes) : ResponseHeader where
  status := (order.load32 bytes 0).toInt32
  flags := order.load32 bytes 4
  remaining := order.load32 bytes 8
  returned := order.load32 bytes 12
  function := order.load32 bytes 16

/-- The response header at the start of a body. -/
def ResponseHeader.decode? (body : Bytes) : Option ResponseHeader :=
  (split? body).map Prod.fst

/-- A codec of values that are fields of the given widths, one behind the other, and what swaps
their bytes. The codec is a bijection onto the strings of `length` bytes; swapping reverses the
bytes of each field where they stand, is undone by swapping again, and turns the encoded form from
what a little-endian machine keeps in its memory into what a big-endian one does. -/
structure IsFieldCodec {α : Type} (length : Nat) (widths : List Nat) (encode : α → Bytes)
    (decode? : Bytes → Option α) (swap : α → α) (load : ByteOrder → Bytes → α) : Prop where
  length_encode : ∀ value, (encode value).length = length
  decode_encode : ∀ value, decode? (encode value) = some value
  encode_decode : ∀ bytes, bytes.length = length →
    ∃ value, decode? bytes = some value ∧ encode value = bytes
  encode_swap : ∀ value, encode (swap value) = Bytes.reverseFields widths (encode value)
  swap_swap : ∀ value, swap (swap value) = value
  load_encode : ∀ value, load .little (encode value) = value
  load_swap : ∀ value, load .big (encode (swap value)) = value

/-- It is enough that decoding is what a little-endian machine does with its memory, and that a
big-endian one reads each field the other way round. -/
theorem isFieldCodec_of_load {α : Type} {length : Nat} {widths : List Nat} {encode : α → Bytes}
    {decode? : Bytes → Option α} {swap : α → α} {load : ByteOrder → Bytes → α}
    (hlength : ∀ value, (encode value).length = length)
    (hdecode : ∀ value, decode? (encode value) = some value)
    (hlittle : ∀ bytes, bytes.length = length →
      decode? bytes = some (load .little bytes) ∧ encode (load .little bytes) = bytes)
    (hswap : ∀ value, encode (swap value) = Bytes.reverseFields widths (encode value))
    (hbig : ∀ bytes, bytes.length = length →
      load .big (Bytes.reverseFields widths bytes) = load .little bytes) :
    IsFieldCodec length widths encode decode? swap load := by
  have hload (value : α) : load .little (encode value) = value := by
    have hsame := (hlittle (encode value) (hlength value)).1
    rw [hdecode] at hsame
    exact (Option.some.inj hsame).symm
  refine ⟨hlength, hdecode, fun bytes hbytes => ⟨_, hlittle bytes hbytes⟩, hswap, ?_, hload, ?_⟩
  · intro value
    -- values that have the same encoded form are the same
    rw [← hload (swap (swap value)), hswap, hswap, Bytes.reverseFields_reverseFields, hload]
  · intro value
    rw [hswap, hbig _ (hlength value), hload]

/-- Bytes that are reversed field by field say the same in the other byte order. -/
theorem Header.load_reverseFields {bytes : Bytes} (hlength : bytes.length = 8) :
    load .big (Bytes.reverseFields [2, 1, 1, 2, 2] bytes) = load .little bytes := by
  match bytes, hlength with
  | [_, _, _, _, _, _, _, _], _ => rfl

theorem ResponseHeader.load_reverseFields {bytes : Bytes} (hlength : bytes.length = 20) :
    load .big (Bytes.reverseFields [4, 4, 4, 4, 4] bytes) = load .little bytes := by
  match bytes, hlength with
  | [_, _, _, _, _, _, _, _, _, _, _, _, _, _, _, _, _, _, _, _], _ => rfl

theorem Header.isFieldCodec :
    IsFieldCodec 8 [2, 1, 1, 2, 2] encode decode? swapBytes load := by
  refine isFieldCodec_of_load (fun _ => rfl) ?_ ?_ ?_ fun bytes => load_reverseFields
  · intro header
    have hdecode := decode?_encode_append header []
    rwa [List.append_nil] at hdecode
  · intro bytes hsum
    have hlength : bytes.length = length := hsum
    have hdecode := decode?_of_le (Nat.le_of_eq hlength.symm)
    exact ⟨hdecode,
      (encode_of_decode? hdecode).trans (List.take_of_length_le (Nat.le_of_eq hlength))⟩
  · intro header
    simp only [encode, swapBytes, Bytes.ofUInt16_reverse16]
    rfl

theorem ResponseHeader.isFieldCodec :
    IsFieldCodec 20 [4, 4, 4, 4, 4] encode decode? swapBytes load := by
  refine isFieldCodec_of_load (fun _ => rfl) ?_ ?_ ?_ fun bytes => load_reverseFields
  · intro header
    have hsplit := split?_encode_append header []
    rw [List.append_nil] at hsplit
    rw [decode?, hsplit]
    rfl
  · intro bytes hsum
    have hlength : bytes.length = length := hsum
    have hsplit := split?_of_le (Nat.le_of_eq hlength.symm)
    have hbytes := append_of_split? hsplit
    rw [List.drop_of_length_le (Nat.le_of_eq hlength), List.append_nil] at hbytes
    refine ⟨?_, hbytes.symm⟩
    rw [decode?, hsplit]
    rfl
  · intro header
    have hstatus (word : UInt32) : word.toInt32.toUInt32 = word := rfl
    simp only [encode, swapBytes, hstatus, Bytes.ofUInt32_reverse32]
    rfl

namespace Frame

/-- Both headers are read from exactly the bytes that they are written as, and every string of as
many bytes as a header has is the encoded form of one, whatever stands in its fields. Swapping
reverses the bytes of each field where they stand, so that those of a single byte stay as they are;
it is undone by swapping again, and a machine of the other byte order reads the same values from the
swapped header. -/
theorem headers_bijective :
    IsFieldCodec 8 [2, 1, 1, 2, 2] Header.encode Header.decode? Header.swapBytes Header.load ∧
      IsFieldCodec 20 [4, 4, 4, 4, 4] ResponseHeader.encode ResponseHeader.decode?
        ResponseHeader.swapBytes ResponseHeader.load :=
  ⟨Header.isFieldCodec, ResponseHeader.isFieldCodec⟩

/-- Bytes with a negative status word, and what they are when each field is the other way round. -/
theorem headers_bijective_negative_status :
    let bytes : Bytes := [0xF8, 0xFF, 0xFF, 0xFF, 1, 0, 0, 0, 2, 3, 0, 0, 4, 5, 6, 0, 7, 8, 9, 0x80]
    bytes.length = 20 ∧
      ∃ header, ResponseHeader.decode? bytes = some header ∧ header.status = -8 ∧
        header.encode = bytes ∧
        header.swapBytes.encode =
          [0xFF, 0xFF, 0xFF, 0xF8, 0, 0, 0, 1, 0, 0, 3, 2, 0, 6, 5, 4, 0x80, 9, 8, 7] ∧
        ResponseHeader.load .big header.swapBytes.encode = header := by
  intro bytes
  obtain ⟨-, hcodec⟩ := headers_bijective
  obtain ⟨header, hdecode, hencode⟩ := hcodec.encode_decode bytes rfl
  have hstatus : (ResponseHeader.decode? bytes).map ResponseHeader.status = some (-8) := by decide
  have hswapped := hcodec.encode_swap header
  rw [hdecode] at hstatus
  rw [hencode] at hswapped
  exact ⟨rfl, header, hdecode, Option.some.inj hstatus, hencode, hswapped, hcodec.load_swap header⟩

end Frame

end MessageProxy
