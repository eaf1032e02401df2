/-!
Byte strings and the little-endian words they hold.

Every multi-byte field that a channel carries is little-endian; the one big-endian word, a device
tree cell, has its own reader. A word is read from the bytes it was written as, and bytes are
written back as they were read.
-/

namespace MessageProxy

/-- A byte string, first byte first. -/
abbrev Bytes := List UInt8

namespace Bytes

/-- The digit of a number in base 256 with the given index, least significant first. -/
def digit (index value : Nat) : UInt8 :=
  UInt8.ofNat (value / Nat.pow 256 index)

/-- The two bytes of a 16-bit word, least significant first. -/
def ofUInt16 (word : UInt16) : Bytes :=
  [digit 0 word.toNat, digit 1 word.toNat]

/-- The four bytes of a 32-bit word, least significant first. -/
def ofUInt32 (word : UInt32) : Bytes :=
  [digit 0 word.toNat, digit 1 word.toNat, digit 2 word.toNat, digit 3 word.toNat]

/-- The eight bytes of a 64-bit word, least significant first. -/
def ofUInt64 (word : UInt64) : Bytes :=
  [digit 0 word.toNat, digit 1 word.toNat, digit 2 word.toNat, digit 3 word.toNat,
   digit 4 word.toNat, digit 5 word.toNat, digit 6 word.toNat, digit 7 word.toNat]

/-- The 16-bit word with the given bytes, least significant first. -/
def toUInt16 (b0 b1 : UInt8) : UInt16 :=
  UInt16.ofNat (b0.toNat + 256 * b1.toNat)

/-- The 32-bit word with the given bytes, least significant first. -/
def toUInt32 (b0 b1 b2 b3 : UInt8) : UInt32 :=
  UInt32.ofNat (b0.toNat + 256 * b1.toNat + 65536 * b2.toNat + 16777216 * b3.toNat)

/-- The word with the bytes of `word` in reverse order. -/
def reverse16 (word : UInt16) : UInt16 :=
  toUInt16 (digit 1 word.toNat) (digit 0 word.toNat)

/-- The word with the bytes of `word` in reverse order. -/
def reverse32 (word : UInt32) : UInt32 :=
  toUInt32 (digit 3 word.toNat) (digit 2 word.toNat) (digit 1 word.toNat) (digit 0 word.toNat)

/-- The words of `bytes`, four bytes each; one to three bytes left at the end are ignored. -/
def words : Bytes → List UInt32
  | b0 :: b1 :: b2 :: b3 :: rest => toUInt32 b0 b1 b2 b3 :: words rest
  | _ => []

/-- The bytes of consecutive 32-bit words. -/
def ofWords (values : List UInt32) : Bytes :=
  values.flatMap ofUInt32

/-- The value of one device tree cell: exactly four bytes, most significant first. -/
def cell? : Bytes → Option UInt32
  | [b3, b2, b1, b0] => some (toUInt32 b0 b1 b2 b3)
  | _ => none

/-- The first `count` bytes, or nothing when there are fewer. -/
def take? (count : Nat) (bytes : Bytes) : Option Bytes :=
  if count ≤ bytes.length then some (bytes.take count) else none

/-- The first `count` bytes, with zeros for those that `bytes` does not have. -/
def zeroExtend (count : Nat) (bytes : Bytes) : Bytes :=
  let front := bytes.take count
  front ++ List.replicate (count - front.length) 0

/-- Writes `front` over the start of `bytes` and leaves the rest as it was. -/
def overwrite (front bytes : Bytes) : Bytes :=
  front ++ bytes.drop front.length

@[simp]
theorem length_ofUInt16 (word : UInt16) : (ofUInt16 word).length = 2 :=
  rfl

@[simp]
theorem length_ofUInt32 (word : UInt32) : (ofUInt32 word).length = 4 :=
  rfl

theorem toUInt16_digit (word : UInt16) :
    toUInt16 (digit 0 word.toNat) (digit 1 word.toNat) = word := by
  have := word.toNat_lt
  apply UInt16.toNat_inj.1
  simp [toUInt16, digit]
  omega

theorem toUInt32_digit (word : UInt32) :
    toUInt32 (digit 0 word.toNat) (digit 1 word.toNat) (digit 2 word.toNat)
      (digit 3 word.toNat) = word := by
  have := word.toNat_lt
  apply UInt32.toNat_inj.1
  simp [toUInt32, digit]
  omega

theorem ofUInt16_toUInt16 (b0 b1 : UInt8) : ofUInt16 (toUInt16 b0 b1) = [b0, b1] := by
  have := b0.toNat_lt
  have := b1.toNat_lt
  simp [ofUInt16, toUInt16, digit, ← UInt8.toNat_inj]
  omega

theorem ofUInt32_toUInt32 (b0 b1 b2 b3 : UInt8) :
    ofUInt32 (toUInt32 b0 b1 b2 b3) = [b0, b1, b2, b3] := by
  have := b0.toNat_lt
  have := b1.toNat_lt
  have := b2.toNat_lt
  have := b3.toNat_lt
  simp [ofUInt32, toUInt32, digit, ← UInt8.toNat_inj]
  omega

/-- The words of written words are those words. -/
theorem words_ofWords (values : List UInt32) : words (ofWords values) = values := by
  induction values with
  | nil => rfl
  | cons value rest ih =>
    have hrest : words (rest.flatMap ofUInt32) = rest := ih
    simp [ofWords, ofUInt32, words, toUInt32_digit, hrest]

@[simp]
theorem length_ofWords (values : List UInt32) : (ofWords values).length = 4 * values.length := by
  induction values with
  | nil => rfl
  | cons value rest ih =>
    have hrest : (rest.flatMap ofUInt32).length = 4 * rest.length := ih
    simp [ofWords, hrest]
    omega

theorem ofWords_append (front back : List UInt32) :
    ofWords (front ++ back) = ofWords front ++ ofWords back :=
  List.flatMap_append

theorem ofWords_replicate_zero (count : Nat) :
    ofWords (List.replicate count 0) = List.replicate (count * 4) 0 := by
  have hzero : ofUInt32 0 = List.replicate 4 0 := by decide
  rw [ofWords, List.flatMap_replicate, hzero, List.flatten_replicate_replicate]

theorem drop_ofWords (values : List UInt32) (count : Nat) :
    (ofWords values).drop (4 * count) = ofWords (values.drop count) := by
  induction count generalizing values with
  | zero => rfl
  | succ count ih =>
    cases values with
    | nil => simp [ofWords]
    | cons value rest => exact ih rest

theorem take_ofWords (values : List UInt32) (count : Nat) :
    (ofWords values).take (4 * count) = ofWords (values.take count) := by
  induction count generalizing values with
  | zero => rfl
  | succ count ih =>
    cases values with
    | nil => simp [ofWords]
    | cons value rest => exact congrArg (ofUInt32 value ++ ·) (ih rest)

end Bytes

end MessageProxy
