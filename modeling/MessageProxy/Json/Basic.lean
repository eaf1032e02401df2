/-!
The values of a strict JSON text, as far as configurations need them.

A number that is written with a fraction or an exponent is told apart from one that is not, since
no setting takes it; its digits are not kept. A text whose escapes leave half of a surrogate pair
has no characters and is kept as `none`, as the key of a member as well.
-/

namespace MessageProxy

/-- A number as it was written. -/
inductive Numeral where
  /-- Digits behind an optional minus sign. -/
  | whole (negative : Bool) (magnitude : Nat)
  /-- A number with a fraction or an exponent. -/
  | decimal
deriving DecidableEq

/-- A value; members of an object stay in order, with the repeated ones. -/
inductive Json where
  | null
  | bool (value : Bool)
  | number (value : Numeral)
  | text (value : Option String)
  | list (items : List Json)
  | object (members : List (Option String × Json))

end MessageProxy
