import MessageProxy.Json.Reader

/-!
Reading typed values out of JSON.

A record is an object, whose unknown members are ignored and whose missing ones take their
defaults, or a list of the fields in order, which may stop early. Nothing is ever read out of
`null`.
-/

namespace MessageProxy.Json

/-- What becomes of the repeated keys of an object. -/
inductive Repeats where
  /-- They stay; a record refuses a field that comes twice. -/
  | kept
  /-- The last one counts, as in a document that has been read before. -/
  | lastWins
deriving DecidableEq

/-- The members of an object that count. -/
def Repeats.members (repeats : Repeats) (members : List (Option String × Json)) :
    List (Option String × Json) :=
  match repeats with
  | .kept => members
  | .lastWins => members.foldr
      (fun member later =>
        if later.any fun other => other.1 = member.1 then later else member :: later) []

/-- The member with the given key, if there is one; a second one is refused. -/
def member? (members : List (Option String × Json)) (key : String) : Option (Option Json) :=
  match members.filter fun member => member.1 = some key with
  | [] => some none
  | [member] => some (some member.2)
  | _ => none

/-- The values of a record's fields, those that are there. -/
def fields? (repeats : Repeats) (names : List String) : Json → Option (List (Option Json))
  | .object members =>
    let members := repeats.members members
    if members.all fun member => member.1.isSome then names.mapM (member? members) else none
  | .list items =>
    if items.length ≤ names.length then
      some (items.map some ++ List.replicate (names.length - items.length) none)
    else none
  | _ => none

/-- The value of a field, or its default when the field is missing. -/
def fieldOr {α : Type} (default : α) (decode : Json → Option α) : Option Json → Option α
  | some value => decode value
  | none => some default

def bool? : Json → Option Bool
  | .bool value => some value
  | _ => none

def string? : Json → Option String
  | .text value => value
  | _ => none

/-- A natural number below `bound`, written without sign, fraction and exponent. -/
def natBelow? (bound : Nat) : Json → Option Nat
  | .number (.whole false magnitude) => if magnitude < bound then some magnitude else none
  | _ => none

def uint8? (json : Json) : Option UInt8 :=
  (natBelow? UInt8.size json).map Nat.toUInt8

def uint16? (json : Json) : Option UInt16 :=
  (natBelow? UInt16.size json).map Nat.toUInt16

def uint32? (json : Json) : Option UInt32 :=
  (natBelow? UInt32.size json).map Nat.toUInt32

/-- A list of values. -/
def list? {α : Type} (decode : Json → Option α) : Json → Option (List α)
  | .list items => items.mapM decode
  | _ => none

end MessageProxy.Json
