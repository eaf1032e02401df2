import MessageProxy.Json.Token

/-!
Reading tokens into a value. The lists and objects that are still open are kept on a stack, so
that reading is one pass over the tokens however deep the value is.
-/

namespace MessageProxy.Json

/-- A list or an object that is still open; what it has so far, the latest first. -/
inductive Container where
  | list (items : List Json)
  /-- An object that waits for the value of `key`, or has just got it. -/
  | object (members : List (Option String × Json)) (key : Option String)

/-- Where in the grammar the reader stands. -/
inductive Position where
  /-- Before a value; a list that has just been opened may end instead. -/
  | value (outer : List Container) (mayClose : Bool)
  /-- Before the key of an object's member; an object that has just been opened may end instead. -/
  | key (outer : List Container) (members : List (Option String × Json)) (mayClose : Bool)
  /-- Behind the key of an object's member. -/
  | colon (outer : List Container) (members : List (Option String × Json)) (key : Option String)
  /-- Behind an item of the innermost container. -/
  | behind (outer : List Container)
  /-- Behind the whole value. -/
  | finished (value : Json)

/-- Puts a complete value where it belongs. -/
def place (value : Json) : List Container → Position
  | [] => .finished value
  | .list items :: outer => .behind (.list (value :: items) :: outer)
  | .object members key :: outer => .behind (.object ((key, value) :: members) key :: outer)

/-- Reads one token. -/
def readToken : Position → Token → Option Position
  | .value outer _, .scalar value => some (place value outer)
  | .value outer _, .openList => some (.value (.list [] :: outer) true)
  | .value outer _, .openObject => some (.key outer [] true)
  | .value (.list items :: outer) true, .closeList => some (place (.list items.reverse) outer)
  | .key outer members _, .scalar (.text key) => some (.colon outer members key)
  | .key outer members true, .closeObject => some (place (.object members.reverse) outer)
  | .colon outer members key, .colon => some (.value (.object members key :: outer) false)
  | .behind (.list items :: outer), .comma => some (.value (.list items :: outer) false)
  | .behind (.list items :: outer), .closeList => some (place (.list items.reverse) outer)
  | .behind (.object members _ :: outer), .comma => some (.key outer members false)
  | .behind (.object members _ :: outer), .closeObject =>
    some (place (.object members.reverse) outer)
  | _, _ => none

/-- The value that a text stands for; the whole text has to be one value. -/
def read? (text : String) : Option Json := do
  match ← (← tokens? text).foldlM readToken (.value [] false) with
  | .finished value => return value
  | _ => none

end MessageProxy.Json
