import MessageProxy.Json.Basic

/-!
Reading characters into tokens, one character at a time.

The scanner is a machine with few states. A word or a number ends where a character cannot belong
to it, and that character then starts the next token.
-/

namespace MessageProxy.Json

/-- The smallest parts of a text. -/
inductive Token where
  | openList
  | closeList
  | openObject
  | closeObject
  | comma
  | colon
  /-- A value that is neither a list nor an object. -/
  | scalar (value : Json)

/-- The characters of a text read so far, the latest first. -/
structure Scribe where
  characters : List Char
  /-- The first half of a surrogate pair whose second half has to follow. -/
  half : Option Nat
  /-- Whether a half of a surrogate pair stood alone. -/
  broken : Bool

namespace Scribe

def blank : Scribe :=
  { characters := [], half := none, broken := false }

/-- Adds a character. -/
def push (scribe : Scribe) (c : Char) : Scribe :=
  { characters := c :: scribe.characters
    half := none
    broken := scribe.broken || scribe.half.isSome }

/-- Adds the 16-bit unit of an escape. -/
def pushUnit (scribe : Scribe) (unit : Nat) : Scribe :=
  if 0xD800 ≤ unit ∧ unit ≤ 0xDBFF then
    { scribe with half := some unit, broken := scribe.broken || scribe.half.isSome }
  else if 0xDC00 ≤ unit ∧ unit ≤ 0xDFFF then
    match scribe.half with
    | some first =>
      { scribe with
        characters := Char.ofNat (0x10000 + (first - 0xD800) * 0x400 + (unit - 0xDC00)) ::
          scribe.characters
        half := none }
    | none => { scribe with broken := true }
  else scribe.push (Char.ofNat unit)

/-- The text that was read. -/
def result (scribe : Scribe) : Option String :=
  if scribe.broken || scribe.half.isSome then none
  else some (String.ofList scribe.characters.reverse)

end Scribe

/-- What the scanner is reading. -/
inductive Reading where
  | between
  /-- A word; its letters, the latest first. -/
  | word (letters : List Char)
  /-- A number; its characters, the latest first. -/
  | number (characters : List Char)
  | text (scribe : Scribe)
  /-- The character behind a backslash. -/
  | escape (scribe : Scribe)
  /-- A numeric escape with `missing` digits to come. -/
  | unit (scribe : Scribe) (missing value : Nat)

/-- Whether a character may stand between tokens. -/
def isBlank (c : Char) : Bool :=
  c = ' ' || c = '\t' || c = '\n' || c = '\r'

/-- Whether a character belongs to a number, wherever in it. -/
def isNumeric (c : Char) : Bool :=
  c.isDigit || c = '-' || c = '+' || c = '.' || c = 'e' || c = 'E'

/-- The value of a hexadecimal digit. -/
def hexValue? (c : Char) : Option Nat :=
  if c.isDigit then some (c.toNat - 48)
  else if 'a' ≤ c ∧ c ≤ 'f' then some (c.toNat - 87)
  else if 'A' ≤ c ∧ c ≤ 'F' then some (c.toNat - 55)
  else none

/-- Whether the characters are one digit or more. -/
def isDigits (characters : List Char) : Bool :=
  !characters.isEmpty && characters.all Char.isDigit

/-- Whether the characters are an exponent. -/
def isExponent : List Char → Bool
  | mark :: '+' :: digits | mark :: '-' :: digits => (mark = 'e' || mark = 'E') && isDigits digits
  | mark :: digits => (mark = 'e' || mark = 'E') && isDigits digits
  | [] => false

/-- Whether the characters are a fraction, an exponent or both. -/
def isTail : List Char → Bool
  | '.' :: rest =>
    !(rest.takeWhile Char.isDigit).isEmpty &&
      (rest.all Char.isDigit || isExponent (rest.dropWhile Char.isDigit))
  | rest => isExponent rest

/-- The number that digits and a tail behind them stand for. -/
def unsigned? (negative : Bool) (characters : List Char) : Option Numeral :=
  let digits := characters.takeWhile Char.isDigit
  let tail := characters.dropWhile Char.isDigit
  if digits.isEmpty || (digits.head? = some '0' && digits.length > 1) then none
  else if tail.isEmpty then
    some (.whole negative (digits.foldl (fun value c => 10 * value + (c.toNat - 48)) 0))
  else if isTail tail then some .decimal
  else none

/-- The number that the characters stand for. -/
def numeral? : List Char → Option Numeral
  | '-' :: rest => unsigned? true rest
  | characters => unsigned? false characters

/-- The value that a word stands for. -/
def keyword? (letters : List Char) : Option Json :=
  if letters = ['n', 'u', 'l', 'l'] then some .null
  else if letters = ['t', 'r', 'u', 'e'] then some (.bool true)
  else if letters = ['f', 'a', 'l', 's', 'e'] then some (.bool false)
  else none

/-- What the scanner does with a character that starts a token. -/
def start (c : Char) : Option (List Token × Reading) :=
  if isBlank c then some ([], .between)
  else if c = '[' then some ([.openList], .between)
  else if c = ']' then some ([.closeList], .between)
  else if c = '\x7b' then some ([.openObject], .between)
  else if c = '\x7d' then some ([.closeObject], .between)
  else if c = ',' then some ([.comma], .between)
  else if c = ':' then some ([.colon], .between)
  else if c = '"' then some ([], .text .blank)
  else if c.isLower then some ([], .word [c])
  else if c = '-' || c.isDigit then some ([], .number [c])
  else none

/-- The tokens that are complete when nothing more belongs to what is being read. -/
def finish : Reading → Option (List Token)
  | .between => some []
  | .word letters => (keyword? letters.reverse).map fun value => [.scalar value]
  | .number characters => (numeral? characters.reverse).map fun value => [.scalar (.number value)]
  | .text _ | .escape _ | .unit .. => none

/-- The character that a one-letter escape stands for. -/
def escaped? (c : Char) : Option Char :=
  if c = '"' || c = '\\' || c = '/' then some c
  else if c = 'b' then some '\x08'
  else if c = 'f' then some '\x0c'
  else if c = 'n' then some '\n'
  else if c = 'r' then some '\r'
  else if c = 't' then some '\t'
  else none

/-- Ends what is being read and starts the next token. -/
def restart (reading : Reading) (c : Char) : Option (List Token × Reading) := do
  let complete ← finish reading
  let (tokens, next) ← start c
  return (complete ++ tokens, next)

/-- Reads one character: the tokens it completes and what is read next. -/
def scanChar (reading : Reading) (c : Char) : Option (List Token × Reading) :=
  match reading with
  | .between => start c
  | .word letters => if c.isLower then some ([], .word (c :: letters)) else restart reading c
  | .number characters =>
    if isNumeric c then some ([], .number (c :: characters)) else restart reading c
  | .text scribe =>
    if c = '"' then some ([.scalar (.text scribe.result)], .between)
    else if c = '\\' then some ([], .escape scribe)
    else if c.toNat < 0x20 then none
    else some ([], .text (scribe.push c))
  | .escape scribe =>
    if c = 'u' then some ([], .unit scribe 4 0)
    else (escaped? c).map fun plain => ([], .text (scribe.push plain))
  | .unit scribe missing value => do
    let digit ← hexValue? c
    let value := 16 * value + digit
    if missing ≤ 1 then return ([], .text (scribe.pushUnit value))
    else return ([], .unit scribe (missing - 1) value)

/-- Reads one character after others, whose tokens are kept with the latest first. -/
def scanStep (progress : List Token × Reading) (c : Char) : Option (List Token × Reading) := do
  let (tokens, reading) ← scanChar progress.2 c
  return (tokens.reverse ++ progress.1, reading)

/-- The tokens of a text. -/
def tokens? (text : String) : Option (List Token) := do
  let (tokens, reading) ← text.toList.foldlM scanStep ([], .between)
  let last ← finish reading
  return (last.reverse ++ tokens).reverse

end MessageProxy.Json
