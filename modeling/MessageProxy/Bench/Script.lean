/-!
Scripts: answers that are prepared before a run and drawn one at a time.

A queue gives its entries in turn and then keeps giving the last. A choice draws from the script
that a selector names. Where there is nothing to draw, nothing is drawn.
-/

namespace MessageProxy.Bench

/-- Prepared answers. -/
inductive Script (α : Type) where
  | leaf (answer : α)
  | queue (entries : List (Script α))
  | choice (entries : List (String × Script α))

namespace Script

variable {α : Type}

/-- A script with nothing to draw. -/
def nothing : Script α :=
  queue []

instance : Inhabited (Script α) :=
  ⟨nothing⟩

mutual

/-- The next answer, and the script that is left. -/
def draw (selector : String) : Script α → Option α × Script α
  | leaf answer => (some answer, leaf answer)
  | queue entries =>
    let (answer, entries) := drawFirst selector entries
    (answer, queue entries)
  | choice entries =>
    let (answer, entries) := drawNamed selector entries
    (answer, choice entries)

/-- Draws from the first entry, which stays only if it is the last. -/
def drawFirst (selector : String) : List (Script α) → Option α × List (Script α)
  | [] => (none, [])
  | entry :: rest =>
    let (answer, entry) := draw selector entry
    (answer, if rest.isEmpty then [entry] else rest)

/-- Draws from the entry with the selector's name. -/
def drawNamed (selector : String) :
    List (String × Script α) → Option α × List (String × Script α)
  | [] => (none, [])
  | (name, entry) :: rest =>
    if name = selector then
      let (answer, entry) := draw selector entry
      (answer, (name, entry) :: rest)
    else
      let (answer, rest) := drawNamed selector rest
      (answer, (name, entry) :: rest)

end

end Script

end MessageProxy.Bench
