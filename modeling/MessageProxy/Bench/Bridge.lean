import MessageProxy.Call
import MessageProxy.Memory

/-!
A bridge between clients and a remote.

The bridge answers some calls itself, as it was told to, and lets only addresses that an allocator
has handed out be registered. All other calls reach the remote. The remote does not translate
addresses, so the bridge tells it where memory is mapped instead of its physical address; when
several regions have had one physical address, the latest counts.
-/

namespace MessageProxy.Bench

/-- Calls that the bridge answers itself: some of those to one function, counted from zero. -/
structure Interception where
  extension : UInt64
  function : UInt64
  first : Nat
  last : Nat
  answer : Return
  /-- What is written to the registered memory first. -/
  written : Bytes := []

/-- Whether the bridge answers a call, before which `earlier` went to the same function. -/
def Interception.catches (interception : Interception) (call : Call) (earlier : Nat) : Bool :=
  call.extension = interception.extension && call.function = interception.function &&
    interception.first ≤ earlier && earlier ≤ interception.last

/-- Where the region is mapped that got a physical address last, if one did. -/
def mapped? (regions : List Region) (address : UInt64) : Option UInt64 :=
  (regions.find? fun region => region.address = address).map Region.base

/-- The physical address of the region that is mapped at `base`; another address stays. -/
def physical (regions : List Region) (base : UInt64) : UInt64 :=
  ((regions.find? fun region => region.base = base).map Region.address).getD base

/-- A call as the remote gets it; a call that registers memory which no allocator has handed out
does not get there. -/
def passed? (regions : List Region) (call : Call) : Option Call :=
  if call.setsMemory then
    match call.arguments with
    | [] => none
    | low :: rest =>
      if low = Call.noAddress ∧ rest.head? = some Call.noAddress then some call
      else (mapped? regions low).map fun base => { call with arguments := base :: rest }
  else some call

/-- A call that the remote got, as it was made. -/
def made (regions : List Region) (call : Call) : Call :=
  if call.setsMemory then
    match call.arguments with
    | [] => call
    | low :: rest => { call with arguments := physical regions low :: rest }
  else call

/-- The event that a call registers and its entry argument; a call without an entry argument
registers nothing, and further arguments mean nothing. -/
def registration? (call : Call) : Option (UInt32 × UInt64) :=
  if call.extension = Extension.softwareEvents ∧ call.function = EventFunction.register then
    match call.arguments with
    | event :: _ :: argument :: _ => some (event.toUInt32, argument)
    | _ => none
  else none

end MessageProxy.Bench
