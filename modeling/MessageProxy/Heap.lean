import MessageProxy.Memory

/-!
An allocator that takes its pages from the heap, where physical and virtual addresses agree.
-/

namespace MessageProxy

/-- A heap: the address of the next allocation. -/
structure Heap where
  next : UInt64
deriving DecidableEq

namespace Heap

/-- A heap from which nothing has been taken. -/
def fresh : Heap :=
  ⟨pageSize⟩

/-- The longest run of pages that has a layout: the largest signed length, rounded down. -/
def layoutLimit : Nat := 0x7FFFFFFFFFFFF000

/-- The length from which on there is no room. -/
def room : Nat := 0x1000000000000

/-- The length of `count` pages, if that many have a layout. -/
def layout? (count : UInt64) : Option Nat :=
  let length := count.toNat * pageSize.toNat
  if length ≤ layoutLimit then some length else none

/-- Takes `count` pages; no page at all cannot be taken. -/
def allocate (count : UInt64) (heap : Heap) : Option Region × Heap :=
  if count = 0 then (none, heap)
  else match layout? count with
    | none => (none, heap)
    | some length =>
      if length < room then
        let region : Region := { address := heap.next, pages := count }
        (some region, ⟨heap.next + region.length⟩)
      else (none, heap)

/-- Gives pages back. -/
def release (_ : Region) (heap : Heap) : Heap :=
  heap

end Heap

end MessageProxy
