import MessageProxy.Heap

/-!
Pages from any heap. What is checked before a heap is asked for memory does not depend on how much
of it there is, so it is stated over an arbitrary source of blocks; `Heap.allocate` takes its pages
from one of them.

Whatever the source, a run of pages that is handed out has a length of less than half the range of a
machine word.
-/

namespace MessageProxy

/-- A length that does not leave the range of a machine word is the product of its factors. -/
theorem Region.toNat_length {region : Region}
    (hpages : region.pages.toNat * pageSize.toNat < UInt64.size) :
    region.length.toNat = region.pages.toNat * pageSize.toNat := by
  rw [length, UInt64.toNat_mul]
  exact Nat.mod_eq_of_lt hpages

namespace Heap

variable {η : Type} {source : Nat → η → Option UInt64 × η} {count : UInt64} {heap : η}

/-- Takes `count` pages from a source of blocks. The source hands out the address of a block of the
length that it is asked for, or refuses; it is not asked for a length without a layout. -/
def allocateFrom (source : Nat → η → Option UInt64 × η) (count : UInt64) (heap : η) :
    Option Region × η :=
  if count = 0 then (none, heap)
  else match layout? count with
    | none => (none, heap)
    | some length =>
      let (address, heap) := source length heap
      (address.map fun address => { address, pages := count }, heap)

/-- The next block of a heap, if it has room for one of that length. -/
def block (length : Nat) (heap : Heap) : Option UInt64 × Heap :=
  if length < room then (some heap.next, ⟨heap.next + length.toUInt64⟩) else (none, heap)

/-- The largest signed length, rounded down to whole pages. -/
theorem layoutLimit_eq : layoutLimit = 0x7FFFFFFFFFFFFFFF / 4096 * 4096 :=
  rfl

theorem layout?_of_le (hcount : count.toNat * pageSize.toNat ≤ layoutLimit) :
    layout? count = some (count.toNat * pageSize.toNat) :=
  if_pos hcount

theorem layout?_of_lt (hcount : layoutLimit < count.toNat * pageSize.toNat) :
    layout? count = none :=
  if_neg (Nat.not_le.2 hcount)

theorem allocate_eq_allocateFrom : allocate = allocateFrom block := by
  funext count heap
  unfold allocate allocateFrom
  by_cases hzero : count = 0
  · rw [if_pos hzero, if_pos hzero]
  rw [if_neg hzero, if_neg hzero]
  by_cases hcount : count.toNat * pageSize.toNat ≤ layoutLimit
  · rw [layout?_of_le hcount]
    dsimp only [block]
    by_cases hroom : count.toNat * pageSize.toNat < room
    · have hlength : (count.toNat * pageSize.toNat).toUInt64 = count * pageSize := by
        rw [Nat.toUInt64, UInt64.ofNat_mul, UInt64.ofNat_toNat, UInt64.ofNat_toNat]
      rw [if_pos hroom, if_pos hroom, hlength]
      rfl
    · rw [if_neg hroom, if_neg hroom]
      rfl
  · rw [layout?_of_lt (Nat.not_le.1 hcount)]

/-- No page, and as many as have no layout, are refused before the source is asked. -/
theorem allocateFrom_of_lt (hcount : count = 0 ∨ layoutLimit < count.toNat * pageSize.toNat) :
    allocateFrom source count heap = (none, heap) := by
  unfold allocateFrom
  by_cases hzero : count = 0
  · rw [if_pos hzero]
  · rw [if_neg hzero, layout?_of_lt (hcount.resolve_left hzero)]

/-- Any other number of pages is the source's to refuse. -/
theorem allocateFrom_of_le (hzero : count ≠ 0)
    (hcount : count.toNat * pageSize.toNat ≤ layoutLimit) :
    allocateFrom source count heap =
      let (address, left) := source (count.toNat * pageSize.toNat) heap
      (address.map fun address => { address, pages := count }, left) := by
  rw [allocateFrom, if_neg hzero, layout?_of_le hcount]

/-- A region that is handed out has the pages that were asked for, and they have a layout. -/
theorem pages_of_allocateFrom {region : Region}
    (hgranted : (allocateFrom source count heap).1 = some region) :
    region.pages = count ∧ region.base = region.address ∧
      count.toNat * pageSize.toNat ≤ layoutLimit := by
  by_cases hrefused : count = 0 ∨ layoutLimit < count.toNat * pageSize.toNat
  · rw [allocateFrom_of_lt hrefused] at hgranted
    cases hgranted
  · obtain ⟨hzero, hcount⟩ := not_or.1 hrefused
    rw [allocateFrom_of_le hzero (Nat.not_lt.1 hcount)] at hgranted
    obtain ⟨address, -, rfl⟩ := Option.map_eq_some_iff.1 hgranted
    exact ⟨rfl, rfl, Nat.not_lt.1 hcount⟩

/-- The length of a region that is handed out does not leave the range of a machine word. -/
theorem toNat_length_of_allocateFrom {region : Region}
    (hgranted : (allocateFrom source count heap).1 = some region) :
    count.toNat * pageSize.toNat < UInt64.size ∧
      region.length.toNat = count.toNat * pageSize.toNat := by
  obtain ⟨hpages, -, hcount⟩ := pages_of_allocateFrom hgranted
  have hrange : count.toNat * pageSize.toNat < UInt64.size :=
    Nat.lt_of_le_of_lt hcount (by decide)
  subst hpages
  exact ⟨hrange, Region.toNat_length hrange⟩

end Heap

end MessageProxy
