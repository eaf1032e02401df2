import MessageProxy.Bytes

/-!
Memory as far as it is shared: blocks of pages, each named by the address at which its first byte
is mapped. All traffic starts at the beginning of a block, so a block is kept as the bytes written
to its start, and whatever lies behind them is zero.
-/

namespace MessageProxy

/-- The size of a page in bytes. -/
def pageSize : UInt64 := 4096

/-- A run of pages that an allocator has handed out. -/
structure Region where
  /-- The physical address of the first byte, by which the firmware knows the region. -/
  address : UInt64
  pages : UInt64
  /-- The address at which the first byte is mapped; without translation it is the physical one. -/
  base : UInt64 := address
deriving DecidableEq

namespace Region

/-- The length in bytes. -/
def length (region : Region) : UInt64 :=
  region.pages * pageSize

/-- Whether the region has no page. -/
def isEmpty (region : Region) : Bool :=
  region.pages = 0

end Region

/-- The contents of every block. -/
structure Memory where
  block : UInt64 → Bytes

namespace Memory

/-- Memory that holds zeros only. -/
def zeroed : Memory :=
  ⟨fun _ => []⟩

/-- The first `count` bytes of the block at `address`. -/
def fetch (memory : Memory) (address : UInt64) (count : Nat) : Bytes :=
  Bytes.zeroExtend count (memory.block address)

/-- Replaces the block at `address`. -/
def replace (memory : Memory) (address : UInt64) (contents : Bytes) : Memory :=
  ⟨fun other => if other = address then contents else memory.block other⟩

/-- Writes `bytes` to the start of the block at `address`. -/
def store (memory : Memory) (address : UInt64) (bytes : Bytes) : Memory :=
  memory.replace address (Bytes.overwrite bytes (memory.block address))

/-- Fills the block at `address` with zeros. -/
def clear (memory : Memory) (address : UInt64) : Memory :=
  memory.replace address []

theorem length_fetch (memory : Memory) (address : UInt64) (count : Nat) :
    (memory.fetch address count).length = count := by
  simp only [fetch, Bytes.zeroExtend, List.length_append, List.length_replicate, List.length_take]
  omega

theorem fetch_clear (memory : Memory) (address : UInt64) (count : Nat) :
    (memory.clear address).fetch address count = List.replicate count 0 := by
  simp [clear, replace, fetch, Bytes.zeroExtend]

/-- What was written to the start of a block is read from there. -/
theorem fetch_store (memory : Memory) (address : UInt64) (bytes : Bytes) :
    (memory.store address bytes).fetch address bytes.length = bytes := by
  simp [store, replace, fetch, Bytes.zeroExtend, Bytes.overwrite]

/-- As much of what was written as is asked for is read back. -/
theorem fetch_store_of_le (memory : Memory) (address : UInt64) {bytes : Bytes} {count : Nat}
    (hcount : count ≤ bytes.length) :
    (memory.store address bytes).fetch address count = bytes.take count := by
  simp [store, replace, fetch, Bytes.zeroExtend, Bytes.overwrite, List.take_append_of_le_length,
    hcount]

theorem fetch_store_of_ne {address other : UInt64} (h : other ≠ address) (memory : Memory)
    (bytes : Bytes) (count : Nat) :
    (memory.store address bytes).fetch other count = memory.fetch other count := by
  simp [store, replace, fetch, h]

end Memory

end MessageProxy
