import MessageProxy.Memory

/-!
A page allocator with a mind of its own: it may refuse, and it may hand out less than was asked.
-/

namespace MessageProxy.Bench

/-- How an allocator behaves. -/
structure PoolSetup where
  /-- The address of the first run of pages. -/
  start : UInt64
  /-- The most pages that are granted at once. -/
  maxPages : Option UInt64 := none
  /-- The attempts that are refused, counted from zero. -/
  refused : List Nat := []
  /-- The most pages that a granted region says it has. -/
  stated : Option UInt64 := none

/-- What an allocator remembers. -/
structure Pool where
  /-- The page counts that were asked for, the latest first. -/
  asked : List UInt64 := []
  /-- How many runs were granted. -/
  granted : Nat := 0
  /-- The regions that were given back, the latest first. -/
  freed : List Region := []

namespace Pool

/-- The distance between the addresses of two runs. -/
def stride : UInt64 := 0x100000

/-- Whether an allocator grants its next request, whose pages take up `backing` pages of memory;
memory of 2^48 bytes or more is not to be had. -/
def grants (setup : PoolSetup) (pool : Pool) (pages backing : UInt64) : Bool :=
  !setup.refused.contains pool.asked.length &&
    (match setup.maxPages with
      | some most => pages ≤ most
      | none => true) &&
    backing.toNat * pageSize.toNat < 0x1000000000000

/-- Asks for pages, which are mapped at `base` if they are granted. -/
def allocate (setup : PoolSetup) (pages backing base : UInt64) (pool : Pool) :
    Option Region × Pool :=
  let asked := pages :: pool.asked
  if pool.grants setup pages backing then
    let region : Region :=
      { address := setup.start + pool.granted.toUInt64 * stride
        pages := match setup.stated with
          | some most => min pages most
          | none => pages
        base }
    (some region, { pool with asked, granted := pool.granted + 1 })
  else (none, { pool with asked })

/-- Gives a region back. -/
def release (region : Region) (pool : Pool) : Pool :=
  { pool with freed := region :: pool.freed }

end Pool

end MessageProxy.Bench
