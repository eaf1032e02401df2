import MessageProxy.Proofs.Endpoint.Bounds
import MessageProxy.Proofs.Remote.Directory

/-!
How far into its buffer an endpoint writes and looks.

Setting the buffer up does not compare the region that the allocator hands out with the size that
the firmware asked for. The bounds hold for every allocator that hands out what it was asked for;
with one that hands out less, a listing is read past the end of the region.
-/

namespace MessageProxy

/-- Words that are written over the first of other words. -/
theorem Memory.store_ofWords (memory : Memory) (address : UInt64) {front words : List UInt32}
    (hlength : front.length ≤ words.length) :
    (memory.store address (Bytes.ofWords words)).store address (Bytes.ofWords front) =
      memory.store address (Bytes.ofWords (front ++ words.drop front.length)) := by
  have hblock (old : Bytes) :
      Bytes.overwrite (Bytes.ofWords front) (Bytes.overwrite (Bytes.ofWords words) old) =
        Bytes.overwrite (Bytes.ofWords (front ++ words.drop front.length)) old := by
    unfold Bytes.overwrite
    have hfront : 4 * front.length ≤ (Bytes.ofWords words).length := by
      rw [Bytes.length_ofWords]
      omega
    have hwords : 4 * front.length + 4 * (words.length - front.length) = 4 * words.length := by
      omega
    simp only [Bytes.length_ofWords, List.length_append, List.length_drop, hwords,
      List.drop_append_of_le_length hfront, Bytes.drop_ofWords, Bytes.ofWords_append,
      List.append_assoc]
  unfold store replace
  simp only [if_true, hblock]
  congr
  funext other
  by_cases hother : other = address
  · simp only [if_pos hother]
  · simp only [if_neg hother]

/-- Firmware that answers every call with one value and leaves the memory alone, with pages from the
heap. -/
def Platform.answering (value : UInt64) : Platform Heap where
  call _ memory heap := (.success value, memory, heap)
  allocate := Heap.allocate
  release := Heap.release

/-- An allocator that takes one page, however many are asked for. -/
def Heap.allocateOne (_ : UInt64) (heap : Heap) : Option Region × Heap :=
  allocate 1 heap

/-- A remote that asks for four bytes more than a page, and says of every page of the directory that
it has 1023 ids. -/
def Remote.Setup.oversized : Setup Unit :=
  { size := 4100, listedCount := some 1023 }

theorem Remote.Grants.asked {κ α : Type} {allocate : UInt64 → α → Option Region × α}
    (hgrants : Grants allocate) (setup : Setup κ) (release : Region → α → α) :
    (platform setup allocate release).GrantsAsked := by
  intro pages state region hgranted
  exact Nat.le_of_eq (hgrants pages state.2 region hgranted).1.symm

namespace Endpoint

/-- Whatever the firmware says and the allocator hands out, traffic writes inside the region only,
and no outcome depends on any byte behind the reach of the operations. With an allocator that hands
out what it was asked for, no buffer that is ever set up has a region that ends before the size, so
no operation reaches beyond it. -/
theorem accesses_bounded {σ : Type} (platform : Platform σ) (buffer : SharedBuffer)
    {operations : List Operation}
    (htraffic : ∀ operation ∈ operations, operation.isTraffic = true) :
    (∀ P, World.Spares platform buffer.region P → ∀ endpoint, Holding buffer P endpoint →
      Holding buffer P (afterAll platform endpoint operations)) ∧
    (∀ related limit, World.Overlooks platform related buffer.region limit →
      (∀ operation ∈ operations, operation.reach buffer ≤ limit) →
      ∀ first second, Beside buffer related limit first second →
        outcomes platform second operations = outcomes platform first operations ∧
          Beside buffer related limit (afterAll platform first operations)
            (afterAll platform second operations)) ∧
    (platform.GrantsAsked → ∀ endpoint : Endpoint σ, ComesAbout platform endpoint →
      endpoint.buffer = some buffer →
        buffer.size.toNat ≤ buffer.region.length.toNat ∧
          ∀ operation : Operation, operation.reach buffer ≤ buffer.region.length.toNat) := by
  refine ⟨?_, ?_, ?_⟩
  · intro P hspares endpoint hholding
    apply afterAll_of_keeps _ hholding
    intro operation hoperation
    exact keeps_perform (htraffic operation hoperation) (hspares.steady operation.Makes)
  · intro related limit hoverlooks hlimit first second hbeside
    apply outcomes_of_blind _ hbeside
    intro operation hoperation
    exact ignores_perform (htraffic operation hoperation) hoverlooks (hlimit operation hoperation)
  · intro hgrants endpoint hcomes hbuffer
    have hroom := hcomes.hasRoom hgrants hbuffer
    exact ⟨hroom, Operation.reach_le_length hroom⟩

/-- A listing and a message to firmware that only answers: no byte outside the region is written,
and what is there does not show. -/
theorem accesses_bounded_answering :
    let firmware := Platform.answering 4096
    let endpoint := after firmware { buffer := none, world := .fresh .fresh } .init
    let buffer : SharedBuffer := ⟨⟨0x1000, 2, 0x1000⟩, 4096⟩
    let operations := [Operation.channelIds 0, .send ⟨1⟩ 2 [3, 4] 4096]
    (∀ operation ∈ operations, operation.isTraffic = true) ∧ firmware.GrantsAsked ∧
      ComesAbout firmware endpoint ∧ endpoint.buffer = some buffer ∧
      Memory.AgreeOutside buffer.region endpoint.world.memory
        (afterAll firmware endpoint operations).world.memory ∧
      World.Overlooks firmware (· = ·) buffer.region buffer.region.length.toNat ∧
      ∀ second, Beside buffer (· = ·) buffer.region.length.toNat endpoint second →
        outcomes firmware second operations = outcomes firmware endpoint operations := by
  intro firmware endpoint buffer operations
  have htraffic : ∀ operation ∈ operations, operation.isTraffic = true :=
    List.forall_mem_cons.2 ⟨rfl, List.forall_mem_singleton.2 rfl⟩
  have hgrants : firmware.GrantsAsked :=
    fun pages heap region hgranted =>
      Nat.le_of_eq (Remote.grants_heap pages heap region hgranted).1.symm
  have hcomes : ComesAbout firmware endpoint := .after .init (.fresh _)
  have hbuffer : endpoint.buffer = some buffer := by decide
  have hspares : World.Spares firmware buffer.region fun world =>
      Memory.AgreeOutside buffer.region endpoint.world.memory world.memory :=
    World.spares_agreeOutside (fun _ _ _ _ _ _ => rfl) endpoint.world.memory
  have hoverlooks :
      World.Overlooks firmware (· = ·) buffer.region buffer.region.length.toNat :=
    fun _ _ _ hagree => ⟨rfl, hagree.memory, hagree.state⟩
  obtain ⟨hwrites, hreads, hroom⟩ := accesses_bounded firmware buffer htraffic
  obtain ⟨-, hreach⟩ := hroom hgrants endpoint hcomes hbuffer
  obtain ⟨-, hmemory⟩ := hwrites _ hspares endpoint ⟨hbuffer, fun _ _ _ => rfl⟩
  refine ⟨htraffic, hgrants, hcomes, hbuffer, hmemory, hoverlooks, ?_⟩
  intro second hbeside
  exact (hreads (· = ·) buffer.region.length.toNat hoverlooks
    (fun operation _ => hreach operation) endpoint second hbeside).1

/-- An allocator that hands out one page where two are asked for. The last id on the page is read
from behind the region: whatever stands there is taken for a channel. -/
theorem listed_beyond_region :
    let firmware := Remote.platform .oversized Heap.allocateOne Heap.release
    let endpoint := after firmware
      { buffer := none, world := .fresh (.initial .oversized (), .fresh) } .init
    let buffer : SharedBuffer := ⟨⟨0x1000, 1, 0x1000⟩, 4100⟩
    endpoint.buffer = some buffer ∧ buffer.region.length.toNat < buffer.size.toNat ∧
      ∀ last : UInt32,
        let behind := Bytes.ofWords (List.replicate 1024 0 ++ [last])
        let other := { endpoint with world := endpoint.world.stored buffer.region behind }
        Beside buffer (· = ·) buffer.region.length.toNat endpoint other ∧
          ((channelIds firmware 0).run other).1 =
            .ok ⟨List.replicate 1022 ⟨0⟩ ++ [⟨last⟩], 0, 1023⟩ := by
  intro firmware endpoint buffer
  have hbuffer : endpoint.buffer = some buffer := by decide
  refine ⟨hbuffer, by decide, ?_⟩
  intro last behind other
  have hother : other.buffer = some buffer := hbuffer
  constructor
  · refine ⟨hbuffer, hother, ?_, rfl⟩
    intro address offset hoffset
    change (endpoint.world.memory.store buffer.region.base behind).byte address offset = _
    rw [Memory.byte_store]
    by_cases hwritten : address = buffer.region.base ∧ offset < behind.length
    · have hbase := hwritten.1
      have hend : buffer.region.length.toNat = 4096 := by decide
      have hbelow := hoffset hbase
      have hcleared : endpoint.world.memory.byte buffer.region.base offset = 0 := rfl
      rw [hend] at hbelow
      rw [if_pos hwritten, hbase, hcleared]
      change (Bytes.ofWords (List.replicate 1024 0 ++ [last])).getD offset 0 = 0
      have hzeros : offset < (List.replicate (1024 * 4) (0 : UInt8)).length := by
        rw [List.length_replicate]
        exact hbelow
      rw [Bytes.ofWords_append, Bytes.ofWords_replicate_zero, List.getD_eq_getElem?_getD,
        List.getElem?_append_left hzeros, List.getElem?_replicate, if_pos hbelow]
      rfl
    · rw [if_neg hwritten]
  · -- the remote writes two words only, so the ids on the page are what was in memory before
    have hanswer : (other.world.answer firmware (.listChannels 0)).error = 0 := rfl
    have hlength : (List.replicate 1022 (0 : UInt32) ++ [last]).length = 1023 := by
      rw [List.length_append, List.length_replicate, List.length_singleton]
    have hmemory : (other.world.called firmware (.listChannels 0)).memory =
        endpoint.world.memory.store buffer.region.base
          (Bytes.ofWords (0 :: 1023 :: (List.replicate 1022 0 ++ [last]))) :=
      Memory.store_ofWords endpoint.world.memory buffer.region.base
        (show [(0 : UInt32), 1023].length ≤ (0 :: 0 :: (List.replicate 1022 0 ++ [last])).length
          from Nat.succ_le_succ (Nat.succ_le_succ (Nat.zero_le _)))
    rw [run_channelIds_of_shows hother (run_command_of_eq hanswer) (shows_store hmemory)
      (by rw [hlength]; rfl) (by rw [hlength]; decide), List.map_append, List.map_replicate]
    rfl

end Endpoint

end MessageProxy
