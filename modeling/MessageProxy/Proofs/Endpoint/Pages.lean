import MessageProxy.Proofs.Endpoint.Untrusted

/-!
The lengths and offsets that come of the size that the firmware asked for.

The size may be any machine word. Some of the products formed from it are checked and others rely on
a check made before: the pages of a buffer have a layout, so their length is exact, and a word is
read only where the size, or a count of at most half a machine word, bounds its index. With pages
from a heap nothing wraps around, every region is longer than the size, and so the size alone limits
what goes through a buffer.
-/

namespace MessageProxy.Endpoint

variable {σ : Type} {platform : Platform σ} {source : Nat → σ → Option UInt64 × σ}
  {endpoint : Endpoint σ} {buffer : SharedBuffer}

/-- What goes through a buffer is limited by the size that the firmware asked for, and by nothing
else. The length of the region has no part in what comes of a copy or of the operations that copy,
and a word is read exactly if it ends within the size. -/
structure LimitedBySize (platform : Platform σ) (buffer : SharedBuffer) (endpoint : Endpoint σ) :
    Prop where
  write : ∀ (bytes : Bytes) (writing : Endpoint σ), bytes.length ≤ buffer.size.toNat →
    (buffer.write bytes : Action σ Unit).run writing =
      (.ok (), { writing with world := writing.world.stored buffer.region bytes })
  read : ∀ (count : Nat) (reading : Endpoint σ), count ≤ buffer.size.toNat →
    (buffer.read count : Action σ Bytes).run reading =
      (.ok (reading.world.memory.fetch buffer.region.base count), reading)
  /-- The firmware finds the whole request in memory, and its answer decides what is taken. -/
  send : ∀ channel message request capacity,
    let result := (send platform channel message request capacity).run endpoint
    let staged := endpoint.world.stored buffer.region request
    let call := Call.send channel message request.length
    if request.length < buffer.size.toNat then
      ∃ world, result =
          (taken buffer capacity (staged.answer platform call) (staged.called platform call).memory,
            { endpoint with world }) ∧
        (staged.called platform call).Matches world
    else result = (.error .invalidParameter, endpoint)
  post : ∀ channel message request,
    (post platform channel message request).run endpoint =
      let staged := endpoint.world.stored buffer.region request
      let call := Call.post channel message request.length
      if request.length < buffer.size.toNat then
        (((staged.answer platform call).toExcept.map fun _ => ()).mapError .ofStatus,
          { endpoint with world := staged.called platform call })
      else (.error .invalidParameter, endpoint)
  writeAttributes : ∀ channel first values,
    (writeAttributes platform channel first values).run endpoint =
      let staged := endpoint.world.stored buffer.region (Bytes.ofWords values)
      let call := Call.writeAttributes channel first values.length
      if values ≠ [] ∧ 4 * values.length ≤ buffer.size.toNat then
        (((staged.answer platform call).toExcept.map fun _ => ()).mapError .ofStatus,
          { endpoint with world := staged.called platform call })
      else (.error .invalidParameter, endpoint)
  readWord : ∀ (index : UInt32) (reading : Endpoint σ),
    (buffer.readWord index : Action σ UInt32).run reading =
      if 4 * index.toNat + 4 ≤ buffer.size.toNat then
        (.ok (reading.world.memory.word buffer.region.base index.toNat), reading)
      else (.error .deviceError, reading)
  readWords : ∀ (first count : UInt32) (reading : Endpoint σ), count ≠ 0 →
    (buffer.readWords first count : Action σ (List UInt32)).run reading =
      if 4 * (first.toNat + count.toNat) ≤ buffer.size.toNat then
        (.ok ((List.range' first.toNat count.toNat).map
          (reading.world.memory.word buffer.region.base)), reading)
      else (.error .deviceError, reading)

theorem LimitedBySize.of_hasRoom (platform : Platform σ) (hbuffer : endpoint.buffer = some buffer)
    (hroom : buffer.HasRoom) : LimitedBySize platform buffer endpoint where
  write bytes writing hbytes := by
    have hcopy : ¬bytes.length > buffer.region.length.toNat :=
      Nat.not_lt.2 (Nat.le_trans hbytes hroom)
    rw [run_write, if_neg hcopy]
  read count reading hcount := by
    have hcopy : ¬count > buffer.region.length.toNat := Nat.not_lt.2 (Nat.le_trans hcount hroom)
    rw [run_read, if_neg hcopy]
  send channel message request capacity := by
    intro result staged call
    by_cases hrequest : request.length < buffer.size.toNat
    · rw [if_pos hrequest]
      exact run_send_taken hbuffer hroom hrequest channel message capacity
    · rw [if_neg hrequest]
      exact run_send_of_le hbuffer (Nat.not_lt.1 hrequest) channel message capacity
  post channel message request := by
    dsimp only
    by_cases hrequest : request.length < buffer.size.toNat
    · rw [if_pos hrequest]
      exact run_post_of_lt hbuffer hrequest (Nat.le_trans (Nat.le_of_lt hrequest) hroom) channel
        message
    · rw [if_neg hrequest]
      exact run_post_of_le hbuffer (Nat.not_lt.1 hrequest) channel message
  writeAttributes channel first values := by
    dsimp only
    by_cases hrefused : values = [] ∨ buffer.size.toNat < 4 * values.length
    · have hchecks : ¬(values ≠ [] ∧ 4 * values.length ≤ buffer.size.toNat) := by
        rintro ⟨hvalues, hsize⟩
        exact hrefused.elim hvalues (Nat.not_lt.2 hsize)
      rw [if_neg hchecks]
      exact run_writeAttributes_of_lt hbuffer hrefused channel first
    · obtain ⟨hvalues, hlarge⟩ := not_or.1 hrefused
      have hsize := Nat.not_lt.1 hlarge
      rw [if_pos ⟨hvalues, hsize⟩, run_writeAttributes_of_le hbuffer hvalues hsize
        (Nat.le_trans hsize hroom), run_lift_supervisor, run_command]
  readWord index reading := run_readWord_word buffer index reading
  readWords first _ reading hcount := run_readWords_words buffer first hcount reading

/-- Whatever size the firmware reports, and whatever the heap has room for. The pages for a size are
counted without overflow, and have room for more than the size. The heap is never asked for zero
pages, for a length that no machine word holds or for one without a layout, and the length of every
region that is granted is exact. Hence every buffer that is ever set up is longer than its size, and
the size alone limits what goes through it. No word that can be asked for ends at an offset that
wraps around. -/
theorem pages_suffice (hheap : platform.allocate = Heap.allocateFrom source) :
    (∀ size : UInt64,
      size.toNat / 4096 + 1 < UInt64.size ∧ (pagesFor size).toNat = size.toNat / 4096 + 1 ∧
        size.toNat < (size.toNat / 4096 + 1) * 4096) ∧
    (∀ count state,
      (count = 0 ∨ UInt64.size ≤ count.toNat * 4096 ∨
          0x7FFFFFFFFFFFFFFF / 4096 * 4096 < count.toNat * 4096 →
        platform.allocate count state = (none, state)) ∧
      ∀ region, (platform.allocate count state).1 = some region →
        region.pages = count ∧ region.pages.toNat * 4096 < UInt64.size ∧
          region.length.toNat = region.pages.toNat * 4096) ∧
    (∀ endpoint buffer, ComesAbout platform endpoint → endpoint.buffer = some buffer →
      buffer.size < buffer.region.length ∧ LimitedBySize platform buffer endpoint) ∧
    ∀ first count : UInt32, ∀ index < first.toNat + count.toNat,
      4 * index + 4 < UInt64.size ∧
        (SharedBuffer.wordEnd index.toUInt64).toNat = 4 * index + 4 := by
  have hrange : UInt64.size = 0x10000000000000000 := rfl
  refine ⟨?_, ?_, ?_, ?_⟩
  · intro size
    have hbound := size.toNat_lt
    refine ⟨by omega, toNat_pagesFor size, ?_⟩
    have hroom := lt_toNat_pagesFor size
    rwa [toNat_pagesFor] at hroom
  · intro count state
    rw [hheap]
    constructor
    · intro hcount
      apply Heap.allocateFrom_of_lt
      -- a length that no machine word holds is beyond the limit of layouts, too
      obtain hzero | hoverflow | hlayout := hcount
      · exact .inl hzero
      · exact .inr (Nat.lt_of_lt_of_le (by decide : Heap.layoutLimit < UInt64.size) hoverflow)
      · rw [← Heap.layoutLimit_eq] at hlayout
        exact .inr hlayout
    · intro region hgranted
      obtain ⟨hpages, -, -⟩ := Heap.pages_of_allocateFrom hgranted
      obtain ⟨hproduct, hlength⟩ := Heap.toNat_length_of_allocateFrom hgranted
      subst hpages
      exact ⟨rfl, hproduct, hlength⟩
  · intro endpoint buffer hcomes hbuffer
    have hlonger := hcomes.size_lt_length (Platform.grantsAsked_of_heap hheap) hbuffer
    exact ⟨UInt64.lt_iff_toNat_lt.2 hlonger,
      LimitedBySize.of_hasRoom platform hbuffer (Nat.le_of_lt hlonger)⟩
  · intro first count index hindex
    have hfirst := first.toNat_lt
    have hcount := count.toNat_lt
    have hword : index.toUInt64.toNat = index :=
      UInt64.toNat_ofNat_of_lt' (show index < 0x10000000000000000 by omega)
    rw [toNat_wordEnd (by omega), hword]
    omega

/-- The largest size that the heap has room for leaves one byte of the region over. A response may
be as long as the size; pages of which the length wraps around to zero are refused; and the last
word of the longest listing ends where it should. -/
theorem pages_suffice_largest :
    let firmware := Platform.leaving 0xFFFFFFFFEFFF (.success 0xFFFFFFFFEFFF) []
    let endpoint := after firmware { buffer := none, world := .fresh .fresh } .init
    let buffer : SharedBuffer := ⟨⟨0x1000, 0xFFFFFFFFF, 0x1000⟩, 0xFFFFFFFFEFFF⟩
    firmware.allocate = Heap.allocateFrom Heap.block ∧ ComesAbout firmware endpoint ∧
      endpoint.buffer = some buffer ∧ buffer.region.length = 0xFFFFFFFFF000 ∧
      buffer.size < buffer.region.length ∧
      (∀ reading : Endpoint Heap, (buffer.read 0xFFFFFFFFEFFF : Action Heap Bytes).run reading =
        (.ok (reading.world.memory.fetch 0x1000 0xFFFFFFFFEFFF), reading)) ∧
      firmware.allocate 0x10000000000000 .fresh = (none, .fresh) ∧
      (SharedBuffer.wordEnd 0x100000000).toNat = 4 * 0x100000000 + 4 := by
  intro firmware endpoint buffer
  have hheap : firmware.allocate = Heap.allocateFrom Heap.block := Heap.allocate_eq_allocateFrom
  have hcomes : ComesAbout firmware endpoint := .after .init (.fresh _)
  have hbuffer : endpoint.buffer = some buffer := by decide
  obtain ⟨-, hallocate, hreachable, hwords⟩ := pages_suffice hheap
  obtain ⟨hlonger, hlimited⟩ := hreachable endpoint buffer hcomes hbuffer
  refine ⟨hheap, hcomes, hbuffer, by decide, hlonger, ?_, ?_, ?_⟩
  · intro reading
    exact hlimited.read 0xFFFFFFFFEFFF reading (by decide)
  · exact (hallocate 0x10000000000000 .fresh).1 (.inr (.inl (by decide)))
  · exact (hwords 2 0xFFFFFFFF 0x100000000 (by decide)).2

end MessageProxy.Endpoint
