import MessageProxy.Proofs.Endpoint.Bounds
import MessageProxy.Proofs.Endpoint.Failure
import MessageProxy.Proofs.Remote.Connection

/-!
What an endpoint takes from firmware that it does not trust.

Firmware may return any code with any value, and may leave anything in the shared memory. What the
endpoint makes of that is a function of the answer and of the bytes within the size that was asked
for: `taken` for the response to a message, `listed` for a page of the directory.
-/

namespace MessageProxy

namespace Memory

/-- One word of a block. -/
def word (memory : Memory) (address : UInt64) (index : Nat) : UInt32 :=
  Bytes.toUInt32 (memory.byte address (4 * index)) (memory.byte address (4 * index + 1))
    (memory.byte address (4 * index + 2)) (memory.byte address (4 * index + 3))

theorem ofWords_map_word (memory : Memory) (address : UInt64) (count : Nat) :
    Bytes.ofWords ((List.range count).map (memory.word address)) =
      (List.range (4 * count)).map (memory.byte address) := by
  induction count with
  | zero => rfl
  | succ count ih =>
    have hword : Bytes.ofWords [memory.word address count] =
        [4 * count, 4 * count + 1, 4 * count + 2, 4 * count + 3].map (memory.byte address) :=
      (List.append_nil _).trans (Bytes.ofUInt32_toUInt32 _ _ _ _)
    rw [List.range_succ, List.map_append, Bytes.ofWords_append, ih, List.map_singleton, hword,
      ← List.map_append, Nat.mul_succ]
    simp only [List.range_succ, List.append_assoc, List.cons_append, List.nil_append]

/-- A word lies in four bytes. -/
theorem word_eq {first second : Memory} {address : UInt64} {limit : Nat}
    (hagree : ∀ offset < limit, second.byte address offset = first.byte address offset)
    {index : Nat} (hindex : 4 * (index + 1) ≤ limit) :
    second.word address index = first.word address index := by
  unfold word
  rw [hagree _ (by omega), hagree _ (by omega), hagree _ (by omega), hagree _ (by omega)]

end Memory

/-- Firmware that wants `size` bytes of shared memory. To every call about channels it returns one
answer, and leaves the same bytes at the start of the first page of the heap. -/
def Platform.leaving (size : UInt64) (answer : Return) (bytes : Bytes) :
    Platform Heap where
  call request memory heap :=
    if request.extension = Extension.base then (.success 1, memory, heap)
    else if request.function = ProxyFunction.sharedMemorySize then (.success size, memory, heap)
    else if request.function = ProxyFunction.setSharedMemory then (.success 0, memory, heap)
    else (answer, memory.store pageSize bytes, heap)
  allocate := Heap.allocate
  release := Heap.release

theorem Platform.grantsAsked_leaving (size : UInt64) (answer : Return) (bytes : Bytes) :
    (Platform.leaving size answer bytes).GrantsAsked :=
  grantsAsked_of_heap Heap.allocate_eq_allocateFrom

namespace Endpoint

variable {σ : Type} {platform : Platform σ} {endpoint : Endpoint σ} {buffer : SharedBuffer}

/-- What comes of a message when the firmware has answered it and left that memory: the response, if
it is not longer than the shared memory, and then not longer than the caller has room for. -/
def taken (buffer : SharedBuffer) (capacity : Nat) (answer : Return) (left : Memory) :
    Except Fault Bytes :=
  if answer.error ≠ 0 then .error answer.fault
  else if answer.value = 0 then .ok []
  else if answer.value > buffer.size then .error .deviceError
  else if answer.value.toNat > capacity then .error .capacityExceeded
  else .ok (left.fetch buffer.region.base answer.value.toNat)

/-- A request that is smaller than the shared memory is written to the buffer, the firmware is
called once, and its answer and the memory that it leaves decide. -/
theorem run_send_taken (hbuffer : endpoint.buffer = some buffer) (hroom : buffer.HasRoom)
    {request : Bytes} (hrequest : request.length < buffer.size.toNat) (channel : ChannelId)
    (message : UInt32) (capacity : Nat) :
    let staged := endpoint.world.stored buffer.region request
    let call := Call.send channel message request.length
    ∃ world, (send platform channel message request capacity).run endpoint =
        (taken buffer capacity (staged.answer platform call) (staged.called platform call).memory,
          { endpoint with world }) ∧
      (staged.called platform call).Matches world := by
  intro staged call
  unfold SharedBuffer.HasRoom at hroom
  have hcalled := World.Matches.refl (staged.called platform call)
  rw [run_send_of_lt hbuffer hrequest (by omega)]
  unfold taken
  by_cases herror : (staged.answer platform call).error = 0
  · have hanswer : ((endpoint.world.stored buffer.region request).answer platform
        (.send channel message request.length)).toExcept =
          .ok (staged.answer platform call).value := if_pos herror
    simp only [hanswer, herror, ne_eq, not_true_eq_false, if_false]
    generalize (staged.answer platform call).value = length
    by_cases hzero : length = 0
    · simp only [if_pos hzero]
      exact ⟨_, rfl, hcalled⟩
    by_cases hlarge : length > buffer.size
    · simp only [if_neg hzero, if_pos hlarge]
      exact ⟨_, rfl, hcalled.noted _⟩
    by_cases hcapacity : length.toNat > capacity
    · simp only [if_neg hzero, if_neg hlarge, if_pos hcapacity]
      exact ⟨_, rfl, hcalled⟩
    · -- what fits the shared memory fits the region
      have hregion : ¬length.toNat > buffer.region.length.toNat := by
        rw [gt_iff_lt, UInt64.lt_iff_toNat_lt] at hlarge
        omega
      simp only [if_neg hzero, if_neg hlarge, if_neg hcapacity, if_neg hregion]
      exact ⟨_, rfl, hcalled.noted _⟩
  · have hanswer : ((endpoint.world.stored buffer.region request).answer platform
        (.send channel message request.length)).toExcept =
          .error (.ofCode (staged.answer platform call).error) := Return.toExcept_of_ne herror
    simp only [hanswer, herror, ne_eq, not_false_eq_true, if_true]
    exact ⟨_, rfl, hcalled.noted _⟩

/-- What a caller with a buffer of its own finds there. -/
theorem deliverTo_taken (buffer : SharedBuffer) (caller : Bytes) (answer : Return) (left : Memory) :
    deliverTo caller (taken buffer caller.length answer left) =
      if answer.error ≠ 0 then (.error (.ofStatus (.ofCode answer.error)), caller)
      else if answer.value = 0 then (.ok 0, caller)
      else if answer.value > buffer.size then (.error .deviceError, caller)
      else if answer.value.toNat > caller.length then (.error .capacityExceeded, caller)
      else (.ok answer.value.toNat,
        left.fetch buffer.region.base answer.value.toNat ++ caller.drop answer.value.toNat) := by
  unfold taken
  by_cases herror : answer.error ≠ 0
  · rw [if_pos herror, if_pos herror]
    rfl
  rw [if_neg herror, if_neg herror]
  by_cases hzero : answer.value = 0
  · rw [if_pos hzero, if_pos hzero]
    rfl
  rw [if_neg hzero, if_neg hzero]
  by_cases hlarge : answer.value > buffer.size
  · rw [if_pos hlarge, if_pos hlarge]
    rfl
  rw [if_neg hlarge, if_neg hlarge]
  by_cases hcapacity : answer.value.toNat > caller.length
  · rw [if_pos hcapacity, if_pos hcapacity]
    rfl
  · rw [if_neg hcapacity, if_neg hcapacity, deliverTo, Bytes.overwrite, Memory.length_fetch]

/-- Without a buffer, or with a request that is not smaller than the shared memory, nothing is
sent. -/
theorem run_send_of_forall_le {request : Bytes}
    (hrequest : ∀ buffer, endpoint.buffer = some buffer → buffer.size.toNat ≤ request.length)
    (channel : ChannelId) (message : UInt32) (capacity : Nat) :
    (send platform channel message request capacity).run endpoint =
      (.error .invalidParameter, endpoint) := by
  cases hbuffer : endpoint.buffer with
  | none => exact run_withBuffer_none hbuffer _ _
  | some buffer => exact run_send_of_le hbuffer (hrequest buffer hbuffer) channel message capacity

/-- Whatever the firmware returns and leaves in the buffer: a request that finds no buffer, or one
that is not larger, is refused and changes nothing. Otherwise the firmware is called once, with the
request in the buffer, and the checks of its answer come in one order: the error, the empty
response, the shared memory, the caller's buffer. Only what passes them all is copied, and nothing
behind it in the caller's buffer changes. -/
theorem response_checked (hgrants : platform.GrantsAsked) (hcomes : ComesAbout platform endpoint)
    (channel : ChannelId) (message : UInt32) (request caller : Bytes) :
    let result := (send platform channel message request caller.length).run endpoint
    ((∀ buffer, endpoint.buffer = some buffer → buffer.size.toNat ≤ request.length) →
      result.2 = endpoint ∧
        deliverTo caller result.1 = (.error .invalidParameter, caller)) ∧
    ∀ buffer, endpoint.buffer = some buffer → request.length < buffer.size.toNat →
      let staged := endpoint.world.stored buffer.region request
      let call : Call := ⟨Extension.messageProxy, ProxyFunction.sendWithResponse,
        [channel.raw.toUInt64, message.toUInt64, request.length.toUInt64]⟩
      let answer := staged.answer platform call
      let left := staged.called platform call
      request.length.toUInt64.toNat = request.length ∧
      staged.memory.fetch buffer.region.base request.length = request ∧
      result.2.buffer = some buffer ∧
      left.Matches result.2.world ∧
      result.2.world.deeds = endpoint.world.deeds ++ [.called call answer] ∧
      deliverTo caller result.1 =
        if answer.error ≠ 0 then (.error (.ofStatus (.ofCode answer.error)), caller)
        else if answer.value = 0 then (.ok 0, caller)
        else if answer.value > buffer.size then (.error .deviceError, caller)
        else if answer.value.toNat > caller.length then (.error .capacityExceeded, caller)
        else (.ok answer.value.toNat,
          left.memory.fetch buffer.region.base answer.value.toNat ++
            caller.drop answer.value.toNat) := by
  intro result
  constructor
  · intro hrequest
    have hrun : result = (.error .invalidParameter, endpoint) :=
      run_send_of_forall_le hrequest channel message caller.length
    rw [hrun]
    exact ⟨rfl, rfl⟩
  · intro buffer hbuffer hrequest staged call answer left
    have hroom := hcomes.hasRoom hgrants hbuffer
    obtain ⟨world, hsend, hmatches⟩ :=
      run_send_taken hbuffer hroom hrequest channel message caller.length
    have hrun : result =
        (taken buffer caller.length answer left.memory, { endpoint with world }) := hsend
    have hlength : request.length.toUInt64.toNat = request.length :=
      UInt64.toNat_ofNat_of_lt' (Nat.lt_trans hrequest buffer.size.toNat_lt)
    rw [hrun]
    exact ⟨hlength, Memory.fetch_store _ _ _, hbuffer, hmatches,
      hmatches.deeds_eq.trans (World.deeds_called platform staged call),
      deliverTo_taken buffer caller answer left.memory⟩

/-- A response that is too long for the shared memory, and for the caller too, is a device error;
one that fits both is copied, and the rest of the caller's buffer stays. -/
theorem response_checked_leaving :
    let endpoint (firmware : Platform Heap) :=
      after firmware { buffer := none, world := .fresh .fresh } .init
    let receive (firmware : Platform Heap) :=
      deliverTo [1, 1, 1, 1, 1] ((send firmware ⟨5⟩ 9 [2, 4] 5).run (endpoint firmware)).1
    let long := Platform.leaving 16 (.success 17) [7, 8, 9]
    let short := Platform.leaving 16 (.success 3) [7, 8, 9]
    long.GrantsAsked ∧ ComesAbout long (endpoint long) ∧
      receive long = (.error .deviceError, [1, 1, 1, 1, 1]) ∧
      short.GrantsAsked ∧ ComesAbout short (endpoint short) ∧
      receive short = (.ok 3, [7, 8, 9, 1, 1]) := by
  intro endpoint receive long short
  have hgrants := Platform.grantsAsked_leaving 16
  have hcomes (firmware : Platform Heap) : ComesAbout firmware (endpoint firmware) :=
    .after .init (.fresh _)
  have hchecked (answer : Return) (bytes : Bytes) :=
    (response_checked (hgrants answer bytes) (hcomes _) ⟨5⟩ 9 [2, 4] [1, 1, 1, 1, 1]).2
      ⟨⟨0x1000, 1, 0x1000⟩, 16⟩ rfl (by decide)
  obtain ⟨-, -, -, -, -, hlong⟩ := hchecked (.success 17) [7, 8, 9]
  obtain ⟨-, -, -, -, -, hshort⟩ := hchecked (.success 3) [7, 8, 9]
  exact ⟨hgrants _ _, hcomes long, hlong.trans rfl, hgrants _ _, hcomes short, hshort.trans rfl⟩

/-- What comes of a page when the firmware has left that memory: the ids behind the two counts, if
the size has room for as many as the second says. -/
def listed (buffer : SharedBuffer) (left : Memory) : Except Fault Page :=
  let word := left.word buffer.region.base
  if 8 ≤ buffer.size.toNat ∧ 4 * ((word 1).toNat + 2) ≤ buffer.size.toNat then
    .ok {
      ids := (List.range (word 1).toNat).map fun index => ⟨word (index + 2)⟩
      remaining := word 0
      returned := word 1 }
  else .error .deviceError

theorem shows_word (region : Region) (world : World σ) (count : Nat) :
    Shows region ((List.range count).map (world.memory.word region.base)) world := by
  intro bound hbound
  rw [List.length_map, List.length_range] at hbound
  rw [Memory.ofWords_map_word, Memory.fetch_eq_map, ← List.map_take, List.take_range,
    Nat.min_eq_left hbound]

/-- A word that ends within the size is read where it lies, and no other is. -/
theorem run_readWord_word (buffer : SharedBuffer) (index : UInt32) (endpoint : Endpoint σ) :
    (buffer.readWord index : Action σ UInt32).run endpoint =
      if 4 * index.toNat + 4 ≤ buffer.size.toNat then
        (.ok (endpoint.world.memory.word buffer.region.base index.toNat), endpoint)
      else (.error .deviceError, endpoint) := by
  by_cases hsize : 4 * index.toNat + 4 ≤ buffer.size.toNat
  · rw [if_pos hsize]
    apply run_readWord (shows_word buffer.region endpoint.world (index.toNat + 1)) index _ _ hsize
    rw [List.getElem?_map, List.getElem?_range (Nat.lt_succ_self _)]
    rfl
  · rw [if_neg hsize]
    exact run_readWord_of_lt (by omega)

/-- Consecutive words of which the last ends within the size are read where they lie, and no others
are. -/
theorem run_readWords_words (buffer : SharedBuffer) (first : UInt32) {count : UInt32}
    (hcount : count ≠ 0) (endpoint : Endpoint σ) :
    (buffer.readWords first count : Action σ (List UInt32)).run endpoint =
      if 4 * (first.toNat + count.toNat) ≤ buffer.size.toNat then
        (.ok ((List.range' first.toNat count.toNat).map
          (endpoint.world.memory.word buffer.region.base)), endpoint)
      else (.error .deviceError, endpoint) := by
  by_cases hsize : 4 * (first.toNat + count.toNat) ≤ buffer.size.toNat
  · have hwords : (((List.range (first.toNat + count.toNat)).map
        (endpoint.world.memory.word buffer.region.base)).drop first.toNat).take count.toNat =
          (List.range' first.toNat count.toNat).map
            (endpoint.world.memory.word buffer.region.base) := by
      rw [← List.map_drop, List.range_eq_range', List.drop_range', Nat.mul_one, Nat.zero_add,
        Nat.add_sub_cancel_left]
      exact List.take_of_length_le (Nat.le_of_eq (by rw [List.length_map, List.length_range']))
    rw [if_pos hsize, run_readWords (shows_word buffer.region endpoint.world
      (first.toNat + count.toNat)) first count (by simp) hsize, hwords]
  · rw [if_neg hsize]
    exact run_readWords_of_lt hcount (by omega)

/-- The counts of a page and the ids behind them. -/
theorem map_word_page (memory : Memory) (address : UInt64) (count : Nat) :
    (List.range (count + 2)).map (memory.word address) =
      memory.word address 0 :: memory.word address 1 ::
        (List.range count).map fun index => memory.word address (index + 2) := by
  rw [List.range_succ_eq_map, List.map_cons, List.map_map, List.range_succ_eq_map, List.map_cons,
    List.map_map]
  rfl

/-- When the firmware has answered a listing, the memory that it left decides. -/
theorem run_channelIds_listed (hbuffer : endpoint.buffer = some buffer) {start : UInt32}
    (hanswer : (endpoint.world.answer platform (.listChannels start)).error = 0) :
    let left := endpoint.world.called platform (.listChannels start)
    ∃ world, (channelIds platform start).run endpoint =
        (listed buffer left.memory, { endpoint with world }) ∧
      left.Matches world := by
  intro left
  have hcalled := World.Matches.refl left
  have hcommand := run_command_of_eq hanswer
  unfold listed
  by_cases hfits : 4 * ((left.memory.word buffer.region.base 1).toNat + 2) ≤ buffer.size.toNat
  · have hshows := shows_word buffer.region left
      ((left.memory.word buffer.region.base 1).toNat + 2)
    rw [map_word_page] at hshows
    have hlength : ((List.range (left.memory.word buffer.region.base 1).toNat).map fun index =>
        left.memory.word buffer.region.base (index + 2)).length =
          (left.memory.word buffer.region.base 1).toNat := by
      rw [List.length_map, List.length_range]
    have hsize : 8 ≤ buffer.size.toNat := by omega
    rw [run_channelIds_of_shows hbuffer hcommand hshows hlength.symm (by rw [hlength]; exact hfits),
      if_pos ⟨hsize, hfits⟩, List.map_map]
    exact ⟨_, rfl, hcalled.noted _⟩
  · rw [if_neg fun hchecks => hfits hchecks.2]
    have hafter : Shows buffer.region
        [left.memory.word buffer.region.base 0, left.memory.word buffer.region.base 1]
        (Endpoint.mk endpoint.buffer left).world := shows_word buffer.region left 2
    have hzero : (0 : UInt32).toNat = 0 := rfl
    have hone : (1 : UInt32).toNat = 1 := rfl
    rw [channelIds, run_withBuffer hbuffer, run_bind, hcommand]
    dsimp only
    rw [run_bind]
    by_cases hremaining : buffer.size.toNat < 4
    · rw [run_readWord_of_lt (by omega)]
      exact ⟨_, rfl, hcalled⟩
    rw [run_readWord hafter 0 (left.memory.word buffer.region.base 0) rfl (by omega)]
    dsimp only
    rw [run_bind]
    by_cases hreturned : buffer.size.toNat < 8
    · rw [run_readWord_of_lt (by omega)]
      exact ⟨_, rfl, hcalled⟩
    rw [run_readWord hafter 1 (left.memory.word buffer.region.base 1) rfl (by omega)]
    have hpage : Page.fits (left.memory.word buffer.region.base 1) buffer.size = false :=
      decide_eq_false hfits
    simp only [hpage, Bool.false_eq_true, if_false, run_bind, run_refuse]
    exact ⟨_, rfl, hcalled.noted _⟩

/-- Memories that agree on the bytes within the size show the same page. -/
theorem listed_eq {first second : Memory}
    (hagree : ∀ offset < buffer.size.toNat,
      second.byte buffer.region.base offset = first.byte buffer.region.base offset) :
    listed buffer second = listed buffer first := by
  unfold listed
  by_cases hsize : 8 ≤ buffer.size.toNat
  · have hremaining := Memory.word_eq hagree (show 4 * (0 + 1) ≤ buffer.size.toNat by omega)
    have hreturned := Memory.word_eq hagree (show 4 * (1 + 1) ≤ buffer.size.toNat by omega)
    dsimp only
    rw [hremaining, hreturned]
    by_cases hfits : 4 * ((first.word buffer.region.base 1).toNat + 2) ≤ buffer.size.toNat
    · rw [if_pos ⟨hsize, hfits⟩, if_pos ⟨hsize, hfits⟩]
      have hids : ((List.range (first.word buffer.region.base 1).toNat).map fun index =>
            ChannelId.mk (second.word buffer.region.base (index + 2))) =
          (List.range (first.word buffer.region.base 1).toNat).map fun index =>
            ⟨first.word buffer.region.base (index + 2)⟩ := by
        apply List.map_congr_left
        intro index hindex
        have hbelow := List.mem_range.1 hindex
        rw [Memory.word_eq hagree (by omega)]
      rw [hids]
    · rw [if_neg fun hchecks => hfits hchecks.2, if_neg fun hchecks => hfits hchecks.2]
  · dsimp only
    rw [if_neg fun hchecks => hsize hchecks.1, if_neg fun hchecks => hsize hchecks.1]

/-- Whatever counts and ids the firmware leaves behind a listing that it says succeeded: there is a
page exactly when the size has room for both counts and for all the ids, and then it holds these
ids, as many as it says. Everything else is a device error. No byte from the size on has a part in
it, which ends inside the region, and no offset leaves the range of a machine word. -/
theorem listing_checked (hgrants : platform.GrantsAsked) (hcomes : ComesAbout platform endpoint)
    (hbuffer : endpoint.buffer = some buffer) {start : UInt32}
    (hanswer : (endpoint.world.answer platform (.listChannels start)).error = 0) :
    let base := buffer.region.base
    let size := buffer.size.toNat
    let left := (endpoint.world.called platform (.listChannels start)).memory
    let remaining := left.word base 0
    let returned := left.word base 1
    let result := (channelIds platform start).run endpoint
    (result.1 =
      if 8 ≤ size ∧ 4 * (returned.toNat + 2) ≤ size then
        .ok {
          ids := (List.range returned.toNat).map fun index => ⟨left.word base (index + 2)⟩
          remaining, returned }
      else .error .deviceError) ∧
    (∀ page, result.1 = .ok page → page.ids.length = page.returned.toNat) ∧
    size ≤ buffer.region.length.toNat ∧
    (∀ (firmware : Platform σ) (other : Endpoint σ) (index : UInt32),
      other.buffer = some buffer →
      (other.world.answer firmware (.listChannels index)).error = 0 →
      (∀ offset < size,
        (other.world.called firmware (.listChannels index)).memory.byte base offset =
          left.byte base offset) →
      ((channelIds firmware index).run other).1 = result.1) ∧
    ((returned.toUInt64 + 2) * 4).toNat = 4 * (returned.toNat + 2) ∧
    ∀ index < returned.toNat + 2,
      (SharedBuffer.wordEnd index.toUInt64).toNat = 4 * (index + 1) := by
  intro base size left remaining returned result
  have hbound := returned.toNat_lt
  have hlisted (firmware : Platform σ) (other : Endpoint σ) (index : UInt32)
      (hother : other.buffer = some buffer)
      (hsuccess : (other.world.answer firmware (.listChannels index)).error = 0) :
      ((channelIds firmware index).run other).1 =
        listed buffer (other.world.called firmware (.listChannels index)).memory := by
    obtain ⟨world, hrun, -⟩ := run_channelIds_listed hother hsuccess
    rw [hrun]
  have hresult : result.1 = listed buffer left := hlisted platform endpoint start hbuffer hanswer
  refine ⟨hresult, ?_, hcomes.hasRoom hgrants hbuffer, ?_, ?_, ?_⟩
  · intro page hpage
    rw [hresult] at hpage
    unfold listed at hpage
    by_cases hfits : 8 ≤ buffer.size.toNat ∧
        4 * ((left.word buffer.region.base 1).toNat + 2) ≤ buffer.size.toNat
    · rw [if_pos hfits] at hpage
      cases hpage
      rw [List.length_map, List.length_range]
    · rw [if_neg hfits] at hpage
      cases hpage
  · intro firmware other index hother hsuccess hagree
    rw [hresult, hlisted firmware other index hother hsuccess]
    exact listed_eq hagree
  · have htwo : (2 : UInt64).toNat = 2 := rfl
    have hfour : (4 : UInt64).toNat = 4 := rfl
    rw [UInt64.toNat_mul, UInt64.toNat_add, UInt32.toNat_toUInt64, htwo, hfour]
    omega
  · intro index hindex
    have hword : index.toUInt64.toNat = index :=
      UInt64.toNat_ofNat_of_lt' (show index < 0x10000000000000000 by omega)
    rw [toNat_wordEnd (by omega), hword]

/-- Three ids that fill the shared memory are a page; the largest count of all is refused. -/
theorem listing_checked_leaving :
    let endpoint (firmware : Platform Heap) :=
      after firmware { buffer := none, world := .fresh .fresh } .init
    let succeeds (firmware : Platform Heap) :=
      ((endpoint firmware).world.answer firmware (.listChannels 4)).error = 0
    let page (firmware : Platform Heap) := ((channelIds firmware 4).run (endpoint firmware)).1
    let full := Platform.leaving 20 (.success 0) (Bytes.ofWords [5, 3, 7, 8, 9])
    let large := Platform.leaving 20 (.success 0) (Bytes.ofWords [1, 0xFFFFFFFF, 7, 8, 9])
    full.GrantsAsked ∧ ComesAbout full (endpoint full) ∧ succeeds full ∧
      page full = .ok ⟨[⟨7⟩, ⟨8⟩, ⟨9⟩], 5, 3⟩ ∧
      large.GrantsAsked ∧ ComesAbout large (endpoint large) ∧ succeeds large ∧
      page large = .error .deviceError := by
  intro endpoint succeeds page full large
  have hgrants := Platform.grantsAsked_leaving 20 (.success 0)
  have hcomes (firmware : Platform Heap) : ComesAbout firmware (endpoint firmware) :=
    .after .init (.fresh _)
  have hbuffer (bytes : Bytes) :
      (endpoint (.leaving 20 (.success 0) bytes)).buffer = some ⟨⟨0x1000, 1, 0x1000⟩, 20⟩ :=
    rfl
  have hsucceeds (bytes : Bytes) : succeeds (.leaving 20 (.success 0) bytes) := rfl
  have hchecked (bytes : Bytes) :=
    (listing_checked (hgrants bytes) (hcomes _) (hbuffer bytes) (hsucceeds bytes)).1
  have hfull := hchecked (Bytes.ofWords [5, 3, 7, 8, 9])
  have hlarge := hchecked (Bytes.ofWords [1, 0xFFFFFFFF, 7, 8, 9])
  exact ⟨hgrants _, hcomes full, hsucceeds _, hfull.trans rfl, hgrants _, hcomes large,
    hsucceeds _, hlarge.trans (if_neg (by decide))⟩

end Endpoint

end MessageProxy
