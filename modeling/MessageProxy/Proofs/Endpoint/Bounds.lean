import MessageProxy.Proofs.Blind
import MessageProxy.Proofs.Endpoint.Turn
import MessageProxy.Proofs.Endpoint.Words
import MessageProxy.Proofs.Heap

/-!
Which bytes of memory an operation writes, and on which its outcome depends.

Every write is checked against the length of the region, but a word is read when it lies within the
size that the firmware asked for. So what is written stays in the region whatever the allocator
granted, and what is read stays in it only if the region has room for that size.
-/

namespace MessageProxy

namespace Memory

/-- One byte of a block; there are zeros behind what was written to it. -/
def byte (memory : Memory) (address : UInt64) (offset : Nat) : UInt8 :=
  (memory.block address).getD offset 0

theorem fetch_eq_map (memory : Memory) (address : UInt64) (count : Nat) :
    memory.fetch address count = (List.range count).map (memory.byte address) := by
  apply List.ext_getElem
  · rw [length_fetch, List.length_map, List.length_range]
  · unfold fetch Bytes.zeroExtend byte
    intro offset hfetch hmap
    simp only [List.length_map, List.length_range] at hmap
    by_cases hwritten : offset < (memory.block address).length
    · have hfront : offset < min count (memory.block address).length := by omega
      simp [hwritten, hfront]
    · have hbehind : ¬offset < min count (memory.block address).length := by omega
      simp [List.getElem_append, hwritten, hbehind]

theorem byte_store (memory : Memory) (address other : UInt64) (bytes : Bytes) (offset : Nat) :
    (memory.store address bytes).byte other offset =
      if other = address ∧ offset < bytes.length then bytes.getD offset 0
      else memory.byte other offset := by
  unfold store replace byte Bytes.overwrite
  by_cases hblock : other = address
  · subst hblock
    by_cases hwritten : offset < bytes.length
    · simp [hwritten, List.getElem?_append_left]
    · have hbehind : bytes.length ≤ offset := by omega
      simp [hwritten, List.getElem?_append_right hbehind, Nat.add_sub_cancel' hbehind]
  · simp [hblock]

/-- The memories agree on every byte but those of one block from `limit` on. -/
def AgreeBelow (base : UInt64) (limit : Nat) (first second : Memory) : Prop :=
  ∀ address offset, (address = base → offset < limit) →
    second.byte address offset = first.byte address offset

/-- The memories agree on every byte but those of a region. -/
def AgreeOutside (region : Region) (first second : Memory) : Prop :=
  ∀ address offset, (address = region.base → region.length.toNat ≤ offset) →
    second.byte address offset = first.byte address offset

theorem AgreeBelow.fetch {base : UInt64} {limit count : Nat} {first second : Memory}
    (hagree : AgreeBelow base limit first second) (hcount : count ≤ limit) :
    second.fetch base count = first.fetch base count := by
  rw [fetch_eq_map, fetch_eq_map]
  apply List.map_congr_left
  intro offset hoffset
  have hbelow := List.mem_range.1 hoffset
  exact hagree base offset fun _ => by omega

theorem AgreeBelow.store {base : UInt64} {limit : Nat} {first second : Memory}
    (hagree : AgreeBelow base limit first second) (bytes : Bytes) :
    AgreeBelow base limit (first.store base bytes) (second.store base bytes) := by
  intro address offset hoffset
  rw [byte_store, byte_store, hagree address offset hoffset]

theorem AgreeOutside.trans {region : Region} {first second third : Memory}
    (hfirst : AgreeOutside region first second) (hsecond : AgreeOutside region second third) :
    AgreeOutside region first third :=
  fun address offset hoffset =>
    (hsecond address offset hoffset).trans (hfirst address offset hoffset)

/-- A write that fits into a region changes no byte outside of it. -/
theorem agreeOutside_store {region : Region} {bytes : Bytes}
    (hbytes : bytes.length ≤ region.length.toNat) (memory : Memory) :
    AgreeOutside region memory (memory.store region.base bytes) := by
  intro address offset hoffset
  rw [byte_store, if_neg]
  rintro ⟨hbase, hwritten⟩
  have hbehind := hoffset hbase
  omega

end Memory

/-- The region has room for the size that the firmware asked for. -/
def SharedBuffer.HasRoom (buffer : SharedBuffer) : Prop :=
  buffer.size.toNat ≤ buffer.region.length.toNat

/-- The allocator hands out all the pages that it is asked for, if it hands out any. -/
def Platform.GrantsAsked {σ : Type} (platform : Platform σ) : Prop :=
  ∀ pages state region, (platform.allocate pages state).1 = some region →
    pages.toNat * pageSize.toNat ≤ region.length.toNat

theorem Platform.grantsAsked_of_heap {σ : Type} {platform : Platform σ}
    {source : Nat → σ → Option UInt64 × σ}
    (hheap : platform.allocate = Heap.allocateFrom source) : platform.GrantsAsked := by
  intro pages state region hgranted
  rw [hheap] at hgranted
  exact Nat.le_of_eq (Heap.toNat_length_of_allocateFrom hgranted).2.symm

namespace World

variable {σ : Type}

/-- A property of the world that logging and calls keep, and every change of memory inside a
region. -/
structure Spares (platform : Platform σ) (region : Region) (P : World σ → Prop) : Prop where
  noted : ∀ world notice, P world → P (world.noted notice)
  called : ∀ world call, P world → P (world.called platform call)
  changed : ∀ (world : World σ) memory, Memory.AgreeOutside region world.memory memory → P world →
    P { world with memory }

theorem Spares.steady {platform : Platform σ} {buffer : SharedBuffer} {P : World σ → Prop}
    (hspares : Spares platform buffer.region P) (allowed : Call → Prop) :
    Steady platform buffer allowed P where
  noted := hspares.noted
  stored world _ hbytes := hspares.changed world _ (Memory.agreeOutside_store hbytes _)
  called world call _ := hspares.called world call

/-- Firmware that itself writes inside the region only leaves every byte outside of it alone. -/
theorem spares_agreeOutside {platform : Platform σ} {region : Region}
    (hfirmware : ∀ call memory state,
      Memory.AgreeOutside region memory (platform.call call memory state).2.1) (start : Memory) :
    Spares platform region fun world => Memory.AgreeOutside region start world.memory where
  noted _ _ hagree := hagree
  called world call hagree := hagree.trans (hfirmware call world.memory world.state)
  changed _ _ hchanged hagree := hagree.trans hchanged

/-- Two worlds whose memories agree but for the bytes of a region's block from `limit` on, with
states of the outside that are related. -/
structure AgreeBelow (related : σ → σ → Prop) (region : Region) (limit : Nat)
    (first second : World σ) : Prop where
  memory : Memory.AgreeBelow region.base limit first.memory second.memory
  state : related first.state second.state

/-- Firmware that does not look at the bytes of a region's block from `limit` on. -/
def Overlooks (platform : Platform σ) (related : σ → σ → Prop) (region : Region) (limit : Nat) :
    Prop :=
  ∀ call first second, AgreeBelow related region limit first second →
    second.answer platform call = first.answer platform call ∧
      AgreeBelow related region limit (first.called platform call) (second.called platform call)

end World

namespace Endpoint

variable {σ α β : Type} {platform : Platform σ} {buffer : SharedBuffer} {related : σ → σ → Prop}
  {limit : Nat}

/-- Two endpoints with the same buffer, whose worlds agree but for the bytes of its block from
`limit` on. -/
structure Beside (buffer : SharedBuffer) (related : σ → σ → Prop) (limit : Nat)
    (first second : Endpoint σ) : Prop where
  holds : first.buffer = some buffer
  holds_second : second.buffer = some buffer
  agree : World.AgreeBelow related buffer.region limit first.world second.world

/-- The action comes to the same, whatever those bytes are. -/
abbrev Ignores (buffer : SharedBuffer) (related : σ → σ → Prop) (limit : Nat)
    (action : Action σ α) : Prop :=
  Blind (Beside buffer related limit) (fun _ => Beside buffer related limit) action
    fun _ => Beside buffer related limit

namespace Ignores

theorem pure (value : α) :
    Ignores buffer related limit (pure value : Action σ α) :=
  Blind.pure fun _ _ hbeside => hbeside

theorem throw (fault : Fault) : Ignores buffer related limit (throw fault : Action σ α) :=
  Blind.throw fun _ _ hbeside => hbeside

theorem note (notice : Notice) : Ignores buffer related limit (note notice : Action σ Unit) :=
  fun _ _ hbeside =>
    ⟨rfl, hbeside.holds, hbeside.holds_second, hbeside.agree.memory, hbeside.agree.state⟩

theorem refuse (reason : Refusal) : Ignores buffer related limit (refuse reason : Action σ α) :=
  fun _ _ hbeside =>
    ⟨rfl, hbeside.holds, hbeside.holds_second, hbeside.agree.memory, hbeside.agree.state⟩

theorem withBuffer {absent : Fault} {use : SharedBuffer → Action σ α}
    (huse : Ignores buffer related limit (use buffer)) :
    Ignores buffer related limit (Action.withBuffer absent use) := by
  intro first second hbeside
  rw [run_withBuffer hbeside.holds, run_withBuffer hbeside.holds_second]
  exact huse first second hbeside

theorem request (hoverlooks : World.Overlooks platform related buffer.region limit) (call : Call) :
    Ignores buffer related limit
      (liftM (Supervisor.request platform call).run : Action σ (Except Status UInt64)) := by
  intro first second hbeside
  obtain ⟨hanswer, hagree⟩ := hoverlooks call first.world second.world hbeside.agree
  simp only [run_lift_world, run_request, hanswer, true_and]
  exact ⟨hbeside.holds, hbeside.holds_second, hagree⟩

theorem command (hoverlooks : World.Overlooks platform related buffer.region limit) (call : Call) :
    Ignores buffer related limit
      (liftM (Supervisor.command platform call) : Action σ Unit) := by
  intro first second hbeside
  obtain ⟨hanswer, hagree⟩ := hoverlooks call first.world second.world hbeside.agree
  rw [run_lift_supervisor, run_lift_supervisor, run_command, run_command, hanswer]
  cases (first.world.answer platform call).toExcept with
  | ok value => exact ⟨rfl, hbeside.holds, hbeside.holds_second, hagree⟩
  | error status => exact ⟨rfl, hbeside.holds, hbeside.holds_second, hagree⟩

theorem write (bytes : Bytes) :
    Ignores buffer related limit (buffer.write bytes : Action σ Unit) := by
  intro first second hbeside
  rw [run_write, run_write]
  by_cases hlarge : bytes.length > buffer.region.length.toNat
  · rw [if_pos hlarge, if_pos hlarge]
    exact ⟨rfl, hbeside⟩
  · rw [if_neg hlarge, if_neg hlarge]
    exact ⟨rfl, hbeside.holds, hbeside.holds_second, hbeside.agree.memory.store bytes,
      hbeside.agree.state⟩

theorem fetch {count : Nat} (hcount : count ≤ limit) :
    Ignores buffer related limit (buffer.fetch count : Action σ Bytes) :=
  fun _ _ hbeside => ⟨congrArg Except.ok (hbeside.agree.memory.fetch hcount), hbeside⟩

theorem read {count : Nat} (hcount : count ≤ buffer.region.length.toNat → count ≤ limit) :
    Ignores buffer related limit (buffer.read count : Action σ Bytes) := by
  unfold SharedBuffer.read
  by_cases hlarge : count > buffer.region.length.toNat
  · rw [if_pos hlarge]
    exact Ignores.throw _
  · rw [if_neg hlarge]
    exact Ignores.fetch (hcount (by omega))

theorem readWord (hlimit : buffer.size.toNat ≤ limit) (index : UInt32) :
    Ignores buffer related limit (buffer.readWord index : Action σ UInt32) := by
  unfold SharedBuffer.readWord
  by_cases hend : SharedBuffer.wordEnd index.toUInt64 > buffer.size
  · rw [if_pos hend]
    exact Ignores.throw _
  · have hindex := index.toNat_lt
    rw [if_neg hend]
    rw [gt_iff_lt, UInt64.lt_iff_toNat_lt, toNat_wordEnd (by rw [UInt32.toNat_toUInt64]; omega),
      UInt32.toNat_toUInt64] at hend
    refine .bind (Ignores.fetch (by omega)) fun bytes => ?_
    cases Bytes.words (bytes.drop (4 * index.toNat)) with
    | nil => exact Ignores.throw _
    | cons word rest => exact Ignores.pure _

theorem readWords {first count : UInt32}
    (hlimit : min (4 * (first.toNat + count.toNat)) buffer.size.toNat ≤ limit) :
    Ignores buffer related limit (buffer.readWords first count : Action σ (List UInt32)) := by
  unfold SharedBuffer.readWords
  by_cases hzero : count = 0
  · rw [if_pos hzero]
    exact Ignores.pure _
  rw [if_neg hzero]
  by_cases hend : SharedBuffer.wordEnd (first.toUInt64 + count.toUInt64 - 1) > buffer.size
  · rw [if_pos hend]
    exact Ignores.throw _
  · rw [if_neg hend]
    rw [gt_iff_lt, UInt64.lt_iff_toNat_lt, toNat_wordEnd_last hzero] at hend
    exact .bind (Ignores.fetch (by omega)) fun _ => Ignores.pure _

variable (hoverlooks : World.Overlooks platform related buffer.region limit)

include hoverlooks

theorem readAttributes (channel : ChannelId) (first : UInt32) {count : UInt32}
    (hlimit : min (4 * count.toNat) buffer.size.toNat ≤ limit) :
    Ignores buffer related limit (readAttributes platform channel first count) := by
  have hwords : min (4 * ((0 : UInt32).toNat + count.toNat)) buffer.size.toNat ≤ limit := by
    rwa [UInt32.toNat_zero, Nat.zero_add]
  refine Ignores.withBuffer (.ite_bind (Ignores.throw _) ?_)
  exact .bind (Ignores.command hoverlooks _) fun _ => Ignores.readWords hwords

theorem openChannel (hlimit : min (4 * Attribute.standardCount.toNat) buffer.size.toNat ≤ limit)
    (channel : ChannelId) : Ignores buffer related limit (openChannel platform channel) := by
  refine .bind (Ignores.readAttributes hoverlooks channel 0 hlimit) fun values => ?_
  cases ChannelInfo.ofAttributes? values with
  | none => exact Ignores.throw _
  | some info => exact .bind (Ignores.note _) fun _ => Ignores.pure _

section Directory

variable (hlimit : buffer.size.toNat ≤ limit)

include hlimit

theorem channelIds (start : UInt32) :
    Ignores buffer related limit (channelIds platform start) := by
  refine Ignores.withBuffer (.bind (Ignores.command hoverlooks _) fun _ => ?_)
  refine .bind (Ignores.readWord hlimit 0) fun remaining => ?_
  refine .bind (Ignores.readWord hlimit 1) fun returned => ?_
  have hpage : Ignores buffer related limit (do
      let ids ← buffer.readWords 2 returned
      MessageProxy.note (.listed start returned remaining)
      return { ids := ids.map ChannelId.mk, remaining, returned } : Action σ Page) :=
    .bind (Ignores.readWords (by omega)) fun _ =>
      .bind (Ignores.note _) fun _ => Ignores.pure _
  exact .ite hpage (.bind (Ignores.refuse _) fun _ => hpage)

theorem channelIdsFrom (budget : Nat) (start : UInt32) :
    Ignores buffer related limit (channelIdsFrom platform budget start) := by
  induction budget generalizing start with
  | zero => exact Ignores.pure none
  | succ budget ih =>
    refine .bind (Ignores.channelIds hoverlooks hlimit start) fun page => ?_
    refine .ite (Ignores.pure _) (.ite_bind (Ignores.throw _) ?_)
    exact .bind (ih _) fun _ => Ignores.pure _

theorem firstWith (key value : UInt32) (channels : List ChannelId) :
    Ignores buffer related limit (firstWith platform key value channels) := by
  induction channels with
  | nil => exact Ignores.pure none
  | cons channel rest ih =>
    refine .bind (.observing (Ignores.readAttributes hoverlooks channel key (by omega)))
      fun outcome => ?_
    cases outcome with
    | error fault => exact .bind (Ignores.note _) fun _ => ih
    | ok values => exact .ite (.bind (Ignores.note _) fun _ => Ignores.pure _) ih

theorem findChannelFrom (key value : UInt32) (budget : Nat) (start : UInt32) :
    Ignores buffer related limit (findChannelFrom platform key value budget start) := by
  induction budget generalizing start with
  | zero => exact Ignores.pure none
  | succ budget ih =>
    refine .bind (Ignores.channelIds hoverlooks hlimit start) fun page => ?_
    refine .ite_bind (Ignores.refuse _) ?_
    refine .bind (Ignores.firstWith hoverlooks hlimit key value page.ids) fun found => ?_
    cases found with
    | some channel => exact Ignores.pure _
    | none => exact .ite_bind (Ignores.refuse _) (ih _)

end Directory

theorem writeAttributes (channel : ChannelId) (first : UInt32) (values : List UInt32) :
    Ignores buffer related limit (writeAttributes platform channel first values) := by
  refine Ignores.withBuffer (.ite_bind (Ignores.throw _) ?_)
  exact .bind (Ignores.write _) fun _ => Ignores.command hoverlooks _

omit hoverlooks in
theorem stage (request : Bytes) :
    Ignores buffer related limit (stage buffer request : Action σ Unit) :=
  .ite_bind (Ignores.throw _) (Ignores.write request)

theorem send (hlimit : min buffer.size.toNat buffer.region.length.toNat ≤ limit)
    (channel : ChannelId) (message : UInt32) (request : Bytes) (capacity : Nat) :
    Ignores buffer related limit (send platform channel message request capacity) := by
  refine Ignores.withBuffer (.bind (Ignores.stage request) fun _ => ?_)
  refine .bind (Ignores.request hoverlooks _) fun outcome => ?_
  cases outcome with
  | error status => exact .bind (Ignores.note _) fun _ => Ignores.throw _
  | ok length =>
    refine .ite (Ignores.pure _) ?_
    by_cases hsize : length > buffer.size
    · rw [if_pos hsize]
      -- nothing comes after the refusal
      exact .bind (Q := fun _ _ _ => False) (fun _ _ hbeside => Ignores.refuse _ _ _ hbeside)
        fun _ _ _ hnever => hnever.elim
    · rw [if_neg hsize]
      rw [gt_iff_lt, UInt64.lt_iff_toNat_lt] at hsize
      refine .ite_bind (Ignores.throw _) ?_
      refine .bind (Ignores.read fun hregion => by omega) fun _ => ?_
      exact .bind (Ignores.note _) fun _ => Ignores.pure _

theorem post (channel : ChannelId) (message : UInt32) (request : Bytes) :
    Ignores buffer related limit (post platform channel message request) :=
  Ignores.withBuffer (.bind (Ignores.stage request) fun _ => Ignores.command hoverlooks _)

end Ignores

/-- How many bytes at the start of the buffer an operation may look at. A response is copied out of
the region; words are read as far as the size goes. -/
def Operation.reach (buffer : SharedBuffer) : Operation → Nat
  | init | deinit | writeAttributes .. | post .. => 0
  | send .. => min buffer.size.toNat buffer.region.length.toNat
  | readAttributes _ _ count => min (4 * count.toNat) buffer.size.toNat
  | openChannel _ => min (4 * Attribute.standardCount.toNat) buffer.size.toNat
  | channelIds _ | allChannelIds _ | findChannel .. => buffer.size.toNat

theorem Operation.reach_le_length (hroom : buffer.HasRoom) (operation : Operation) :
    operation.reach buffer ≤ buffer.region.length.toNat := by
  unfold SharedBuffer.HasRoom at hroom
  cases operation with
  | init | deinit | writeAttributes | post => exact Nat.zero_le _
  | send | readAttributes | openChannel | channelIds | allChannelIds | findChannel =>
    dsimp only [reach]
    omega

theorem ignores_perform {operation : Operation} (htraffic : operation.isTraffic = true)
    (hoverlooks : World.Overlooks platform related buffer.region limit)
    (hlimit : operation.reach buffer ≤ limit) :
    Ignores buffer related limit (operation.perform platform) := by
  cases operation with
  | init | deinit => cases htraffic
  | channelIds start => exact .map _ (Ignores.channelIds hoverlooks hlimit start)
  | allChannelIds budget => exact .map _ (Ignores.channelIdsFrom hoverlooks hlimit budget 0)
  | findChannel budget key value =>
    exact .map _ (Ignores.findChannelFrom hoverlooks hlimit key value budget 0)
  | readAttributes channel first count =>
    exact .map _ (Ignores.readAttributes hoverlooks channel first hlimit)
  | writeAttributes channel first values =>
    exact .map _ (Ignores.writeAttributes hoverlooks channel first values)
  | openChannel channel => exact .map _ (Ignores.openChannel hoverlooks hlimit channel)
  | send channel message request capacity =>
    exact .map _ (Ignores.send hoverlooks hlimit channel message request capacity)
  | post channel message request => exact .map _ (Ignores.post hoverlooks channel message request)

/-- From an allocator that hands out what it was asked for, every buffer has room for more than its
size, if those before the operation had. -/
theorem size_lt_after (hgrants : platform.GrantsAsked) {endpoint : Endpoint σ}
    (hroom : ∀ buffer, endpoint.buffer = some buffer →
      buffer.size.toNat < buffer.region.length.toNat) (operation : Operation) :
    ∀ buffer, (after platform endpoint operation).buffer = some buffer →
      buffer.size.toNat < buffer.region.length.toNat := by
  intro buffer hbuffer
  obtain hsame | ⟨_, world, _, _, hgrant⟩ := buffer_after hbuffer
  · exact hroom buffer hsame
  · have hlength := hgrants (pagesFor buffer.size) world.state buffer.region hgrant
    exact Nat.lt_of_lt_of_le (lt_toNat_pagesFor buffer.size) hlength

/-- An endpoint that comes about: it has no buffer at first, and then operations run, while anything
may happen to the world in between. -/
inductive ComesAbout (platform : Platform σ) : Endpoint σ → Prop where
  | fresh (world : World σ) : ComesAbout platform { buffer := none, world }
  | after {endpoint : Endpoint σ} (operation : Operation) (hcomes : ComesAbout platform endpoint) :
    ComesAbout platform (after platform endpoint operation)
  | meanwhile {endpoint : Endpoint σ} (world : World σ) (hcomes : ComesAbout platform endpoint) :
    ComesAbout platform { endpoint with world }

theorem ComesAbout.of_buffer {endpoint next : Endpoint σ} (hcomes : ComesAbout platform endpoint)
    (hsame : next.buffer = endpoint.buffer) : ComesAbout platform next := by
  obtain ⟨_, world⟩ := next
  cases hsame
  exact .meanwhile world hcomes

theorem ComesAbout.size_lt_length (hgrants : platform.GrantsAsked) {endpoint : Endpoint σ}
    (hcomes : ComesAbout platform endpoint) (hbuffer : endpoint.buffer = some buffer) :
    buffer.size.toNat < buffer.region.length.toNat := by
  induction hcomes generalizing buffer with
  | fresh world => cases hbuffer
  | after operation _ ih => exact size_lt_after hgrants (fun _ hold => ih hold) operation _ hbuffer
  | meanwhile world _ ih => exact ih hbuffer

theorem ComesAbout.hasRoom (hgrants : platform.GrantsAsked) {endpoint : Endpoint σ}
    (hcomes : ComesAbout platform endpoint) (hbuffer : endpoint.buffer = some buffer) :
    buffer.HasRoom :=
  Nat.le_of_lt (hcomes.size_lt_length hgrants hbuffer)

end Endpoint

end MessageProxy
