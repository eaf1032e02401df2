import MessageProxy.Proofs.Heap
import MessageProxy.Proofs.Remote.Registration

/-!
An endpoint that is alone on a remote: the buffer that it holds is one that the remote can use, and
the remote looks for it where it is.
-/

namespace MessageProxy.Remote

open Endpoint

variable {κ α : Type} {setup : Setup κ} {allocate : UInt64 → α → Option Region × α}
  {release : Region → α → α}

/-- The allocator hands out all the pages it was asked for, mapped at their physical address. -/
def Grants (allocate : UInt64 → α → Option Region × α) : Prop :=
  ∀ pages state region, (allocate pages state).1 = some region →
    region.length.toNat = pages.toNat * pageSize.toNat ∧ region.base = region.address

theorem grants_allocateFrom (source : Nat → α → Option UInt64 × α) :
    Grants (Heap.allocateFrom source) := by
  intro pages state region hgranted
  obtain ⟨-, hmapped, -⟩ := Heap.pages_of_allocateFrom hgranted
  exact ⟨(Heap.toNat_length_of_allocateFrom hgranted).2, hmapped⟩

theorem grants_heap : Grants Heap.allocate := by
  rw [Heap.allocate_eq_allocateFrom]
  exact grants_allocateFrom Heap.block

theorem registers_platform (hreports : setup.Reports) (allocate : UInt64 → α → Option Region × α)
    (release : Region → α → α) :
    (platform setup allocate release).Registers fun state => state.1.registered where
  called call memory state := registered_respond hreports call memory state.1
  asked _ _ := rfl
  freed _ _ := rfl

theorem answer_platform (call : Call) (world : World (State κ × α)) :
    world.answer (platform setup allocate release) call =
      Return.ofExcept ((react setup call).run (world.memory, world.state.1)).1 :=
  rfl

theorem state_called (call : Call) (world : World (State κ × α)) :
    (world.called (platform setup allocate release) call).state.1 =
      ((react setup call).run (world.memory, world.state.1)).2.2 :=
  rfl

theorem memory_called (call : Call) (world : World (State κ × α)) :
    (world.called (platform setup allocate release) call).memory =
      ((react setup call).run (world.memory, world.state.1)).2.1 :=
  rfl

/-- A buffer has the size that the remote asked for, and room for it where the remote looks. -/
structure Fits (setup : Setup κ) (buffer : SharedBuffer) : Prop where
  proxy : setup.hasMessageProxy = true
  size : buffer.size = setup.size
  room : buffer.size.toNat ≤ buffer.region.length.toNat
  mapped : buffer.region.base = buffer.region.address

/-- What the remote has room for, the buffer has room for. -/
theorem Fits.le_length {buffer : SharedBuffer} (hfits : Fits setup buffer) {count : Nat}
    (hcount : count ≤ setup.size.toNat) : count ≤ buffer.region.length.toNat := by
  have hroom := hfits.room
  rw [hfits.size] at hroom
  omega

theorem toNat_toUInt64_of_le {count : Nat} {size : UInt64} (hcount : count ≤ size.toNat) :
    count.toUInt64.toNat = count :=
  UInt64.toNat_ofNat_of_lt' (Nat.lt_of_le_of_lt hcount size.toNat_lt)

theorem not_gt_of_le {count : Nat} {size : UInt64} (hcount : count ≤ size.toNat) :
    ¬count.toUInt64 > size := by
  rw [gt_iff_lt, UInt64.lt_iff_toNat_lt, toNat_toUInt64_of_le hcount]
  omega

/-- A size that the remote tells, and that is not zero, is the one it asks for. -/
theorem size_of_answer {world : World (State κ × α)} {size : UInt64} (hsize : size ≠ 0)
    (hanswer : world.answer (platform setup allocate release) .sharedMemorySize = .success size) :
    setup.hasMessageProxy = true ∧ size = setup.size := by
  rw [answer_platform] at hanswer
  cases hproxy : setup.hasMessageProxy with
  | false =>
    have hrun : ((react setup .sharedMemorySize).run (world.memory, world.state.1)).1 =
        .error .notSupported := by
      unfold react
      rw [run_bind, run_update]
      simp only [hproxy]
      rfl
    rw [hrun] at hanswer
    have herror : (-2 : Int64) = 0 := congrArg Return.error hanswer
    exact absurd herror (by decide)
  | true =>
    rw [run_react hproxy rfl] at hanswer
    unfold messageProxy at hanswer
    have hfunction : Call.sharedMemorySize.function = ProxyFunction.sharedMemorySize := rfl
    simp only [if_pos hfunction] at hanswer
    cases hfault : setup.sizeFault with
    | some fault =>
      simp only [hfault] at hanswer
      have hvalue : 0 = size := congrArg Return.value hanswer
      exact absurd hvalue.symm hsize
    | none =>
      simp only [hfault] at hanswer
      have hvalue : setup.size = size := congrArg Return.value hanswer
      exact ⟨rfl, hvalue.symm⟩

/-- Every buffer that an operation leaves fits, if those before it did. -/
theorem fits_after (hgrants : Grants allocate) {endpoint : Endpoint (State κ × α)}
    (hfits : ∀ buffer, endpoint.buffer = some buffer → Fits setup buffer) (operation : Operation) :
    ∀ buffer, (after (platform setup allocate release) endpoint operation).buffer = some buffer →
      Fits setup buffer := by
  intro buffer hbuffer
  obtain hsame | ⟨asking, world, hsize, hanswered, hgrant⟩ := buffer_after hbuffer
  · exact hfits buffer hsame
  · obtain ⟨hproxy, hasked⟩ := size_of_answer hsize hanswered
    obtain ⟨hlength, hmapped⟩ := hgrants (pagesFor buffer.size) world.state.2 buffer.region hgrant
    refine ⟨hproxy, hasked, ?_, hmapped⟩
    rw [hlength]
    exact Nat.le_of_lt (lt_toNat_pagesFor buffer.size)

/-- An endpoint has a buffer that fits, and the remote looks for it where it is. -/
structure Connected (setup : Setup κ) (buffer : SharedBuffer) (endpoint : Endpoint (State κ × α)) :
    Prop where
  holds : endpoint.buffer = some buffer
  fits : Fits setup buffer
  registered : endpoint.world.state.1.registered = some buffer.region.base

variable {endpoint : Endpoint (State κ × α)} {buffer : SharedBuffer}

/-- An endpoint whose buffer, if it has one, the remote has registered and finds where it is. -/
structure Alone (setup : Setup κ) (endpoint : Endpoint (State κ × α)) : Prop where
  inStep : InStep (fun state => state.1.registered) endpoint
  fits : ∀ buffer, endpoint.buffer = some buffer → Fits setup buffer

theorem Alone.after (hreports : setup.Reports) (hgrants : Grants allocate)
    (release : Region → α → α) (halone : Alone setup endpoint) (operation : Operation) :
    Alone setup (after (platform setup allocate release) endpoint operation) where
  inStep := halone.inStep.after (registers_platform hreports allocate release) operation
  fits := fits_after hgrants halone.fits operation

theorem Alone.connected (halone : Alone setup endpoint) (hbuffer : endpoint.buffer = some buffer) :
    Connected setup buffer endpoint := by
  have hfits := halone.fits buffer hbuffer
  refine ⟨hbuffer, hfits, ?_⟩
  have hregistered := halone.inStep.registered_eq
  rw [hbuffer] at hregistered
  rw [hregistered, hfits.mapped]
  rfl

/-- Whatever an endpoint that is alone on a remote has done, it is connected once it is
initialised. -/
theorem connected_of_isInitialized (hreports : setup.Reports) (hgrants : Grants allocate)
    (release : Region → α → α) (agents : κ) (pages : α) (before : List Operation) :
    let start := afterAll (platform setup allocate release)
      { buffer := none, world := .fresh (.initial setup agents, pages) } before
    start.isInitialized = true → ∃ buffer, Connected setup buffer start := by
  intro start hinitialized
  have halone : Alone setup start :=
    afterAll_of_after (fun _ operation halone => halone.after hreports hgrants release operation)
      ⟨⟨rfl, rfl⟩, fun _ hbuffer => nomatch hbuffer⟩ before
  obtain ⟨buffer, hbuffer⟩ := Option.isSome_iff_exists.1 hinitialized
  exact ⟨buffer, halone.connected hbuffer⟩

end MessageProxy.Remote
