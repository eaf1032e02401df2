import MessageProxy.Heap
import MessageProxy.Proofs.Remote.Registration

/-!
An endpoint that is alone on a remote: the remote has the address of its buffer registered while it
has one, and nothing while it has none.
-/

namespace MessageProxy

namespace Endpoint

open Remote

variable {κ φ α : Type}

/-- An endpoint that has not been initialised, alone on a remote that has not been called. -/
def alone (setup : Setup κ) (agents : κ) (interposer : φ) (pages : α) :
    Endpoint (Interposed κ φ α) :=
  { buffer := none, world := .fresh (.initial setup agents interposer pages) }

variable {setup : Setup κ}

/-- The remote and the endpoint stay in step, and the remote has taken down the calls that the
history tells of. -/
theorem inStep_afterAll (hreports : setup.Reports) (interposer : Interposer φ)
    (allocate : UInt64 → α → Option Region × α) (release : Region → α → α) (agents : κ) (memory : φ)
    (pages : α) (operations : List Operation) :
    let now := afterAll (interposedPlatform setup interposer allocate release)
      (alone setup agents memory pages) operations
    InStep Interposed.registered now ∧
      now.world.state.carried = History.served now.world.history := by
  have hregisters := registers_interposedPlatform interposer allocate release hreports
  have hcarried := carried_invariant interposer allocate release hreports
  refine afterAll_of_after (P := fun endpoint : Endpoint (Interposed κ φ α) =>
    InStep Interposed.registered endpoint ∧
      endpoint.world.state.carried = History.served endpoint.world.history)
    (fun endpoint operation hendpoint => ?_) ⟨⟨rfl, rfl⟩, rfl⟩ operations
  obtain ⟨hstep, hserved⟩ := hendpoint
  exact ⟨hstep.after hregisters operation,
    (after_of_invariant hcarried operation ⟨hstep.history, hserved⟩).2⟩

/-- Whatever is refused and whatever the allocator does, after every operation of an endpoint that
is alone on a remote, the remote has the address of its buffer registered exactly while the endpoint
has one. Every call through the shared memory is made while the endpoint's own buffer is registered,
and traffic on an endpoint that is not initialised does nothing at all. The remote is assumed not to
refuse to set the shared memory with the code that means success. -/
theorem registered_iff_initialized (hreports : setup.Reports) (interposer : Interposer φ)
    (allocate : UInt64 → α → Option Region × α) (release : Region → α → α) (agents : κ) (memory : φ)
    (pages : α) (operations : List Operation) (next : Operation) :
    let platform := interposedPlatform setup interposer allocate release
    let before := afterAll platform (alone setup agents memory pages) operations
    let now := Endpoint.after platform before next
    now.world.state.registered = now.buffer.map (·.region.address) ∧
      (∃ calls, now.world.state.carried = calls ++ before.world.state.carried ∧
        ∀ call ∈ calls, ∃ buffer, before.buffer = some buffer ∧
          call.2 = some buffer.region.address) ∧
      (next.isTraffic = true → before.isInitialized = false → now = before) := by
  intro platform before now
  obtain ⟨hbefore, hbeforeServed⟩ :=
    inStep_afterAll hreports interposer allocate release agents memory pages operations
  obtain ⟨hnow, hnowServed⟩ :=
    inStep_afterAll hreports interposer allocate release agents memory pages (operations ++ [next])
  rw [afterAll, List.foldl_append] at hnow hnowServed
  refine ⟨hnow.registered_eq, ?_, ?_⟩
  · obtain ⟨calls, hserved, hcalls⟩ := served_after platform next before
    refine ⟨calls, ?_, ?_⟩
    · rw [hbeforeServed]
      exact hnowServed.trans hserved
    · intro call hcall
      obtain ⟨hsome, hregistered⟩ := hcalls call hcall
      obtain ⟨buffer, hbuffer⟩ := Option.isSome_iff_exists.1 hsome
      refine ⟨buffer, hbuffer, ?_⟩
      rw [hregistered, hbefore.buffer, hbuffer]
      rfl
  · intro htraffic hinitialized
    have hbuffer : before.buffer = none := Option.not_isSome_iff_eq_none.1 (by
      rw [show before.buffer.isSome = false from hinitialized]
      exact Bool.false_ne_true)
    exact after_eq_self htraffic hbuffer

/-- The first registration is refused; the second is not, and the message that follows goes through
the registered buffer. -/
theorem registered_after_refusal :
    let platform := interposedPlatform Setup.echoing .refusing Heap.allocate Heap.release
    let before := afterAll platform (alone Setup.echoing () [true] Heap.fresh) [.init, .init]
    let now := Endpoint.after platform before (.send ⟨1⟩ 7 [1, 2] 8)
    Setup.echoing.Reports ∧ before.isInitialized = true ∧
      now.world.state.registered = some 0x3000 ∧
      ∃ calls, now.world.state.carried = calls ++ before.world.state.carried ∧
        ∀ call ∈ calls, call.2 = some 0x3000 := by
  obtain ⟨hregistered, ⟨calls, hcarried, hcalls⟩, -⟩ :=
    registered_iff_initialized Setup.reports_echoing .refusing Heap.allocate Heap.release () [true]
      Heap.fresh [.init, .init] (.send ⟨1⟩ 7 [1, 2] 8)
  dsimp only
  refine ⟨Setup.reports_echoing, by decide, hregistered.trans (by decide), calls, hcarried, ?_⟩
  intro call hcall
  obtain ⟨buffer, hbuffer, haddress⟩ := hcalls call hcall
  have hregion : some buffer = some ⟨⟨0x3000, 2, 0x3000⟩, 4096⟩ := hbuffer.symm.trans (by decide)
  rw [haddress, Option.some.inj hregion]

end Endpoint

end MessageProxy
