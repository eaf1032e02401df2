import MessageProxy.Proofs.History

/-!
What initialising an endpoint, tearing it down and dropping it can do.

Each step of initialising is an equation about its run. `Initialising` lists the four ways in which
initialising ends on an endpoint without a buffer, and what it has done to the world by then.
-/

namespace MessageProxy

theorem Return.eq_success_of_toExcept {answer : Return} {value : UInt64}
    (hanswer : answer.toExcept = .ok value) : answer = .success value := by
  unfold Return.toExcept at hanswer
  split at hanswer
  · cases hanswer
    rename_i herror
    cases answer
    cases herror
    rfl
  · cases hanswer

namespace Endpoint

variable {σ α : Type} {platform : Platform σ}

theorem toNat_pagesFor (size : UInt64) : (pagesFor size).toNat = size.toNat / 4096 + 1 := by
  have hbound := size.toNat_lt
  unfold pagesFor pageSize
  rw [UInt64.toNat_add, UInt64.toNat_div]
  have hpage : (4096 : UInt64).toNat = 4096 := rfl
  have hone : (1 : UInt64).toNat = 1 := rfl
  rw [hpage, hone]
  omega

/-- The pages that are asked for have room for more than the size. -/
theorem lt_toNat_pagesFor (size : UInt64) :
    size.toNat < (pagesFor size).toNat * pageSize.toNat := by
  rw [toNat_pagesFor]
  change size.toNat < (size.toNat / 4096 + 1) * 4096
  omega

theorem run_probe (extension : UInt64) (world : World σ) :
    (Supervisor.probe platform extension).run world =
      match (world.answer platform (.probe extension)).toExcept with
      | .ok value =>
        (.ok (value != 0),
          (world.called platform (.probe extension)).noted (.probed extension value))
      | .error status => (.error status, world.called platform (.probe extension)) := by
  unfold Supervisor.probe
  rw [run_bind, run_request]
  cases (world.answer platform (.probe extension)).toExcept with
  | ok value => rfl
  | error status => rfl

theorem run_requireMessageProxy (endpoint : Endpoint σ) :
    (requireMessageProxy platform).run endpoint =
      let asked := endpoint.world.called platform (.probe Extension.messageProxy)
      match (endpoint.world.answer platform (.probe Extension.messageProxy)).toExcept with
      | .ok value =>
        let probed := asked.noted (.probed Extension.messageProxy value)
        if value = 0 then
          (.error .unsupported, { endpoint with world := probed.noted (.refused .noMessageProxy) })
        else (.ok (), { endpoint with world := probed })
      | .error _ =>
        (.error .unsupported,
          { endpoint with world := asked.noted (.refused .noMessageProxy) }) := by
  unfold requireMessageProxy
  simp only [run_bind, run_lift_world, run_probe]
  cases (endpoint.world.answer platform (.probe Extension.messageProxy)).toExcept with
  | error status => rfl
  | ok value =>
    by_cases hvalue : value = 0
    · subst hvalue
      rfl
    · have hpresent : (value != 0) = true := bne_iff_ne.2 hvalue
      simp only [hpresent, if_neg hvalue, run_pure]

theorem run_querySize (endpoint : Endpoint σ) :
    (querySize platform).run endpoint =
      let asked := endpoint.world.called platform .sharedMemorySize
      match (endpoint.world.answer platform .sharedMemorySize).toExcept with
      | .ok size =>
        if size = 0 then (.error .deviceError, { endpoint with world := asked })
        else (.ok size, { endpoint with world := asked })
      | .error status =>
        (.error .deviceError,
          { endpoint with world := asked.noted (.sizeQueryFailed status) }) := by
  unfold querySize
  simp only [run_bind, run_lift_world, run_request]
  cases (endpoint.world.answer platform .sharedMemorySize).toExcept with
  | error status => rfl
  | ok size =>
    by_cases hsize : size = 0
    · simp only [if_pos hsize, run_throw]
    · simp only [if_neg hsize, run_pure]

theorem run_register (region : Region) (endpoint : Endpoint σ) :
    (register platform region).run endpoint =
      let answer := endpoint.world.answer platform (.registerMemory region.address)
      let called := endpoint.world.called platform (.registerMemory region.address)
      if answer.error = 0 then (.ok (), { endpoint with world := called })
      else
        let failure := Notice.registrationFailed (.ofStatus (.ofCode answer.error))
        (.error .deviceError,
          { endpoint with world := (called.noted failure).freed platform region }) := by
  unfold register
  simp only [run_bind, run_lift_world, run_command, Return.toExcept]
  by_cases hanswer :
      (endpoint.world.answer platform (.registerMemory region.address)).error = 0
  · simp only [if_pos hanswer, Except.map, run_pure]
  · simp only [if_neg hanswer, Except.map, run_bind, run_note, run_lift_world, run_throw]
    rfl

theorem run_init_of_some {endpoint : Endpoint σ} {buffer : SharedBuffer}
    (hbuffer : endpoint.buffer = some buffer) :
    (init platform).run endpoint = (.ok (), endpoint) := by
  unfold init
  simp only [run_bind, run_get, isInitialized, hbuffer, Option.isSome_some, if_true, run_pure]

theorem run_init_of_none {endpoint : Endpoint σ} (hbuffer : endpoint.buffer = none) :
    (init platform).run endpoint =
      (do
        requireMessageProxy platform
        let size ← querySize platform
        match ← World.allocate platform (pagesFor size) with
        | none => throw .outOfResources
        | some region =>
          register platform region
          note (.registered region.address size (pagesFor size))
          modify ({ · with buffer := some { region, size } }) : Action σ Unit).run endpoint := by
  obtain ⟨_, world⟩ := endpoint
  cases hbuffer
  rfl

theorem run_deinit_of_none {endpoint : Endpoint σ} (hbuffer : endpoint.buffer = none) :
    (deinit platform).run endpoint = (.error .invalidParameter, endpoint) :=
  run_withBuffer_none hbuffer _ _

theorem run_deinit_of_some {endpoint : Endpoint σ} {buffer : SharedBuffer}
    (hbuffer : endpoint.buffer = some buffer) :
    (deinit platform).run endpoint =
      let answer := endpoint.world.answer platform .deregisterMemory
      let called := endpoint.world.called platform .deregisterMemory
      if answer.error = 0 then
        (.ok (), { buffer := none, world := (called.freed platform buffer.region).noted .released })
      else
        let failure := Notice.deregistrationFailed (.ofStatus (.ofCode answer.error))
        (.error .deviceError, { endpoint with world := called.noted failure }) := by
  rw [deinit, run_withBuffer hbuffer]
  simp only [run_bind, run_lift_world, run_command, Return.toExcept]
  by_cases hanswer : (endpoint.world.answer platform .deregisterMemory).error = 0
  · simp only [if_pos hanswer, Except.map, run_bind, run_modify, run_lift_world, run_note]
    rfl
  · simp only [if_neg hanswer, Except.map, run_bind, run_note, run_throw]

/-- Tearing an endpoint down takes its buffer away, or leaves it as it was. -/
theorem buffer_deinit (platform : Platform σ) (endpoint : Endpoint σ) :
    ((deinit platform).run endpoint).2.buffer = none ∨
      ((deinit platform).run endpoint).2.buffer = endpoint.buffer := by
  cases hbuffer : endpoint.buffer with
  | none =>
    rw [run_deinit_of_none hbuffer]
    exact .inl hbuffer
  | some buffer =>
    rw [run_deinit_of_some hbuffer]
    by_cases hanswer : (endpoint.world.answer platform .deregisterMemory).error = 0
    · simp only [if_pos hanswer, true_or]
    · simp only [if_neg hanswer, hbuffer, or_true]

/-- An event of finding out whether the firmware has a message proxy and which size it wants. -/
def Asks : Event → Prop
  | .called call _ => call = .probe Extension.messageProxy ∨ call = .sharedMemorySize
  | .noted _ => True
  | _ => False

/-- How initialising ends on an endpoint without a buffer, in a world that was `start` before. -/
inductive Initialising (platform : Platform σ) (start : World σ) :
    Except Fault Unit → Endpoint σ → Prop where
  /-- The firmware has no message proxy, or does not say how much memory it wants. -/
  | unanswered {fault : Fault} {world : World σ} (hasked : World.Since Asks start world) :
    Initialising platform start (.error fault) { buffer := none, world }
  /-- The allocator refuses. -/
  | outOfPages {size : UInt64} {world : World σ} (hasked : World.Since Asks start world)
      (hgrant : world.grant platform (pagesFor size) = none) :
    Initialising platform start (.error .outOfResources)
      { buffer := none, world := world.asked platform (pagesFor size) }
  /-- The firmware refuses to register the region, which is given back. -/
  | refused {size : UInt64} {world called : World σ} {region : Region} {notice : Notice}
      (hasked : World.Since Asks start world)
      (hgrant : world.grant platform (pagesFor size) = some region)
      (hcalled : called =
        (world.asked platform (pagesFor size)).called platform (.registerMemory region.address))
      (hanswer : ((world.asked platform (pagesFor size)).answer platform
        (.registerMemory region.address)).error ≠ 0) :
    Initialising platform start (.error .deviceError)
      { buffer := none, world := (called.noted notice).freed platform region }
  /-- The region is registered and becomes the endpoint's buffer. -/
  | registered {size : UInt64} {asking world called : World σ} {region : Region} {notice : Notice}
      (hasked : World.Since Asks start world) (hsize : size ≠ 0)
      (hanswered : asking.answer platform .sharedMemorySize = .success size)
      (hgrant : world.grant platform (pagesFor size) = some region)
      (hcalled : called =
        (world.asked platform (pagesFor size)).called platform (.registerMemory region.address))
      (hanswer : ((world.asked platform (pagesFor size)).answer platform
        (.registerMemory region.address)).error = 0) :
    Initialising platform start (.ok ())
      { buffer := some { region, size }, world := called.noted notice }

theorem initialising (platform : Platform σ) {endpoint : Endpoint σ}
    (hbuffer : endpoint.buffer = none) :
    Initialising platform endpoint.world ((init platform).run endpoint).1
      ((init platform).run endpoint).2 := by
  obtain ⟨_, start⟩ := endpoint
  cases hbuffer
  have hprobed : World.Since Asks start
      (start.called platform (.probe Extension.messageProxy)) :=
    (World.Since.refl start).called (.inl rfl)
  rw [run_init_of_none rfl]
  simp only [run_bind, run_requireMessageProxy]
  cases (start.answer platform (.probe Extension.messageProxy)).toExcept with
  | error status => exact .unanswered (hprobed.noted trivial)
  | ok value =>
    by_cases hvalue : value = 0
    · simp only [if_pos hvalue]
      exact .unanswered ((hprobed.noted trivial).noted trivial)
    · simp only [if_neg hvalue, run_querySize]
      have hqueried : World.Since Asks start
          (((start.called platform (.probe Extension.messageProxy)).noted
            (.probed Extension.messageProxy value)).called platform .sharedMemorySize) :=
        (hprobed.noted trivial).called (.inr rfl)
      generalize (start.called platform (.probe Extension.messageProxy)).noted
        (.probed Extension.messageProxy value) = asking at hqueried ⊢
      cases hanswered : (asking.answer platform .sharedMemorySize).toExcept with
      | error status => exact .unanswered (hqueried.noted trivial)
      | ok size =>
        by_cases hsize : size = 0
        · simp only [if_pos hsize]
          exact .unanswered hqueried
        · simp only [if_neg hsize, run_allocate]
          have hsuccess := Return.eq_success_of_toExcept hanswered
          cases hgrant : (asking.called platform .sharedMemorySize).grant platform
            (pagesFor size) with
          | none => exact .outOfPages hqueried hgrant
          | some region =>
            simp only [run_bind, run_register]
            by_cases hanswer : (((asking.called platform .sharedMemorySize).asked platform
              (pagesFor size)).answer platform (.registerMemory region.address)).error = 0
            · simp only [if_pos hanswer]
              exact .registered hqueried hsize hsuccess hgrant rfl hanswer
            · simp only [if_neg hanswer]
              exact .refused hqueried hgrant rfl hanswer

section Invariant

variable {P : World σ → Prop} (hinvariant : World.Invariant platform P)

include hinvariant

theorem keeps_requireMessageProxy :
    Keeps (fun endpoint => P endpoint.world) (requireMessageProxy platform) := by
  intro endpoint hworld
  have hcalled := hinvariant.called _ (.probe Extension.messageProxy) hworld
  rw [run_requireMessageProxy]
  cases (endpoint.world.answer platform (.probe Extension.messageProxy)).toExcept with
  | error status => exact hinvariant.noted _ _ hcalled
  | ok value =>
    have hprobed := hinvariant.noted _ (.probed Extension.messageProxy value) hcalled
    by_cases hvalue : value = 0
    · simp only [if_pos hvalue]
      exact hinvariant.noted _ _ hprobed
    · simp only [if_neg hvalue]
      exact hprobed

theorem keeps_querySize :
    Keeps (fun endpoint => P endpoint.world) (querySize platform) := by
  intro endpoint hworld
  have hcalled := hinvariant.called _ .sharedMemorySize hworld
  rw [run_querySize]
  cases (endpoint.world.answer platform .sharedMemorySize).toExcept with
  | error status => exact hinvariant.noted _ _ hcalled
  | ok size =>
    by_cases hsize : size = 0
    · simp only [if_pos hsize]
      exact hcalled
    · simp only [if_neg hsize]
      exact hcalled

theorem keeps_register (region : Region) :
    Keeps (fun endpoint => P endpoint.world) (register platform region) := by
  intro endpoint hworld
  have hcalled := hinvariant.called _ (.registerMemory region.address) hworld
  rw [run_register]
  by_cases hanswer :
      (endpoint.world.answer platform (.registerMemory region.address)).error = 0
  · simp only [if_pos hanswer]
    exact hcalled
  · simp only [if_neg hanswer]
    exact hinvariant.freed _ _ (hinvariant.noted _ _ hcalled)

theorem keeps_init : Keeps (fun endpoint => P endpoint.world) (init platform) := by
  intro endpoint hworld
  cases hbuffer : endpoint.buffer with
  | some buffer =>
    rw [run_init_of_some hbuffer]
    exact hworld
  | none =>
    rw [run_init_of_none hbuffer]
    refine Keeps.bind (keeps_requireMessageProxy hinvariant) (fun _ => ?_) endpoint hworld
    refine .bind (keeps_querySize hinvariant) fun size => ?_
    refine .bind (fun asking hasking => hinvariant.asked _ _ hasking) fun granted => ?_
    cases granted with
    | none => exact .throw _
    | some region =>
      refine .bind (keeps_register hinvariant region) fun _ => ?_
      refine .bind (fun noting hnoting => hinvariant.noted _ _ hnoting) fun _ => ?_
      exact fun _ hregistered => hregistered

theorem keeps_deinit : Keeps (fun endpoint => P endpoint.world) (deinit platform) := by
  intro endpoint hworld
  cases hbuffer : endpoint.buffer with
  | none =>
    rw [run_deinit_of_none hbuffer]
    exact hworld
  | some buffer =>
    have hcalled := hinvariant.called _ .deregisterMemory hworld
    rw [run_deinit_of_some hbuffer]
    by_cases hanswer : (endpoint.world.answer platform .deregisterMemory).error = 0
    · simp only [if_pos hanswer]
      exact hinvariant.noted _ _ (hinvariant.freed _ _ hcalled)
    · simp only [if_neg hanswer]
      exact hinvariant.noted _ _ hcalled

/-- What every effect keeps, every operation keeps. -/
theorem after_of_invariant (operation : Operation) {endpoint : Endpoint σ}
    (hworld : P endpoint.world) : P (after platform endpoint operation).world := by
  cases htraffic : operation.isTraffic with
  | true =>
    cases hbuffer : endpoint.buffer with
    | none =>
      rw [after_eq_self htraffic hbuffer]
      exact hworld
    | some buffer =>
      exact (keeps_perform htraffic (hinvariant.steady buffer _) endpoint ⟨hbuffer, hworld⟩).2
  | false =>
    unfold after
    cases operation with
    | init =>
      rw [Operation.perform, run_map]
      exact keeps_init hinvariant endpoint hworld
    | deinit =>
      rw [Operation.perform, run_map]
      exact keeps_deinit hinvariant endpoint hworld
    | _ => cases htraffic

end Invariant

end Endpoint

end MessageProxy
