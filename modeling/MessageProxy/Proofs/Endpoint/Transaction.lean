import MessageProxy.Proofs.Endpoint.Alone

/-!
Setting the shared buffer up and tearing it down as transactions.

What an attempt comes to is a function of what the firmware and the allocator say when they are
asked, one after the other. An attempt that fails leaves the endpoint as it was, and has given back
whatever it was given.
-/

namespace MessageProxy

namespace Event

/-- The region of an event that hands one out. -/
def granted? : Event → Option Region
  | allocated _ region => region
  | _ => none

/-- The region of an event that gives one back. -/
def released? : Event → Option Region
  | released region => some region
  | _ => none

end Event

namespace Endpoint

/-- How an attempt to set the buffer up or to tear it down ends, the buffer that is there then, and
what was done. -/
structure Attempt where
  outcome : Except Fault Unit
  buffer : Option SharedBuffer
  deeds : List Event

/-- The regions that an attempt was given. -/
def Attempt.granted (attempt : Attempt) : List Region :=
  attempt.deeds.filterMap Event.granted?

/-- The regions that an attempt has given back. -/
def Attempt.released (attempt : Attempt) : List Region :=
  attempt.deeds.filterMap Event.released?

/-- What the firmware and the allocator say to an endpoint that is being set up, each when it is
asked in its turn. -/
structure Offers where
  probe : Return
  size : Return
  region : Option Region
  registration : Region → Return

/-- Each step is taken when the one before it went well. -/
def Offers.setUp (offers : Offers) : Attempt :=
  let probed := Event.called (.probe Extension.messageProxy) offers.probe
  let sized := Event.called .sharedMemorySize offers.size
  let pages := pagesFor offers.size.value
  if offers.probe.error ≠ 0 ∨ offers.probe.value = 0 then
    { outcome := .error .unsupported, buffer := none, deeds := [probed] }
  else if offers.size.error ≠ 0 ∨ offers.size.value = 0 then
    { outcome := .error .deviceError, buffer := none, deeds := [probed, sized] }
  else match offers.region with
    | none =>
      { outcome := .error .outOfResources, buffer := none
        deeds := [probed, sized, .allocated pages none] }
    | some region =>
      let answer := offers.registration region
      let registered := Event.called (.registerMemory region.address) answer
      if answer.error ≠ 0 then
        { outcome := .error .deviceError, buffer := none
          deeds := [probed, sized, .allocated pages (some region), registered, .released region] }
      else
        { outcome := .ok (), buffer := some { region, size := offers.size.value }
          deeds := [probed, sized, .allocated pages (some region), registered] }

/-- A buffer stays until the firmware has agreed to let it go. -/
def tearDown (buffer : SharedBuffer) (answer : Return) : Attempt :=
  let deregistered := Event.called .deregisterMemory answer
  if answer.error ≠ 0 then
    { outcome := .error .deviceError, buffer := some buffer, deeds := [deregistered] }
  else
    { outcome := .ok (), buffer := none, deeds := [deregistered, .released buffer.region] }

/-- An attempt that fails leaves no buffer, and everything it was given has been given back. -/
theorem Offers.setUp_of_error {offers : Offers} {fault : Fault}
    (hfault : offers.setUp.outcome = .error fault) :
    offers.setUp.buffer = none ∧ offers.setUp.granted = offers.setUp.released := by
  unfold setUp at hfault ⊢
  by_cases hprobe : offers.probe.error ≠ 0 ∨ offers.probe.value = 0
  · rw [if_pos hprobe]
    exact ⟨rfl, rfl⟩
  by_cases hsize : offers.size.error ≠ 0 ∨ offers.size.value = 0
  · rw [if_neg hprobe, if_pos hsize]
    exact ⟨rfl, rfl⟩
  simp only [if_neg hprobe, if_neg hsize] at hfault ⊢
  cases hregion : offers.region with
  | none => exact ⟨rfl, rfl⟩
  | some region =>
    rw [hregion] at hfault
    by_cases hanswer : (offers.registration region).error ≠ 0
    · dsimp only
      rw [if_pos hanswer]
      exact ⟨rfl, rfl⟩
    · simp [hanswer] at hfault

/-- An attempt that succeeds makes the one region it was given the buffer, with the size that the
firmware said. -/
theorem Offers.setUp_of_ok {offers : Offers} (hok : offers.setUp.outcome = .ok ()) :
    ∃ region, offers.setUp.buffer = some { region, size := offers.size.value } ∧
      offers.setUp.granted = [region] ∧ offers.setUp.released = [] := by
  unfold setUp at hok ⊢
  by_cases hprobe : offers.probe.error ≠ 0 ∨ offers.probe.value = 0
  · simp [hprobe] at hok
  by_cases hsize : offers.size.error ≠ 0 ∨ offers.size.value = 0
  · simp [hprobe, hsize] at hok
  simp only [if_neg hprobe, if_neg hsize] at hok ⊢
  cases hregion : offers.region with
  | none => simp [hregion] at hok
  | some region =>
    rw [hregion] at hok
    by_cases hanswer : (offers.registration region).error ≠ 0
    · simp [hanswer] at hok
    · refine ⟨region, ?_⟩
      dsimp only
      rw [if_neg hanswer]
      exact ⟨rfl, rfl, rfl⟩

theorem tearDown_of_error {buffer : SharedBuffer} {answer : Return} {fault : Fault}
    (hfault : (tearDown buffer answer).outcome = .error fault) :
    (tearDown buffer answer).buffer = some buffer ∧ (tearDown buffer answer).released = [] := by
  unfold tearDown at hfault ⊢
  by_cases hanswer : answer.error ≠ 0
  · rw [if_pos hanswer]
    exact ⟨rfl, rfl⟩
  · simp [hanswer] at hfault

theorem tearDown_of_ok {buffer : SharedBuffer} {answer : Return}
    (hok : (tearDown buffer answer).outcome = .ok ()) :
    (tearDown buffer answer).buffer = none ∧
      (tearDown buffer answer).released = [buffer.region] := by
  unfold tearDown at hok ⊢
  by_cases hanswer : answer.error ≠ 0
  · simp [hanswer] at hok
  · rw [if_neg hanswer]
    exact ⟨rfl, rfl⟩

variable {σ : Type} {platform : Platform σ}

/-- What a platform says, from a world on. -/
def offers (platform : Platform σ) (world : World σ) : Offers :=
  let probed := world.called platform (.probe Extension.messageProxy)
  let sized := probed.called platform .sharedMemorySize
  let size := probed.answer platform .sharedMemorySize
  let asked := sized.asked platform (pagesFor size.value)
  { probe := world.answer platform (.probe Extension.messageProxy), size
    region := sized.grant platform (pagesFor size.value)
    registration := fun region => asked.answer platform (.registerMemory region.address) }

/-- A run from `endpoint` comes to what the attempt says. -/
structure ComesTo (endpoint : Endpoint σ) (run : Except Fault Unit × Endpoint σ)
    (attempt : Attempt) : Prop where
  outcome : run.1 = attempt.outcome
  buffer : run.2.buffer = attempt.buffer
  deeds : run.2.world.deeds = endpoint.world.deeds ++ attempt.deeds

section SetUp

variable (endpoint : Endpoint σ)

theorem requireMessageProxy_declined
    (hanswer : (endpoint.world.answer platform (.probe Extension.messageProxy)).error ≠ 0 ∨
      (endpoint.world.answer platform (.probe Extension.messageProxy)).value = 0) :
    ∃ world, (requireMessageProxy platform).run endpoint =
        (.error .unsupported, { endpoint with world }) ∧
      world.deeds = (endpoint.world.called platform (.probe Extension.messageProxy)).deeds := by
  rw [run_requireMessageProxy, Return.toExcept]
  by_cases herror : (endpoint.world.answer platform (.probe Extension.messageProxy)).error = 0
  · have hvalue := hanswer.resolve_left fun hfailed => hfailed herror
    simp only [if_pos herror, if_pos hvalue]
    exact ⟨_, rfl, by simp⟩
  · simp only [if_neg herror]
    exact ⟨_, rfl, by simp⟩

theorem requireMessageProxy_offered
    (herror : (endpoint.world.answer platform (.probe Extension.messageProxy)).error = 0)
    (hvalue : (endpoint.world.answer platform (.probe Extension.messageProxy)).value ≠ 0) :
    ∃ notice, (requireMessageProxy platform).run endpoint =
      (.ok (), { endpoint with world :=
        (endpoint.world.called platform (.probe Extension.messageProxy)).noted notice }) := by
  rw [run_requireMessageProxy, Return.toExcept]
  simp only [if_pos herror, if_neg hvalue]
  exact ⟨_, rfl⟩

theorem querySize_declined
    (hanswer : (endpoint.world.answer platform .sharedMemorySize).error ≠ 0 ∨
      (endpoint.world.answer platform .sharedMemorySize).value = 0) :
    ∃ world, (querySize platform).run endpoint = (.error .deviceError, { endpoint with world }) ∧
      world.deeds = (endpoint.world.called platform .sharedMemorySize).deeds := by
  rw [run_querySize, Return.toExcept]
  by_cases herror : (endpoint.world.answer platform .sharedMemorySize).error = 0
  · have hvalue := hanswer.resolve_left fun hfailed => hfailed herror
    simp only [if_pos herror, if_pos hvalue]
    exact ⟨_, rfl, rfl⟩
  · simp only [if_neg herror]
    exact ⟨_, rfl, by simp⟩

theorem querySize_offered
    (herror : (endpoint.world.answer platform .sharedMemorySize).error = 0)
    (hvalue : (endpoint.world.answer platform .sharedMemorySize).value ≠ 0) :
    (querySize platform).run endpoint =
      (.ok (endpoint.world.answer platform .sharedMemorySize).value,
        { endpoint with world := endpoint.world.called platform .sharedMemorySize }) := by
  rw [run_querySize, Return.toExcept]
  simp only [if_pos herror, if_neg hvalue]

variable {endpoint}

/-- Setting up runs as it is described. What is logged in between is heard by nobody. -/
theorem comesTo_setUp (platform : Platform σ) (hbuffer : endpoint.buffer = none) :
    ComesTo endpoint ((init platform).run endpoint)
      (offers platform endpoint.world).setUp := by
  obtain ⟨_, start⟩ := endpoint
  cases hbuffer
  rw [run_init_of_none rfl, Offers.setUp, run_bind]
  by_cases hprobe : (offers platform start).probe.error ≠ 0 ∨
    (offers platform start).probe.value = 0
  · obtain ⟨world, hrun, hdeeds⟩ := requireMessageProxy_declined ⟨none, start⟩ hprobe
    rw [hrun, if_pos hprobe]
    exact ⟨rfl, rfl, hdeeds.trans (World.deeds_called ..)⟩
  obtain ⟨hprobed, hpresent⟩ := not_or.1 hprobe
  obtain ⟨notice, hrun⟩ :=
    requireMessageProxy_offered ⟨none, start⟩ (Decidable.not_not.1 hprobed) hpresent
  rw [hrun, if_neg hprobe]
  let probed := (start.called platform (.probe Extension.messageProxy)).noted notice
  let sized := probed.called platform .sharedMemorySize
  have hsizedDeeds : sized.deeds = start.deeds ++
      [.called (.probe Extension.messageProxy) (offers platform start).probe,
        .called .sharedMemorySize (offers platform start).size] := by
    simp only [sized, probed, World.deeds_called, World.deeds_noted, List.append_assoc]
    rfl
  dsimp only
  rw [run_bind]
  by_cases hsize : (offers platform start).size.error ≠ 0 ∨
    (offers platform start).size.value = 0
  · obtain ⟨world, hrun, hdeeds⟩ := querySize_declined (⟨none, probed⟩ : Endpoint σ) hsize
    rw [hrun, if_pos hsize]
    exact ⟨rfl, rfl, hdeeds.trans hsizedDeeds⟩
  obtain ⟨hanswered, hwanted⟩ := not_or.1 hsize
  have hquery : (querySize platform).run ⟨none, probed⟩ =
      (.ok (offers platform start).size.value, ⟨none, sized⟩) :=
    querySize_offered ⟨none, probed⟩ (Decidable.not_not.1 hanswered) hwanted
  have hgrant : sized.grant platform (pagesFor (offers platform start).size.value) =
    (offers platform start).region := rfl
  rw [hquery, if_neg hsize]
  dsimp only
  rw [run_bind, run_allocate, hgrant]
  let asked := sized.asked platform (pagesFor (offers platform start).size.value)
  cases hregion : (offers platform start).region with
  | none =>
    refine ⟨rfl, rfl, ?_⟩
    change asked.deeds = _
    rw [World.deeds_asked, hsizedDeeds, hgrant, hregion, List.append_assoc]
    rfl
  | some region =>
    dsimp only
    let registered := asked.called platform (.registerMemory region.address)
    have hregisteredDeeds : registered.deeds = start.deeds ++
        [.called (.probe Extension.messageProxy) (offers platform start).probe,
          .called .sharedMemorySize (offers platform start).size,
          .allocated (pagesFor (offers platform start).size.value) (some region),
          .called (.registerMemory region.address)
            ((offers platform start).registration region)] := by
      simp only [registered, asked, World.deeds_called, World.deeds_asked, hsizedDeeds, hgrant,
        hregion, List.append_assoc]
      rfl
    rw [run_bind]
    by_cases hanswer : ((offers platform start).registration region).error = 0
    · have hregister : (register platform region).run ⟨none, asked⟩ =
          (.ok (), ⟨none, registered⟩) :=
        (run_register region _).trans (if_pos hanswer)
      rw [hregister, if_neg (not_not_intro hanswer)]
      refine ⟨rfl, rfl, ?_⟩
      exact (World.deeds_noted _ _).trans hregisteredDeeds
    · obtain ⟨failure, hregister⟩ : ∃ failure, (register platform region).run ⟨none, asked⟩ =
          (.error .deviceError, ⟨none, (registered.noted failure).freed platform region⟩) :=
        ⟨_, (run_register region _).trans (if_neg hanswer)⟩
      rw [hregister, if_pos hanswer]
      refine ⟨rfl, rfl, ?_⟩
      change ((registered.noted failure).freed platform region).deeds = _
      rw [World.deeds_freed, World.deeds_noted, hregisteredDeeds, List.append_assoc]
      rfl

theorem comesTo_tearDown (platform : Platform σ) {buffer : SharedBuffer}
    (hbuffer : endpoint.buffer = some buffer) :
    ComesTo endpoint ((deinit platform).run endpoint)
      (tearDown buffer (endpoint.world.answer platform .deregisterMemory)) := by
  rw [run_deinit_of_some hbuffer, tearDown]
  by_cases hanswer : (endpoint.world.answer platform .deregisterMemory).error = 0
  · rw [if_neg (not_not_intro hanswer)]
    simp only [if_pos hanswer]
    refine ⟨rfl, rfl, ?_⟩
    simp
  · rw [if_pos hanswer]
    simp only [if_neg hanswer]
    refine ⟨rfl, hbuffer, ?_⟩
    simp

end SetUp

end Endpoint

end MessageProxy
