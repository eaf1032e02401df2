import MessageProxy.Proofs.Endpoint.Failure
import MessageProxy.Proofs.Endpoint.Lifecycle
import MessageProxy.SoftwareEvent

/-!
Calls that are made one after the other, up to and including the first that is refused.

An action that attempts a sequence of calls does nothing else but to log, so what it has done when
it fails can be read off the sequence: the calls before the one that was refused, and that one.
-/

namespace MessageProxy

/-- What keeps the next call from being made: the failure that the answer stands for, or that the
firmware does not have software events. -/
def Call.refusal (call : Call) (answer : Return) : Option Fault :=
  if answer.error ≠ 0 then some answer.fault
  else if call = .probe Extension.softwareEvents ∧ answer.value = 0 then
    some (.ofStatus .notSupported)
  else none

namespace Call

theorem refusal_of_ne {answer : Return} (herror : answer.error ≠ 0) (call : Call) :
    call.refusal answer = some answer.fault :=
  if_pos herror

/-- Only the question for software events can be refused by what it is answered with. -/
theorem refusal_of_extension_ne {call : Call} (hcall : call.extension ≠ Extension.base)
    {answer : Return} (herror : answer.error = 0) : call.refusal answer = none := by
  have hprobe : call ≠ probe Extension.softwareEvents := by
    rintro rfl
    exact hcall rfl
  rw [refusal, if_neg (not_not_intro herror), if_neg fun hasks => hprobe hasks.1]

theorem refusal_of_eq {call : Call} (hcall : call.extension = Extension.softwareEvents)
    {answer : Return} (herror : answer.error = 0) : call.refusal answer = none := by
  refine refusal_of_extension_ne ?_ herror
  rw [hcall]
  decide

theorem refusal_probe {answer : Return} (herror : answer.error = 0) :
    (probe Extension.softwareEvents).refusal answer =
      if answer.value = 0 then some (.ofStatus .notSupported) else none := by
  rw [refusal, if_neg (not_not_intro herror)]
  simp only [true_and]

/-- Only the question for software events is refused when it is answered. -/
theorem eq_probe_of_refusal {call : Call} {answer : Return} {fault : Fault}
    (hrefusal : call.refusal answer = some fault) (herror : answer.error = 0) :
    call = .probe Extension.softwareEvents := by
  rw [refusal, if_neg (not_not_intro herror)] at hrefusal
  split at hrefusal
  · rename_i hprobe
    exact hprobe.1
  · cases hrefusal

theorem error_of_refusal {call : Call} {answer : Return} (hrefusal : call.refusal answer = none) :
    answer.error = 0 := by
  by_cases herror : answer.error = 0
  · exact herror
  · rw [refusal_of_ne herror] at hrefusal
    cases hrefusal

end Call

variable {σ α β : Type} {platform : Platform σ}

namespace World

/-- Makes the calls up to and including the first that is refused. -/
def attempt (platform : Platform σ) : List Call → World σ → Except Fault Unit × World σ
  | [], world => (.ok (), world)
  | call :: rest, world =>
    match call.refusal (world.answer platform call) with
    | some fault => (.error fault, world.called platform call)
    | none => attempt platform rest (world.called platform call)

theorem attempt_append (first second : List Call) (world : World σ) :
    attempt platform (first ++ second) world = match attempt platform first world with
      | (.ok _, middle) => attempt platform second middle
      | (.error fault, middle) => (.error fault, middle) := by
  induction first generalizing world with
  | nil => rfl
  | cons call rest ih =>
    rw [List.cons_append, attempt, attempt]
    cases call.refusal (world.answer platform call) with
    | some fault => rfl
    | none => exact ih _

/-- What comes of the calls does not depend on the log. -/
theorem Matches.attempt {world other : World σ} (hmatches : world.Matches other)
    (platform : Platform σ) (calls : List Call) :
    (other.attempt platform calls).1 = (world.attempt platform calls).1 ∧
      (world.attempt platform calls).2.Matches (other.attempt platform calls).2 := by
  induction calls generalizing world other with
  | nil => exact ⟨rfl, hmatches⟩
  | cons call rest ih =>
    have hcalled : (world.called platform call).Matches (other.called platform call) :=
      hmatches.called call
    rw [World.attempt, World.attempt, hmatches.answer_eq call]
    cases call.refusal (world.answer platform call) with
    | some fault => exact ⟨rfl, hcalled⟩
    | none => exact ih hcalled

/-- The events of calls with their answers. -/
def made (steps : List (Call × Return)) : List Event :=
  steps.map fun step => .called step.1 step.2

end World

/-- The steps are the calls of a plan with their answers, up to and including the first that is
refused, and the outcome is what that one is refused with. -/
inductive Pursues : List Call → List (Call × Return) → Except Fault Unit → Prop
  | completed : Pursues [] [] (.ok ())
  | refused {call : Call} {answer : Return} {fault : Fault}
      (hrefusal : call.refusal answer = some fault) (rest : List Call) :
      Pursues (call :: rest) [(call, answer)] (.error fault)
  | accepted {call : Call} {answer : Return} {rest : List Call} {steps : List (Call × Return)}
      {outcome : Except Fault Unit} (haccepted : call.refusal answer = none)
      (hrest : Pursues rest steps outcome) :
      Pursues (call :: rest) ((call, answer) :: steps) outcome

/-- Wherever the later call is among the steps, the earlier one stands before it and succeeded. -/
def Precedes (steps : List (Call × Return)) (earlier later : Call) : Prop :=
  ∀ front answer back, steps = front ++ (later, answer) :: back →
    ∃ accepted, (earlier, accepted) ∈ front ∧ accepted.error = 0

namespace Precedes

variable {steps : List (Call × Return)} {earlier later : Call}

theorem nil (earlier later : Call) : Precedes [] earlier later := by
  intro front answer back hsteps
  cases (List.nil_eq_append_iff.1 hsteps).2

/-- What a step in front of the others is not, it does not have to wait for. -/
theorem cons {step : Call × Return} (hne : step.1 ≠ later)
    (hprecedes : Precedes steps earlier later) : Precedes (step :: steps) earlier later := by
  intro front answer back hsteps
  cases front with
  | nil =>
    obtain ⟨rfl, -⟩ := List.cons.inj hsteps
    exact absurd rfl hne
  | cons head between =>
    obtain ⟨rfl, hbetween⟩ := List.cons.inj hsteps
    obtain ⟨accepted, hearlier, hanswer⟩ := hprecedes between answer back hbetween
    exact ⟨accepted, List.mem_cons_of_mem _ hearlier, hanswer⟩

/-- A call that succeeded before all others precedes them. -/
theorem head {answer : Return} (hanswer : answer.error = 0) (hne : earlier ≠ later) :
    Precedes ((earlier, answer) :: steps) earlier later := by
  intro front other back hsteps
  cases front with
  | nil =>
    obtain ⟨hsame, -⟩ := List.cons.inj hsteps
    exact absurd (congrArg Prod.fst hsame) hne
  | cons first between =>
    obtain ⟨rfl, -⟩ := List.cons.inj hsteps
    exact ⟨answer, List.mem_cons_self, hanswer⟩

end Precedes

namespace Pursues

variable {plan : List Call} {steps : List (Call × Return)} {outcome : Except Fault Unit}

/-- A failure is that of the last call, before which none was refused. -/
theorem of_error {fault : Fault} (hpursues : Pursues plan steps (.error fault)) :
    ∃ (before : List (Call × Return)) (call : Call) (answer : Return) (rest : List Call),
      plan = before.map Prod.fst ++ call :: rest ∧ steps = before ++ [(call, answer)] ∧
      (∀ step ∈ before, step.1.refusal step.2 = none) ∧ call.refusal answer = some fault := by
  generalize houtcome : Except.error fault = outcome at hpursues
  induction hpursues with
  | completed => cases houtcome
  | refused hrefusal rest =>
    obtain rfl := Except.error.inj houtcome
    exact ⟨[], _, _, rest, rfl, rfl, List.forall_mem_nil _, hrefusal⟩
  | accepted haccepted _ ih =>
    obtain ⟨before, call, answer, rest, hplan, hsteps, hbefore, hrefusal⟩ := ih houtcome
    refine ⟨_ :: before, call, answer, rest, ?_, congrArg _ hsteps,
      List.forall_mem_cons.2 ⟨haccepted, hbefore⟩, hrefusal⟩
    exact congrArg _ hplan

/-- Of a plan without repetitions each call is only made after all before it have succeeded. -/
theorem pairwise_precedes (hpursues : Pursues plan steps outcome) (hplan : plan.Nodup) :
    plan.Pairwise (Precedes steps) := by
  induction hpursues with
  | completed => exact .nil
  | refused _ rest =>
    obtain ⟨hfirst, hrest⟩ := List.nodup_cons.1 hplan
    refine List.pairwise_cons.2 ⟨fun later hlater => ?_, ?_⟩
    · exact .cons (ne_of_mem_of_not_mem hlater hfirst).symm (.nil _ _)
    · refine List.Pairwise.imp_of_mem (fun _ hlater _ => ?_) hrest
      exact .cons (ne_of_mem_of_not_mem hlater hfirst).symm (.nil _ _)
  | accepted haccepted _ ih =>
    obtain ⟨hfirst, hrest⟩ := List.nodup_cons.1 hplan
    refine List.pairwise_cons.2 ⟨fun later hlater => ?_, ?_⟩
    · exact .head (Call.error_of_refusal haccepted) (ne_of_mem_of_not_mem hlater hfirst).symm
    · refine List.Pairwise.imp_of_mem (fun _ hlater hprecedes => ?_) (ih hrest)
      exact .cons (ne_of_mem_of_not_mem hlater hfirst).symm hprecedes

end Pursues

namespace World

/-- Attempting the calls of a plan pursues it. -/
theorem pursues_attempt (platform : Platform σ) (plan : List Call) (world : World σ) :
    ∃ steps, Pursues plan steps (world.attempt platform plan).1 ∧
      (world.attempt platform plan).2.deeds = world.deeds ++ made steps := by
  induction plan generalizing world with
  | nil => exact ⟨[], .completed, (List.append_nil _).symm⟩
  | cons call rest ih =>
    have hdeeds := deeds_called platform world call
    rw [attempt]
    cases hrefusal : call.refusal (world.answer platform call) with
    | some fault => exact ⟨_, .refused hrefusal rest, hdeeds⟩
    | none =>
      obtain ⟨steps, hsteps, hmade⟩ := ih (world.called platform call)
      refine ⟨_, .accepted hrefusal hsteps, ?_⟩
      rw [hmade, hdeeds, List.append_assoc]
      rfl

/-- Where the calls end with a failure, the last of them was refused, and all before it were not. -/
theorem deeds_attempt_of_error {calls : List Call} {world : World σ} {fault : Fault}
    (hfails : (world.attempt platform calls).1 = .error fault) :
    ∃ (steps : List (Call × Return)) (call : Call) (answer : Return) (rest : List Call),
      calls = steps.map Prod.fst ++ call :: rest ∧
      (∀ step ∈ steps, step.1.refusal step.2 = none) ∧ call.refusal answer = some fault ∧
      (world.attempt platform calls).2.deeds = world.deeds ++ made (steps ++ [(call, answer)]) := by
  obtain ⟨steps, hpursues, hdeeds⟩ := pursues_attempt platform calls world
  rw [hfails] at hpursues
  obtain ⟨before, call, answer, rest, hcalls, rfl, hbefore, hrefusal⟩ := hpursues.of_error
  exact ⟨before, call, answer, rest, hcalls, hbefore, hrefusal, hdeeds⟩

end World

namespace Endpoint

/-- All that the action does is to make the calls up to and including the first that is refused,
and to log. If none is, it returns the value, and else it fails with what the call was refused
with. -/
def Attempts (platform : Platform σ) (calls : List Call) (action : Action σ α) (value : α) : Prop :=
  ∀ endpoint, ∃ last, action.run endpoint =
      ((endpoint.world.attempt platform calls).1.map fun _ => value,
        { endpoint with world := last }) ∧
    (endpoint.world.attempt platform calls).2.Matches last

namespace Attempts

theorem pure (value : α) : Attempts platform [] (pure value) value :=
  fun endpoint => ⟨endpoint.world, rfl, .refl _⟩

theorem note (notice : Notice) : Attempts platform [] (note notice : Action σ Unit) () :=
  fun _ => ⟨_, rfl, (World.Matches.refl _).noted _⟩

theorem command {call : Call} (hcall : call.extension = Extension.softwareEvents) :
    Attempts platform [call] (liftM (Supervisor.command platform call)) () := by
  intro endpoint
  rw [World.attempt]
  by_cases hanswer : (endpoint.world.answer platform call).error = 0
  · rw [run_command_of_eq hanswer, Call.refusal_of_eq hcall hanswer]
    exact ⟨_, rfl, .refl _⟩
  · rw [run_command_of_ne hanswer, Call.refusal_of_ne hanswer]
    exact ⟨_, rfl, .refl _⟩

theorem bind {first second : List Call} {action : Action σ α} {next : α → Action σ β} {value : α}
    {last : β} (haction : Attempts platform first action value)
    (hnext : Attempts platform second (next value) last) :
    Attempts platform (first ++ second) (action >>= next) last := by
  intro endpoint
  obtain ⟨between, hrun, hbetween⟩ := haction endpoint
  rw [run_bind, hrun, World.attempt_append]
  rcases hfirst : endpoint.world.attempt platform first with ⟨_ | _, middle⟩
  · rw [hfirst] at hbetween
    exact ⟨between, rfl, hbetween⟩
  · rw [hfirst] at hbetween
    obtain ⟨after, hsecond, hafter⟩ := hnext { endpoint with world := between }
    obtain ⟨houtcome, hmatches⟩ := hbetween.attempt platform second
    refine ⟨after, ?_, hmatches.trans hafter⟩
    refine hsecond.trans ?_
    rw [houtcome]

/-- Registering a subscription asks for software events first. -/
theorem register (subscription : Subscription α) (entryPoint : UInt64) :
    Attempts platform
      [.probe Extension.softwareEvents,
        .registerEvent subscription.event entryPoint subscription.address]
      (liftM (SoftwareEvent.register platform subscription entryPoint) : Action σ Unit) () := by
  intro endpoint
  let asking := Call.probe Extension.softwareEvents
  let asked := endpoint.world.called platform asking
  let registering := Call.registerEvent subscription.event entryPoint subscription.address
  rw [run_lift_supervisor, SoftwareEvent.register, run_bind, run_probe, World.attempt]
  by_cases herror : (endpoint.world.answer platform asking).error = 0
  · have htold : (endpoint.world.answer platform asking).toExcept =
        .ok (endpoint.world.answer platform asking).value := if_pos herror
    rw [htold, Call.refusal_probe herror]
    by_cases habsent : (endpoint.world.answer platform asking).value = 0
    · rw [if_pos habsent, habsent]
      exact ⟨_, rfl, (World.Matches.refl asked).noted _⟩
    · have hpresent : ((endpoint.world.answer platform asking).value != 0) = true :=
        bne_iff_ne.2 habsent
      -- the line that is logged in between changes no answer
      have hmatches := (World.Matches.refl asked).noted
        (.probed Extension.softwareEvents (endpoint.world.answer platform asking).value)
      rw [if_neg habsent]
      simp only [hpresent, if_true, run_bind, run_command, World.attempt]
      rw [hmatches.answer_eq]
      by_cases hanswer : (asked.answer platform registering).error = 0
      · rw [Return.toExcept, if_pos hanswer, Call.refusal_of_eq rfl hanswer]
        exact ⟨_, rfl, (hmatches.called _).noted _⟩
      · rw [Return.toExcept_of_ne hanswer, Call.refusal_of_ne hanswer]
        exact ⟨_, rfl, hmatches.called _⟩
  · rw [Return.toExcept_of_ne herror, Call.refusal_of_ne herror]
    exact ⟨_, rfl, .refl _⟩

/-- An action that attempts the calls of a plan pursues it. -/
theorem pursues {plan : List Call} {action : Action σ α} {value : α}
    (hattempts : Attempts platform plan action value) (endpoint : Endpoint σ) :
    ∃ steps, Pursues plan steps ((action.run endpoint).1.map fun _ => ()) ∧
      (action.run endpoint).2.world.deeds = endpoint.world.deeds ++ World.made steps := by
  obtain ⟨last, hrun, hmatches⟩ := hattempts endpoint
  obtain ⟨steps, hpursues, hdeeds⟩ := World.pursues_attempt platform plan endpoint.world
  have houtcome : (action.run endpoint).1.map (fun _ => ()) =
      (endpoint.world.attempt platform plan).1 := by
    rw [hrun]
    cases (endpoint.world.attempt platform plan).1 <;> rfl
  refine ⟨steps, ?_, ?_⟩
  · rw [houtcome]
    exact hpursues
  · rw [hrun, ← hdeeds]
    exact hmatches.deeds_eq

theorem eq_of_ok {plan : List Call} {action : Action σ α} {value result : α}
    (hattempts : Attempts platform plan action value) {endpoint : Endpoint σ}
    (hok : (action.run endpoint).1 = .ok result) : result = value := by
  obtain ⟨last, hrun, -⟩ := hattempts endpoint
  rw [hrun] at hok
  cases houtcome : (endpoint.world.attempt platform plan).1 with
  | error fault =>
    rw [houtcome] at hok
    cases hok
  | ok _ =>
    rw [houtcome] at hok
    exact (Except.ok.inj hok).symm

end Attempts

end Endpoint

end MessageProxy
