import MessageProxy.Proofs.Endpoint.Lifecycle
import MessageProxy.Proofs.Ledger

/-!
What one action of an endpoint does to its buffer, to the registration and to the regions that are
out, whatever the firmware and the allocator do.
-/

namespace MessageProxy

namespace Event

/-- An event of traffic through the shared memory. -/
def Carried : Event → Prop
  | called call _ => call.usesMemory = true
  | noted _ => True
  | _ => False

theorem quiet_of_asks {event : Event} (hasks : Endpoint.Asks event) : event.Quiet := by
  cases event with
  | called call answer =>
    obtain rfl | rfl := hasks
    · rfl
    · rfl
  | noted => trivial
  | allocated | released | communicated | handled => cases hasks

theorem quiet_of_carried {event : Event} (hcarried : event.Carried) : event.Quiet := by
  cases event with
  | called call answer =>
    cases hsets : call.setsMemory with
    | false => exact hsets
    | true =>
      have huses : call.usesMemory = true := hcarried
      rw [Call.setsMemory, Bool.and_eq_true, decide_eq_true_eq, decide_eq_true_eq] at hsets
      rw [Call.usesMemory, hsets.2, Bool.and_eq_true] at huses
      exact absurd huses.2 (by decide)
  | noted => trivial
  | allocated | released | communicated | handled => cases hcarried

end Event

namespace History

/-- The calls of traffic are all made while one and the same address is registered. -/
theorem served_of_carried {during before : List Event}
    (hcarried : ∀ event ∈ during, event.Carried) :
    ∃ calls, served (during ++ before) = calls ++ served before ∧
      ∀ call ∈ calls, call.2 = registered before := by
  induction during with
  | nil => exact ⟨[], rfl, fun _ hcall => (List.not_mem_nil hcall).elim⟩
  | cons event rest ih =>
    obtain ⟨hevent, hrest⟩ := List.forall_mem_cons.1 hcarried
    obtain ⟨calls, hserved, hcalls⟩ := ih hrest
    cases event with
    | called call answer =>
      have huses : call.usesMemory = true := hevent
      have hregistered : registered (rest ++ before) = registered before :=
        registered_append fun event hevent => Event.quiet_of_carried (hrest event hevent)
      refine ⟨(call, registered before) :: calls, ?_, List.forall_mem_cons.2 ⟨rfl, hcalls⟩⟩
      rw [List.cons_append, served, if_pos huses, hserved, hregistered, List.cons_append]
    | noted => exact ⟨calls, hserved, hcalls⟩
    | allocated | released | communicated | handled => cases hevent

theorem served_of_asks {during before : List Event}
    (hasks : ∀ event ∈ during, Endpoint.Asks event) :
    served (during ++ before) = served before := by
  induction during with
  | nil => rfl
  | cons event rest ih =>
    obtain ⟨hevent, hrest⟩ := List.forall_mem_cons.1 hasks
    cases event with
    | called call answer =>
      have huses : call.usesMemory = false := by
        obtain rfl | rfl := hevent
        · rfl
        · rfl
      rw [List.cons_append, served, huses]
      exact ih hrest
    | noted => exact ih hrest
    | allocated | released | communicated | handled => cases hevent

end History

namespace Endpoint

open History

variable {σ : Type} {platform : Platform σ} {operation : Operation}

/-- Traffic adds events of traffic to the history, and nothing else. -/
theorem since_carried (platform : Platform σ) (htraffic : operation.isTraffic = true)
    (endpoint : Endpoint σ) :
    (after platform endpoint operation).buffer = endpoint.buffer ∧
      World.Since Event.Carried endpoint.world (after platform endpoint operation).world := by
  cases hbuffer : endpoint.buffer with
  | none =>
    rw [after_eq_self htraffic hbuffer]
    exact ⟨hbuffer, World.Since.refl _⟩
  | some buffer =>
    have hsteady : World.Steady platform buffer operation.Makes
        (World.Since Event.Carried endpoint.world) := by
      refine ⟨?_, ?_, ?_⟩
      · intro world notice hsince
        exact hsince.noted trivial
      · intro world bytes _ hsince
        exact hsince
      · intro world call hmakes hsince
        exact hsince.called (Operation.usesMemory_of_makes htraffic hmakes)
    exact keeps_perform htraffic hsteady endpoint ⟨hbuffer, World.Since.refl _⟩

/-- A buffer that is there after an operation was there before, or it has just been set up: its
region was granted for the size that the firmware said. -/
theorem buffer_after {endpoint : Endpoint σ} {buffer : SharedBuffer}
    (hbuffer : (after platform endpoint operation).buffer = some buffer) :
    endpoint.buffer = some buffer ∨ ∃ asking world : World σ, buffer.size ≠ 0 ∧
      asking.answer platform .sharedMemorySize = .success buffer.size ∧
      world.grant platform (pagesFor buffer.size) = some buffer.region := by
  cases htraffic : operation.isTraffic with
  | true => exact .inl ((since_carried platform htraffic endpoint).1.symm.trans hbuffer)
  | false =>
    unfold after at hbuffer
    cases operation with
    | deinit =>
      rw [Operation.perform, run_map] at hbuffer
      obtain hnone | hsame := buffer_deinit platform endpoint
      · cases hnone.symm.trans hbuffer
      · exact .inl (hsame.symm.trans hbuffer)
    | init =>
      rw [Operation.perform, run_map] at hbuffer
      cases hold : endpoint.buffer with
      | some old =>
        rw [run_init_of_some hold] at hbuffer
        exact .inl (hold.symm.trans hbuffer)
      | none =>
        have hresult := initialising platform hold
        revert hresult hbuffer
        generalize (init platform).run endpoint = result
        obtain ⟨outcome, next⟩ := result
        intro hbuffer hresult
        cases hresult with
        | unanswered | outOfPages | refused => cases hbuffer
        | registered _ hsize hanswered hgrant =>
          cases hbuffer
          exact .inr ⟨_, _, hsize, hanswered, hgrant⟩
    | _ => cases htraffic

/-- From one endpoint to the other, some events of `party` have happened, and they are a turn of
every ledger. -/
def Turns {ι : Type} [DecidableEq ι] (party : ι) (before now : Endpoint σ) : Prop :=
  ∃ during, now.world.history = during ++ before.world.history ∧
    ∀ ledger : Ledger ι, Ledger.Turn party ledger before.buffer now.buffer
      (ledger.enter party during)

section Turns

variable {ι : Type} [DecidableEq ι] (party : ι)

/-- What is registered is the address of the buffer, if it was before. -/
theorem Turns.registered_eq {before now : Endpoint σ} (hturns : Turns party before now)
    (hbefore : registered before.world.history = before.buffer.map (·.region.address)) :
    registered now.world.history = now.buffer.map (·.region.address) := by
  obtain ⟨during, hhistory, hturn⟩ := hturns
  have hledger (history : List Event) : (history.map (Prod.mk party)).map Prod.snd = history := by
    rw [List.map_map]
    exact List.map_id history
  have hnow := (hturn (before.world.history.map (Prod.mk party))).registered_eq
    ((congrArg registered (hledger _)).trans hbefore)
  rw [Ledger.registered, Ledger.map_snd_enter, hledger, ← hhistory] at hnow
  exact hnow

theorem Turns.refl (endpoint : Endpoint σ) : Turns party endpoint endpoint :=
  ⟨[], rfl, fun _ => .still rfl rfl id id⟩

/-- Finding out about the firmware comes before a turn without being one. -/
theorem Turns.of_asked {before now : Endpoint σ} {world : World σ}
    (hasked : World.Since Asks before.world world)
    (hturns : Turns party { before with world } now) : Turns party before now := by
  obtain ⟨earlier, hearlier, hasks⟩ := hasked
  obtain ⟨later, hlater, hturn⟩ := hturns
  refine ⟨later ++ earlier, ?_, fun ledger => ?_⟩
  · rw [hlater, hearlier, List.append_assoc]
  · have hquiet : ∀ event ∈ earlier, event.Quiet :=
      fun event hevent => Event.quiet_of_asks (hasks event hevent)
    rw [Ledger.enter_append]
    exact (hturn (ledger.enter party earlier)).of_enter hquiet

theorem turns_init (platform : Platform σ) (endpoint : Endpoint σ) :
    Turns party endpoint ((init platform).run endpoint).2 := by
  obtain ⟨buffer, start⟩ := endpoint
  cases buffer with
  | some buffer =>
    rw [run_init_of_some rfl]
    exact .refl party _
  | none =>
    have hresult := initialising platform (show (⟨none, start⟩ : Endpoint σ).buffer = none from rfl)
    revert hresult
    generalize (init platform).run ⟨none, start⟩ = result
    obtain ⟨outcome, next⟩ := result
    intro hresult
    cases hresult with
    | unanswered hasked => exact .of_asked party hasked (.refl party _)
    | @outOfPages size world hasked hgrant =>
      have hquiet : ∀ event ∈ [Event.allocated (pagesFor size) none], event.Quiet :=
        List.forall_mem_singleton.2 rfl
      refine .of_asked party hasked ⟨_, ?_, fun ledger => .of_quiet party ledger hquiet _⟩
      rw [World.history_asked, hgrant]
      rfl
    | @refused size world called region notice hasked hgrant hcalled hanswer =>
      subst hcalled
      refine .of_asked party hasked ⟨_, ?_, fun ledger =>
        .of_refused party ledger none (pagesFor size) region notice hanswer⟩
      rw [World.history_freed, World.history_noted, World.history_called, World.history_asked,
        hgrant]
      rfl
    | @registered size asking world called region notice hasked _ _ hgrant hcalled hanswer =>
      subst hcalled
      refine .of_asked party hasked ⟨_, ?_, fun ledger =>
        .of_registered party ledger { region, size } (pagesFor size) notice hanswer⟩
      rw [World.history_noted, World.history_called, World.history_asked, hgrant]
      rfl

theorem turns_deinit (platform : Platform σ) (endpoint : Endpoint σ) :
    Turns party endpoint ((deinit platform).run endpoint).2 := by
  obtain ⟨buffer, start⟩ := endpoint
  cases buffer with
  | none =>
    rw [run_deinit_of_none rfl]
    exact .refl party _
  | some buffer =>
    rw [run_deinit_of_some rfl]
    by_cases hanswer : (start.answer platform .deregisterMemory).error = 0
    · simp only [if_pos hanswer]
      exact ⟨_, rfl, fun ledger => .of_deregistered party ledger buffer .released hanswer⟩
    · simp only [if_neg hanswer]
      exact ⟨_, rfl, fun ledger => .of_retained party ledger _ _ hanswer⟩

/-- Every operation of an endpoint is a turn of every ledger. -/
theorem turns_after (platform : Platform σ) (operation : Operation) (endpoint : Endpoint σ) :
    Turns party endpoint (after platform endpoint operation) := by
  cases htraffic : operation.isTraffic with
  | true =>
    obtain ⟨hbuffer, during, hhistory, hcarried⟩ := since_carried platform htraffic endpoint
    refine ⟨during, hhistory, fun ledger => ?_⟩
    rw [hbuffer]
    exact .of_quiet party ledger
      (fun event hevent => Event.quiet_of_carried (hcarried event hevent)) _
  | false =>
    unfold after
    cases operation with
    | init =>
      rw [Operation.perform, run_map]
      exact turns_init party platform endpoint
    | deinit =>
      rw [Operation.perform, run_map]
      exact turns_deinit party platform endpoint
    | _ => cases htraffic

end Turns

/-- Setting the buffer up makes no call through the shared memory. -/
theorem served_init (endpoint : Endpoint σ) :
    served ((init platform).run endpoint).2.world.history = served endpoint.world.history := by
  cases hbuffer : endpoint.buffer with
  | some buffer => rw [run_init_of_some hbuffer]
  | none =>
    have hresult := initialising platform hbuffer
    revert hresult
    generalize (init platform).run endpoint = result
    obtain ⟨outcome, next⟩ := result
    intro hresult
    cases hresult with
    | unanswered hasked | outOfPages hasked =>
      obtain ⟨during, hhistory, hasks⟩ := hasked
      exact (congrArg served hhistory).trans (served_of_asks hasks)
    | refused hasked _ hcalled | registered hasked _ _ _ hcalled =>
      obtain ⟨during, hhistory, hasks⟩ := hasked
      subst hcalled
      exact (congrArg served hhistory).trans (served_of_asks hasks)

theorem served_deinit (endpoint : Endpoint σ) :
    served ((deinit platform).run endpoint).2.world.history = served endpoint.world.history := by
  cases hbuffer : endpoint.buffer with
  | none => rw [run_deinit_of_none hbuffer]
  | some buffer =>
    rw [run_deinit_of_some hbuffer]
    by_cases hanswer : (endpoint.world.answer platform .deregisterMemory).error = 0
    · simp only [if_pos hanswer]
      rfl
    · simp only [if_neg hanswer]
      rfl

/-- The calls through the shared memory that an operation makes are made by an endpoint with a
buffer, and while that is registered which was registered before the operation. -/
theorem served_after (platform : Platform σ) (operation : Operation) (endpoint : Endpoint σ) :
    ∃ calls,
      served (after platform endpoint operation).world.history =
        calls ++ served endpoint.world.history ∧
      ∀ call ∈ calls, endpoint.buffer.isSome = true ∧
        call.2 = registered endpoint.world.history := by
  cases htraffic : operation.isTraffic with
  | true =>
    cases hbuffer : endpoint.buffer with
    | none =>
      rw [after_eq_self htraffic hbuffer]
      exact ⟨[], rfl, fun _ hcall => (List.not_mem_nil hcall).elim⟩
    | some buffer =>
      obtain ⟨-, during, hhistory, hcarried⟩ := since_carried platform htraffic endpoint
      obtain ⟨calls, hserved, hcalls⟩ := served_of_carried hcarried
      exact ⟨calls, (congrArg served hhistory).trans hserved,
        fun call hcall => ⟨rfl, hcalls call hcall⟩⟩
  | false =>
    refine ⟨[], ?_, fun _ hcall => (List.not_mem_nil hcall).elim⟩
    unfold after
    cases operation with
    | init =>
      rw [Operation.perform, run_map]
      exact served_init endpoint
    | deinit =>
      rw [Operation.perform, run_map]
      exact served_deinit endpoint
    | _ => cases htraffic

end Endpoint

end MessageProxy
