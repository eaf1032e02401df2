import MessageProxy.Proofs.Endpoint.Operation
import MessageProxy.Remote.Respond

/-!
What a history of calls says about the shared memory: which address is registered, and which calls
went through it. None of this depends on the firmware or the allocator.
-/

namespace MessageProxy

/-- What is registered after a call that was answered with `answer`: a call that fails changes
nothing, and the address that is no address takes the registration back. -/
def Call.registration (call : Call) (answer : Return) (registered : Option UInt64) :
    Option UInt64 :=
  if call.setsMemory ∧ answer.error = 0 then
    if Remote.argument call.arguments 0 = noAddress ∧
        Remote.argument call.arguments 1 = noAddress then none
    else some (Remote.argument call.arguments 0)
  else registered

theorem Call.registration_of_setsMemory {call : Call} (hsets : call.setsMemory = true)
    (answer : Return) (registered : Option UInt64) :
    call.registration answer registered =
      if answer.error = 0 then
        if Remote.argument call.arguments 0 = noAddress ∧
          Remote.argument call.arguments 1 = noAddress then none
        else some (Remote.argument call.arguments 0)
      else registered := by
  unfold registration
  simp only [hsets, true_and]

theorem Call.registration_of_ne {answer : Return} (hanswer : answer.error ≠ 0) (call : Call)
    (registered : Option UInt64) : call.registration answer registered = registered := by
  unfold registration
  rw [if_neg]
  rintro ⟨-, hsucceeded⟩
  exact hanswer hsucceeded

theorem Call.registration_registerMemory (address : UInt64) (answer : Return)
    (registered : Option UInt64) :
    (registerMemory address).registration answer registered =
      if answer.error = 0 then some address else registered := by
  have hhigh : ¬(Remote.argument (registerMemory address).arguments 0 = noAddress ∧
      Remote.argument (registerMemory address).arguments 1 = noAddress) := by
    rintro ⟨-, hzero⟩
    exact absurd (show (0 : UInt64) = noAddress from hzero) (by decide)
  rw [registration_of_setsMemory rfl, if_neg hhigh]
  rfl

theorem Call.registration_deregisterMemory (answer : Return) (registered : Option UInt64) :
    deregisterMemory.registration answer registered =
      if answer.error = 0 then none else registered := by
  have hboth : Remote.argument deregisterMemory.arguments 0 = noAddress ∧
      Remote.argument deregisterMemory.arguments 1 = noAddress := ⟨rfl, rfl⟩
  rw [registration_of_setsMemory rfl, if_pos hboth]

/-- A quiet event neither changes the registration nor moves a region. -/
def Event.Quiet : Event → Prop
  | called call _ => call.setsMemory = false
  | allocated _ region => region = none
  | released _ => False
  | noted _ | communicated .. | handled .. => True

namespace History

/-- The address that a history, the latest event first, leaves registered. -/
def registered : List Event → Option UInt64
  | [] => none
  | .called call answer :: earlier => call.registration answer (registered earlier)
  | _ :: earlier => registered earlier

/-- The calls that went through the shared memory, each with the address that was registered when it
was made. -/
def served : List Event → List (Call × Option UInt64)
  | [] => []
  | .called call _ :: earlier =>
    if call.usesMemory then (call, registered earlier) :: served earlier else served earlier
  | _ :: earlier => served earlier

variable {during history : List Event}

theorem registered_append (hquiet : ∀ event ∈ during, event.Quiet) :
    registered (during ++ history) = registered history := by
  induction during with
  | nil => rfl
  | cons event rest ih =>
    obtain ⟨hevent, hrest⟩ := List.forall_mem_cons.1 hquiet
    have hbefore := ih hrest
    cases event with
    | called call answer =>
      have hcall : call.setsMemory = false := hevent
      simpa [registered, Call.registration, hcall] using hbefore
    | released => cases hevent
    | allocated | noted | communicated | handled => exact hbefore

end History

end MessageProxy
