import MessageProxy.Forwarding.Notification
import MessageProxy.Proofs.Endpoint.Attempt
import MessageProxy.Proofs.Endpoint.Traffic
import MessageProxy.Proofs.Endpoint.Untrusted

/-!
Arming the event of a channel, and what a failure leaves behind.

Arming attempts four calls once it knows the event, and takes none of them back: an event stays
registered, or enabled, after every failure that comes later.
-/

namespace MessageProxy

variable {σ : Type} {platform : Platform σ}

/-- Whether the call is the given function of software events, for the event. -/
def Call.switches (function : UInt64) (event : UInt32) (call : Call) : Bool :=
  call.extension = Extension.softwareEvents && call.function = function &&
    call.arguments.head? = some event.toUInt64

/-- What becomes of something about a software event that one function turns on and another turns
off, when they succeed. -/
def Event.switched (on off : UInt64) (event : UInt32) (state : Bool) : Event → Bool
  | .called call answer =>
    if answer.error ≠ 0 then state
    else if call.switches on event then true
    else if call.switches off event then false
    else state
  | _ => state

namespace World

/-- Whether a call has turned it on for the event, and none off since. -/
def switched (on off : UInt64) (event : UInt32) (world : World σ) : Bool :=
  world.deeds.foldl (Event.switched on off event) false

/-- Whether the event has been registered, and not unregistered since. -/
def registered (event : UInt32) (world : World σ) : Bool :=
  world.switched EventFunction.register EventFunction.unregister event

/-- Whether the event has been enabled, and not disabled since. -/
def enabled (event : UInt32) (world : World σ) : Bool :=
  world.switched EventFunction.enable EventFunction.disable event

end World

/-- The firmware, but that it refuses one call. -/
def Platform.refusing (platform : Platform σ) (refused : Call) (status : Status) : Platform σ :=
  { platform with
    call := fun call memory state =>
      if call = refused then (.failure status, memory, state)
      else platform.call call memory state }

theorem Call.switches_eq_false {call : Call} (hcall : call.extension ≠ Extension.softwareEvents)
    (function : UInt64) (event : UInt32) : call.switches function event = false := by
  rw [switches, decide_eq_false hcall, Bool.false_and, Bool.false_and]

namespace Event

variable {on off : UInt64} {event : UInt32} {call : Call} {answer : Return}

theorem switched_eq (hon : call.switches on event = false) (hoff : call.switches off event = false)
    (answer : Return) (state : Bool) :
    Event.switched on off event state (.called call answer) = state := by
  simp only [switched, hon, hoff, Bool.false_eq_true, if_false, ite_self]

/-- A call that is refused turns nothing on or off. -/
theorem switched_of_refusal {fault : Fault} (hrefusal : call.refusal answer = some fault)
    (state : Bool) : Event.switched on off event state (.called call answer) = state := by
  by_cases herror : answer.error = 0
  · obtain rfl := Call.eq_probe_of_refusal hrefusal herror
    have hbase : (Call.probe Extension.softwareEvents).extension ≠ Extension.softwareEvents := by
      decide
    exact switched_eq (Call.switches_eq_false hbase _ _) (Call.switches_eq_false hbase _ _) _ _
  · rw [switched, if_pos herror]

/-- Calls that are not refused, and turn nothing off, leave on what was on and what they turn on. -/
theorem foldl_made {steps : List (Call × Return)}
    (haccepted : ∀ step ∈ steps, step.1.refusal step.2 = none)
    (hoff : ∀ step ∈ steps, step.1.switches off event = false) (state : Bool) :
    (World.made steps).foldl (Event.switched on off event) state =
      (state || steps.any fun step => step.1.switches on event) := by
  induction steps generalizing state with
  | nil => exact (Bool.or_false state).symm
  | cons step rest ih =>
    rw [List.forall_mem_cons] at haccepted hoff
    have hanswer := Call.error_of_refusal haccepted.1
    have hstep : Event.switched on off event state (.called step.1 step.2) =
        (state || step.1.switches on event) := by
      rw [switched, if_neg (not_not_intro hanswer), hoff.1]
      cases step.1.switches on event with
      | true => exact (Bool.or_true state).symm
      | false => exact (Bool.or_false state).symm
    have hrest := ih haccepted.2 hoff.2 (state || step.1.switches on event)
    rw [List.any_cons, ← Bool.or_assoc, ← hrest, ← hstep]
    rfl

end Event

namespace World

theorem switched_of_append {on off : UInt64} {event : UInt32} {world other : World σ}
    {events : List Event} (hdeeds : other.deeds = world.deeds ++ events) :
    other.switched on off event =
      events.foldl (Event.switched on off event) (world.switched on off event) := by
  rw [switched, hdeeds, List.foldl_append]
  rfl

/-- Calls that end with one that is refused, and turn nothing off, leave on what was on before, and
what is turned on by a call before the last. -/
theorem switched_of_refusal {on off : UInt64} {event : UInt32} {world last : World σ}
    {steps : List (Call × Return)} {call : Call} {answer : Return} {fault : Fault}
    (hdeeds : last.deeds = world.deeds ++ made (steps ++ [(call, answer)]))
    (haccepted : ∀ step ∈ steps, step.1.refusal step.2 = none)
    (hrefusal : call.refusal answer = some fault)
    (hoff : ∀ step ∈ steps, step.1.switches off event = false) {turning : Call} {about : Prop}
    (hon : ∀ step ∈ steps, step.1.switches on event = true ↔ step.1 = turning ∧ about) :
    last.switched on off event = true ↔ world.switched on off event = true ∨
      turning ∈ steps.map Prod.fst ∧ about := by
  have hmade : made (steps ++ [(call, answer)]) = made steps ++ [.called call answer] :=
    List.map_append
  rw [switched_of_append hdeeds, hmade, List.foldl_append, Event.foldl_made haccepted hoff,
    List.foldl_cons, List.foldl_nil, Event.switched_of_refusal hrefusal, Bool.or_eq_true,
    List.any_eq_true, List.mem_map]
  refine or_congr_right ⟨?_, ?_⟩
  · rintro ⟨step, hstep, hswitches⟩
    obtain ⟨hcall, habout⟩ := (hon step hstep).1 hswitches
    exact ⟨⟨step, hstep, hcall⟩, habout⟩
  · rintro ⟨⟨step, hstep, hcall⟩, habout⟩
    exact ⟨step, hstep, (hon step hstep).2 ⟨hcall, habout⟩⟩

/-- Calls about anything else than software events turn nothing on or off. -/
theorem steady_switched (platform : Platform σ) (buffer : SharedBuffer) (on off : UInt64)
    (event : UInt32) (state : Bool) :
    Steady platform buffer (fun call => call.extension ≠ Extension.softwareEvents)
      fun world => world.switched on off event = state where
  noted world notice hworld := by
    rw [switched, deeds_noted]
    exact hworld
  stored _ _ _ hworld := hworld
  called world call hcall hworld := by
    rw [switched_of_append (deeds_called platform world call), hworld]
    exact Event.switched_eq (Call.switches_eq_false hcall _ _) (Call.switches_eq_false hcall _ _)
      _ _

end World

namespace Endpoint

/-- Reading attributes turns nothing on or off. -/
theorem switched_readAttributes (platform : Platform σ) (channel : ChannelId)
    (first count : UInt32) (endpoint : Endpoint σ) (on off : UInt64) (event : UInt32) :
    ((readAttributes platform channel first count).run endpoint).2.world.switched on off event =
      endpoint.world.switched on off event := by
  cases hbuffer : endpoint.buffer with
  | none => rw [readAttributes, run_withBuffer_none hbuffer]
  | some buffer =>
    have hsteady := World.steady_switched platform buffer on off event
      (endpoint.world.switched on off event)
    exact (keeps_readAttributes hsteady (fun _ _ _ => (by decide : Extension.messageProxy ≠ _))
      channel first count endpoint ⟨hbuffer, rfl⟩).2

end Endpoint

namespace Forwarding

open Endpoint (readAttributes Attempts)

variable {α : Type}

/-- What arming attempts once it knows the event. -/
def armingCalls (event : UInt32) (entryPoint address : UInt64) : List Call :=
  [.probe Extension.softwareEvents, .registerEvent event entryPoint address, .enableEvent event,
    .unmaskHart]

/-- Of the calls of arming, one registers the event and one enables it, and none undoes that. -/
theorem switches_armingCalls {event : UInt32} {entryPoint address : UInt64} {call : Call}
    (hcall : call ∈ armingCalls event entryPoint address) (other : UInt32) :
    (call.switches EventFunction.register other = true ↔
        call = .registerEvent event entryPoint address ∧ other = event) ∧
      (call.switches EventFunction.enable other = true ↔
        call = .enableEvent event ∧ other = event) ∧
      call.switches EventFunction.unregister other = false ∧
      call.switches EventFunction.disable other = false := by
  have hsame : event = other ↔ other = event := eq_comm
  simp only [armingCalls, List.mem_cons, List.not_mem_nil, or_false] at hcall
  rcases hcall with rfl | rfl | rfl | rfl <;>
    simp [Call.switches, Call.probe, Call.registerEvent, Call.enableEvent, Call.unmaskHart,
      Extension.base, Extension.softwareEvents, EventFunction.register, EventFunction.unregister,
      EventFunction.enable, EventFunction.disable, EventFunction.unmask, UInt32.toUInt64_inj, hsame]

/-- Arming fails as reading the event does. -/
theorem run_arm_of_error {channel : ChannelId} {endpoint next : Endpoint σ} {fault : Fault}
    (hread : (readAttributes platform channel Attribute.eventId 1).run endpoint =
      (.error fault, next)) (entryPoint address : UInt64) (target : UInt32 → α) :
    (arm platform channel entryPoint address target).run endpoint = (.error fault, next) := by
  rw [arm, run_bind, hread]

/-- A channel without an event is a device error. -/
theorem run_arm_of_nil {channel : ChannelId} {endpoint next : Endpoint σ}
    (hread : (readAttributes platform channel Attribute.eventId 1).run endpoint = (.ok [], next))
    (entryPoint address : UInt64) (target : UInt32 → α) :
    (arm platform channel entryPoint address target).run endpoint =
      (.error .deviceError, next) := by
  rw [arm, run_bind, hread]
  rfl

/-- What arming does once it knows the event. -/
def route (platform : Platform σ) (entryPoint : UInt64) (channel : ChannelId)
    (subscription : Subscription α) : Action σ (Subscription α) := do
  SoftwareEvent.register platform subscription entryPoint
  SoftwareEvent.enable platform subscription.event
  SoftwareEvent.unmaskHart platform
  note (.armed channel subscription.event)
  return subscription

/-- What is registered is the address of the subscription that is returned. -/
theorem attempts_route (entryPoint : UInt64) (channel : ChannelId)
    (subscription : Subscription α) :
    Attempts platform (armingCalls subscription.event entryPoint subscription.address)
      (route platform entryPoint channel subscription) subscription := by
  have hnoted : Attempts platform ([] ++ []) (do
      note (.armed channel subscription.event)
      return subscription : Action σ (Subscription α)) subscription :=
    .bind (.note _) (.pure _)
  exact .bind (.register subscription entryPoint)
    (.bind (.command rfl) (.bind (.command rfl) hnoted))

theorem run_arm_eq_route {channel : ChannelId} {endpoint next : Endpoint σ} {event : UInt32}
    {others : List UInt32}
    (hread : (readAttributes platform channel Attribute.eventId 1).run endpoint =
      (.ok (event :: others), next)) (entryPoint address : UInt64) (target : UInt32 → α) :
    (arm platform channel entryPoint address target).run endpoint =
      (route platform entryPoint channel { address, event, target }).run next := by
  rw [arm, run_bind, hread]
  rfl

/-- Once the event is known, arming attempts its calls. -/
theorem run_arm_of_cons {channel : ChannelId} {endpoint next : Endpoint σ} {event : UInt32}
    {others : List UInt32}
    (hread : (readAttributes platform channel Attribute.eventId 1).run endpoint =
      (.ok (event :: others), next)) (entryPoint address : UInt64) (target : UInt32 → α) :
    ∃ last, (arm platform channel entryPoint address target).run endpoint =
        ((next.world.attempt platform (armingCalls event entryPoint address)).1.map fun _ =>
          { address, event, target }, { next with world := last }) ∧
      (next.world.attempt platform (armingCalls event entryPoint address)).2.Matches last := by
  rw [run_arm_eq_route hread]
  exact attempts_route entryPoint channel { address, event, target } next

/-- The calls about an event, of which one is refused, leave the event registered and enabled as far
as they came, and nothing is different for other events. -/
theorem kept_of_attempt {event : UInt32} {entryPoint address : UInt64} {world last : World σ}
    {fault : Fault}
    (hfails : (world.attempt platform (armingCalls event entryPoint address)).1 = .error fault)
    (hlast : (world.attempt platform (armingCalls event entryPoint address)).2.Matches last) :
    ∃ (steps : List (Call × Return)) (call : Call) (answer : Return) (rest : List Call),
      let registering := Call.registerEvent event entryPoint address
      let enabling := Call.enableEvent event
      armingCalls event entryPoint address = steps.map Prod.fst ++ call :: rest ∧
      (∀ step ∈ steps, step.1.refusal step.2 = none) ∧ call.refusal answer = some fault ∧
      last.deeds = world.deeds ++ World.made (steps ++ [(call, answer)]) ∧
      ∀ other,
        (last.registered other = true ↔ world.registered other = true ∨
          registering ∈ steps.map Prod.fst ∧ other = event) ∧
        (last.enabled other = true ↔ world.enabled other = true ∨
          enabling ∈ steps.map Prod.fst ∧ other = event) := by
  obtain ⟨steps, call, answer, rest, hcalls, haccepted, hrefusal, hdeeds⟩ :=
    World.deeds_attempt_of_error hfails
  rw [← hlast.deeds_eq] at hdeeds
  refine ⟨steps, call, answer, rest, hcalls, haccepted, hrefusal, hdeeds, fun other => ?_⟩
  have hplan : ∀ step ∈ steps, step.1 ∈ armingCalls event entryPoint address := by
    intro step hstep
    rw [hcalls]
    exact List.mem_append_left _ (List.mem_map_of_mem hstep)
  -- one of the calls registers the event and one enables it, and none takes either back
  have hswitches := fun step hstep => switches_armingCalls (hplan step hstep) other
  exact ⟨World.switched_of_refusal hdeeds haccepted hrefusal
      (fun step hstep => (hswitches step hstep).2.2.1) fun step hstep => (hswitches step hstep).1,
    World.switched_of_refusal hdeeds haccepted hrefusal
      (fun step hstep => (hswitches step hstep).2.2.2) fun step hstep => (hswitches step hstep).2.1⟩

/-- Arming that fails takes nothing back. Either the event of the channel could not be read, or
there is none, and nothing else is done. Or the event is known, and of the four calls about it those
before some call were made and not refused, that call was made and refused, and nothing else is
done. Then the event is registered if it was so before, or if it was registered before the call that
was refused; likewise with being enabled; and nothing is different for other events. -/
theorem failed_arming_kept (platform : Platform σ) (channel : ChannelId)
    (entryPoint address : UInt64) (target : UInt32 → α) (endpoint : Endpoint σ) {fault : Fault}
    (hfails : ((arm platform channel entryPoint address target).run endpoint).1 = .error fault) :
    let last := ((arm platform channel entryPoint address target).run endpoint).2
    let read := (readAttributes platform channel Attribute.eventId 1).run endpoint
    (last = read.2 ∧ (read.1 = .error fault ∨ read.1 = .ok [] ∧ fault = .deviceError) ∧
      ∀ other, last.world.registered other = endpoint.world.registered other ∧
        last.world.enabled other = endpoint.world.enabled other) ∨
    ∃ (event : UInt32) (others : List UInt32) (steps : List (Call × Return)) (call : Call)
        (answer : Return) (rest : List Call),
      let registering := Call.registerEvent event entryPoint address
      let enabling := Call.enableEvent event
      read.1 = .ok (event :: others) ∧
      [.probe Extension.softwareEvents, registering, enabling, .unmaskHart] =
        steps.map Prod.fst ++ call :: rest ∧
      (∀ step ∈ steps, step.1.refusal step.2 = none) ∧ call.refusal answer = some fault ∧
      last.world.deeds = read.2.world.deeds ++ World.made (steps ++ [(call, answer)]) ∧
      ∀ other,
        (last.world.registered other = true ↔ endpoint.world.registered other = true ∨
          registering ∈ steps.map Prod.fst ∧ other = event) ∧
        (last.world.enabled other = true ↔ endpoint.world.enabled other = true ∨
          enabling ∈ steps.map Prod.fst ∧ other = event) := by
  intro last read
  have hsame : ∀ on off other,
      read.2.world.switched on off other = endpoint.world.switched on off other :=
    Endpoint.switched_readAttributes platform channel Attribute.eventId 1 endpoint
  rcases hread : read with ⟨reason | _ | ⟨event, others⟩, next⟩
  · have hrun := run_arm_of_error hread entryPoint address target
    have hlast : last = next := congrArg Prod.snd hrun
    rw [hrun] at hfails
    rw [hread] at hsame
    refine .inl ⟨hlast, .inl (congrArg Except.error (Except.error.inj hfails)), fun other => ?_⟩
    rw [hlast]
    exact ⟨hsame _ _ other, hsame _ _ other⟩
  · have hrun := run_arm_of_nil hread entryPoint address target
    have hlast : last = next := congrArg Prod.snd hrun
    rw [hrun] at hfails
    rw [hread] at hsame
    refine .inl ⟨hlast, .inr ⟨rfl, (Except.error.inj hfails).symm⟩, fun other => ?_⟩
    rw [hlast]
    exact ⟨hsame _ _ other, hsame _ _ other⟩
  · obtain ⟨world, hrun, hmatches⟩ := run_arm_of_cons hread entryPoint address target
    have hlast : last = { next with world } := congrArg Prod.snd hrun
    rw [hrun] at hfails
    rw [hread] at hsame
    cases houtcome : (next.world.attempt platform (armingCalls event entryPoint address)).1 with
    | ok _ =>
      rw [houtcome] at hfails
      cases hfails
    | error reason =>
      rw [houtcome] at hfails
      obtain rfl := Except.error.inj hfails
      obtain ⟨steps, call, answer, rest, hcalls, haccepted, hrefusal, hdeeds, hkept⟩ :=
        kept_of_attempt houtcome hmatches
      refine .inr ⟨event, others, steps, call, answer, rest, rfl, hcalls, haccepted, hrefusal, ?_,
        fun other => ?_⟩
      · rw [hlast]
        exact hdeeds
      · rw [hlast, World.registered, World.enabled, World.registered, World.enabled, ← hsame,
          ← hsame]
        exact hkept other

/-- Firmware that registers the event and refuses to enable it. The event stays registered. -/
theorem failed_arming_kept_refused_enable :
    let firmware := (Platform.leaving 64 (.success 1) [2, 0, 0, 0x40]).refusing
      (.enableEvent 0x40000002) .invalidState
    let endpoint := Endpoint.after firmware { buffer := none, world := .fresh .fresh } .init
    let arming := (arm firmware ⟨12⟩ 0x80201000 0x5000 fun _ => ()).run endpoint
    arming.1 = .error (.ofStatus .invalidState) ∧
      endpoint.world.registered 0x40000002 = false ∧
      arming.2.world.registered 0x40000002 = true ∧ arming.2.world.enabled 0x40000002 = false ∧
      ∃ (steps : List (Call × Return)) (call : Call) (answer : Return) (rest : List Call),
        armingCalls 0x40000002 0x80201000 0x5000 = steps.map Prod.fst ++ call :: rest ∧
        Call.registerEvent 0x40000002 0x80201000 0x5000 ∈ steps.map Prod.fst ∧
        Call.enableEvent 0x40000002 ∉ steps.map Prod.fst ∧
        call.refusal answer = some (.ofStatus .invalidState) := by
  intro firmware endpoint arming
  have hfails : arming.1 = .error (.ofStatus .invalidState) := rfl
  have hregistered : arming.2.world.registered 0x40000002 = true := rfl
  have henabled : arming.2.world.enabled 0x40000002 = false := rfl
  refine ⟨hfails, rfl, hregistered, henabled, ?_⟩
  obtain ⟨-, -, hsame⟩ |
      ⟨event, _, steps, call, answer, rest, hread, hcalls, -, hrefusal, -, hkept⟩ :=
    failed_arming_kept firmware ⟨12⟩ 0x80201000 0x5000 (fun _ => ()) endpoint hfails
  · cases hregistered.symm.trans (hsame 0x40000002).1
  · have hevent : [0x40000002] = event :: _ := Except.ok.inj hread
    obtain ⟨rfl, -⟩ := List.cons.inj hevent
    obtain ⟨hregister, henable⟩ := hkept 0x40000002
    refine ⟨steps, call, answer, rest, hcalls, ?_, fun hmem => ?_, hrefusal⟩
    · exact ((hregister.1 hregistered).resolve_left nofun).1
    · cases henabled.symm.trans (henable.2 (.inr ⟨hmem, rfl⟩))

/-- The last call of arming is refused, and the event is left registered and enabled, without a
call that would take either back. -/
theorem armed_after_refused_unmask :
    let firmware := (Platform.leaving 64 (.success 1) [2, 0, 0, 0x40]).refusing .unmaskHart .failed
    let endpoint := Endpoint.after firmware { buffer := none, world := .fresh .fresh } .init
    let arming := (arm firmware ⟨12⟩ 0x80201000 0x5000 fun _ => ()).run endpoint
    arming.1 = .error (.ofStatus .failed) ∧
      arming.2.world.calls = endpoint.world.calls ++ [.readAttributes ⟨12⟩ Attribute.eventId 1,
        .probe Extension.softwareEvents, .registerEvent 0x40000002 0x80201000 0x5000,
        .enableEvent 0x40000002, .unmaskHart] ∧
      endpoint.world.registered 0x40000002 = false ∧ endpoint.world.enabled 0x40000002 = false ∧
      arming.2.world.registered 0x40000002 = true ∧ arming.2.world.enabled 0x40000002 = true := by
  intro firmware endpoint arming
  exact ⟨rfl, rfl, rfl, rfl, rfl, rfl⟩

end Forwarding

end MessageProxy
