import Mathlib.Data.List.Nodup
import MessageProxy.Proofs.Endpoint.Opening
import MessageProxy.Proofs.Forwarding.Arming

/-!
The order in which arming and disarming make their calls.

Both are plans of calls that stop at the first that is refused. So no step is taken before those
that it rests on have succeeded, whichever of the calls the firmware refuses.
-/

namespace MessageProxy.Forwarding

open Endpoint

variable {σ α : Type} {platform : Platform σ} {endpoint : Endpoint σ} {buffer : SharedBuffer}

/-- What arming attempts: it reads the event, and then makes the calls about it. -/
def armingPlan (channel : ChannelId) (event : UInt32) (entryPoint address : UInt64) : List Call :=
  .readAttributes channel Attribute.eventId 1 :: armingCalls event entryPoint address

/-- What disarming attempts. -/
def disarmingPlan (event : UInt32) : List Call :=
  [.maskHart, .disableEvent event, .unregisterEvent event]

/-- No call of arming is like another. -/
theorem nodup_armingPlan (channel : ChannelId) (event : UInt32) (entryPoint address : UInt64) :
    (armingPlan channel event entryPoint address).Nodup := by
  refine List.Nodup.of_map (fun call => (call.extension, call.function)) ?_
  change [(Extension.messageProxy, ProxyFunction.readAttributes),
    (Extension.base, BaseFunction.probe), (Extension.softwareEvents, EventFunction.register),
    (Extension.softwareEvents, EventFunction.enable),
    (Extension.softwareEvents, EventFunction.unmask)].Nodup
  decide

theorem nodup_disarmingPlan (event : UInt32) : (disarmingPlan event).Nodup := by
  refine List.Nodup.of_map (fun call => call.function) ?_
  change [EventFunction.mask, EventFunction.disable, EventFunction.unregister].Nodup
  decide

theorem attempts_disarm (event : UInt32) :
    Attempts platform (disarmingPlan event) (disarm platform event) () :=
  .bind (.command rfl) (.bind (.command rfl) (.bind (.command rfl) (.note _)))

/-- With room for one attribute, arming pursues its plan for the event that the firmware leaves at
the start of the buffer. What is armed is that event, for the target that was given and at the
address where the subscription was to be kept. -/
theorem pursues_arm (hbuffer : endpoint.buffer = some buffer) (hsize : 4 ≤ buffer.size.toNat)
    (channel : ChannelId) (entryPoint address : UInt64) (target : UInt32 → α) :
    let read := endpoint.world.called platform (.readAttributes channel Attribute.eventId 1)
    let event := read.memory.word buffer.region.base 0
    let armed := (arm platform channel entryPoint address target).run endpoint
    (∃ steps,
      Pursues (armingPlan channel event entryPoint address) steps (armed.1.map fun _ => ()) ∧
        armed.2.world.deeds = endpoint.world.deeds ++ World.made steps) ∧
      ∀ subscription, armed.1 = .ok subscription →
        subscription = { address, event, target } := by
  intro read event armed
  let reading := Call.readAttributes channel Attribute.eventId 1
  have hone : (1 : UInt32) ≠ 0 := by decide
  have hbase : Extension.messageProxy ≠ Extension.base := by decide
  have hdeeds : read.deeds = endpoint.world.deeds ++ _ := World.deeds_called platform _ reading
  by_cases hanswer : (endpoint.world.answer platform reading).error = 0
  · have hread := run_readAttributes_of_eq hbuffer hone hsize hanswer
    have harm : armed = (route platform entryPoint channel { address, event, target }).run
        { endpoint with world := read } :=
      run_arm_eq_route hread entryPoint address target
    have hroute : Attempts platform _ _ _ :=
      attempts_route entryPoint channel { address, event, target }
    obtain ⟨steps, hpursues, hmade⟩ := hroute.pursues { endpoint with world := read }
    rw [harm]
    refine ⟨⟨(reading, endpoint.world.answer platform reading) :: steps, .accepted ?_ hpursues, ?_⟩,
      fun _ => hroute.eq_of_ok⟩
    · exact Call.refusal_of_extension_ne hbase hanswer
    · rw [hmade, hdeeds, List.append_assoc]
      rfl
  · -- there is no event, so nothing is attempted that is about it
    have hread := run_readAttributes_of_ne hbuffer hone hsize hanswer
    have harm : armed = (.error (endpoint.world.answer platform reading).fault,
        { endpoint with world := read }) :=
      run_arm_of_error hread entryPoint address target
    rw [harm]
    refine ⟨⟨[(reading, endpoint.world.answer platform reading)],
      .refused (Call.refusal_of_ne hanswer reading) _, hdeeds⟩, ?_⟩
    rintro subscription ⟨⟩

end MessageProxy.Forwarding
