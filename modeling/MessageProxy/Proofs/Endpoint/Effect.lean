import MessageProxy.Proofs.Action

/-!
The effects of which the actions of an endpoint are made, as functions of the world: logging, making
a call, writing to the start of a region, and taking pages and giving them back. Reading has none.

A property of the world is steady under some calls when logging, those calls and writes to a given
buffer keep it. What an endpoint does between setting its buffer up and tearing it down is made of
these effects, so a steady property is kept by it.
-/

namespace MessageProxy

/-- Whether an event is more than a log line. -/
def Event.isDeed : Event → Bool
  | noted _ => false
  | _ => true

namespace World

variable {σ : Type}

/-- What the firmware answers to a call. -/
def answer (platform : Platform σ) (call : Call) (world : World σ) : Return :=
  (World.call platform call world).1

/-- The world after a call. -/
def called (platform : Platform σ) (call : Call) (world : World σ) : World σ :=
  (World.call platform call world).2

/-- The world after a line has been logged. -/
def noted (notice : Notice) (world : World σ) : World σ :=
  (World.record (.noted notice) world).2

/-- The world after bytes have been written to the start of a region. -/
def stored (region : Region) (bytes : Bytes) (world : World σ) : World σ :=
  (World.store region bytes world).2

/-- The region that the allocator hands out, if it does. -/
def grant (platform : Platform σ) (pages : UInt64) (world : World σ) : Option Region :=
  (World.allocate platform pages world).1

/-- The world after pages have been asked for. -/
def asked (platform : Platform σ) (pages : UInt64) (world : World σ) : World σ :=
  (World.allocate platform pages world).2

/-- The world after a region has been given back. -/
def freed (platform : Platform σ) (region : Region) (world : World σ) : World σ :=
  (World.release platform region world).2

variable (platform : Platform σ) (world : World σ)

@[simp]
theorem history_called (call : Call) : (world.called platform call).history =
    .called call (world.answer platform call) :: world.history :=
  rfl

@[simp]
theorem history_noted (notice : Notice) :
    (world.noted notice).history = .noted notice :: world.history :=
  rfl

@[simp]
theorem history_asked (pages : UInt64) : (world.asked platform pages).history =
    .allocated pages (world.grant platform pages) :: world.history :=
  rfl

@[simp]
theorem history_freed (region : Region) :
    (world.freed platform region).history = .released region :: world.history :=
  rfl

/-- Every effect keeps `P`. -/
structure Invariant (platform : Platform σ) (P : World σ → Prop) : Prop where
  noted : ∀ world notice, P world → P (world.noted notice)
  stored : ∀ world region bytes, P world → P (world.stored region bytes)
  called : ∀ world call, P world → P (world.called platform call)
  asked : ∀ world pages, P world → P (world.asked platform pages)
  freed : ∀ world region, P world → P (world.freed platform region)

/-- Logging, the allowed calls and writes to the buffer keep `P`. -/
structure Steady (platform : Platform σ) (buffer : SharedBuffer) (allowed : Call → Prop)
    (P : World σ → Prop) : Prop where
  noted : ∀ world notice, P world → P (world.noted notice)
  stored : ∀ world bytes, bytes.length ≤ buffer.region.length.toNat → P world →
    P (world.stored buffer.region bytes)
  called : ∀ world call, allowed call → P world → P (world.called platform call)

theorem Invariant.steady {platform : Platform σ} {P : World σ → Prop}
    (hinvariant : Invariant platform P) (buffer : SharedBuffer) (allowed : Call → Prop) :
    Steady platform buffer allowed P where
  noted := hinvariant.noted
  stored world bytes _ := hinvariant.stored world buffer.region bytes
  called world call _ := hinvariant.called world call

theorem handled_record (event : Event) :
    (World.record event world).2.handled = world.handled ++ event.request?.toList := by
  unfold handled events World.record
  rw [List.reverse_cons, List.filterMap_append]
  cases hrequest : event.request? with
  | none =>
    rw [List.filterMap_cons_none hrequest]
    rfl
  | some request =>
    rw [List.filterMap_cons_some hrequest]
    rfl

theorem handled_noted (notice : Notice) : (world.noted notice).handled = world.handled :=
  (handled_record world (.noted notice)).trans (List.append_nil _)

theorem handled_called (call : Call) : (world.called platform call).handled = world.handled :=
  (handled_record world (.called call (world.answer platform call))).trans (List.append_nil _)

/-- No call and no write to a buffer gives a forwarded request to its handler. -/
theorem steady_handled (buffer : SharedBuffer) (allowed : Call → Prop)
    (requests : List (UInt64 × Forwarding.Request)) :
    Steady platform buffer allowed fun world => world.handled = requests where
  noted world notice hworld := (handled_noted world notice).trans hworld
  stored _ _ _ hworld := hworld
  called world call _ hworld := (handled_called platform world call).trans hworld

/-- Everything that happened so far, in order, but for what was logged. -/
def deeds (world : World σ) : List Event :=
  world.events.filter Event.isDeed

theorem deeds_record {event : Event} (hdeed : event.isDeed = true) :
    (World.record event world).2.deeds = world.deeds ++ [event] := by
  unfold deeds events World.record
  rw [List.reverse_cons, List.filter_append, List.filter_cons_of_pos hdeed, List.filter_nil]

/-- Whatever picks no log line picks the same from the deeds as from everything that happened. -/
theorem filterMap_deeds {β : Type} {pick : Event → Option β}
    (hpick : ∀ notice, pick (.noted notice) = none) :
    world.deeds.filterMap pick = world.events.filterMap pick := by
  unfold deeds
  rw [List.filterMap_filter]
  congr
  funext event
  cases event with
  | noted notice => exact (hpick notice).symm
  | called | allocated | released | communicated | handled => rfl

theorem calls_eq_deeds : world.calls = world.deeds.filterMap Event.call? :=
  (filterMap_deeds world fun _ => rfl).symm

/-- The calls among what has been done meanwhile are the calls that were made meanwhile. -/
theorem calls_of_deeds {world other : World σ} {during : List Event}
    (hdeeds : other.deeds = world.deeds ++ during) :
    other.calls = world.calls ++ during.filterMap Event.call? := by
  rw [calls_eq_deeds, calls_eq_deeds, hdeeds, List.filterMap_append]

theorem handled_eq_deeds : world.handled = world.deeds.filterMap Event.request? :=
  (filterMap_deeds world fun _ => rfl).symm

@[simp]
theorem deeds_noted (notice : Notice) : (world.noted notice).deeds = world.deeds := by
  unfold deeds events
  rw [history_noted, List.reverse_cons, List.filter_append]
  exact List.append_nil _

@[simp]
theorem deeds_stored (region : Region) (bytes : Bytes) :
    (world.stored region bytes).deeds = world.deeds :=
  rfl

@[simp]
theorem deeds_called (call : Call) : (world.called platform call).deeds =
    world.deeds ++ [.called call (world.answer platform call)] :=
  deeds_record world rfl

@[simp]
theorem deeds_asked (pages : UInt64) : (world.asked platform pages).deeds =
    world.deeds ++ [.allocated pages (world.grant platform pages)] :=
  deeds_record world rfl

@[simp]
theorem deeds_freed (region : Region) :
    (world.freed platform region).deeds = world.deeds ++ [.released region] :=
  deeds_record world rfl

/-- Two worlds that differ in what was logged at most. -/
structure Matches (world other : World σ) : Prop where
  memory_eq : other.memory = world.memory
  state_eq : other.state = world.state
  deeds_eq : other.deeds = world.deeds

namespace Matches

variable {platform} {world other : World σ}

theorem refl (world : World σ) : Matches world world :=
  ⟨rfl, rfl, rfl⟩

theorem trans {third : World σ} (hfirst : Matches world other) (hsecond : Matches other third) :
    Matches world third :=
  ⟨hsecond.memory_eq.trans hfirst.memory_eq, hsecond.state_eq.trans hfirst.state_eq,
    hsecond.deeds_eq.trans hfirst.deeds_eq⟩

theorem noted (hmatches : Matches world other) (notice : Notice) :
    Matches world (other.noted notice) :=
  ⟨hmatches.memory_eq, hmatches.state_eq, (deeds_noted other notice).trans hmatches.deeds_eq⟩

theorem stored (hmatches : Matches world other) (region : Region) (bytes : Bytes) :
    Matches (world.stored region bytes) (other.stored region bytes) :=
  ⟨congrArg (·.store region.base bytes) hmatches.memory_eq, hmatches.state_eq, hmatches.deeds_eq⟩

theorem calls_eq (hmatches : Matches world other) : other.calls = world.calls := by
  rw [calls_eq_deeds, calls_eq_deeds, hmatches.deeds_eq]

theorem handled_eq (hmatches : Matches world other) : other.handled = world.handled := by
  rw [handled_eq_deeds, handled_eq_deeds, hmatches.deeds_eq]

/-- The firmware does not read the log. -/
theorem answer_eq (hmatches : Matches world other) (call : Call) :
    other.answer platform call = world.answer platform call := by
  change (platform.call call other.memory other.state).1 = _
  rw [hmatches.memory_eq, hmatches.state_eq]
  rfl

theorem called (hmatches : Matches world other) (call : Call) :
    Matches (world.called platform call) (other.called platform call) := by
  refine ⟨?_, ?_, ?_⟩
  · change (platform.call call other.memory other.state).2.1 = _
    rw [hmatches.memory_eq, hmatches.state_eq]
    rfl
  · change (platform.call call other.memory other.state).2.2 = _
    rw [hmatches.memory_eq, hmatches.state_eq]
    rfl
  · rw [deeds_called, deeds_called, hmatches.deeds_eq, hmatches.answer_eq]

end Matches

/-- Since `start`, nothing but events of one kind has happened. -/
def Since (kind : Event → Prop) (start world : World σ) : Prop :=
  ∃ during, world.history = during ++ start.history ∧ ∀ event ∈ during, kind event

namespace Since

variable {platform} {kind : Event → Prop} {start world : World σ}

theorem refl (world : World σ) : Since kind world world :=
  ⟨[], rfl, fun _ hevent => (List.not_mem_nil hevent).elim⟩

theorem cons {next : World σ} (hsince : Since kind start world) {event : Event}
    (hevent : kind event) (hhistory : next.history = event :: world.history) :
    Since kind start next := by
  obtain ⟨during, hbefore, hduring⟩ := hsince
  refine ⟨event :: during, ?_, List.forall_mem_cons.2 ⟨hevent, hduring⟩⟩
  rw [hhistory, hbefore, List.cons_append]

theorem noted (hsince : Since kind start world) {notice : Notice} (hnotice : kind (.noted notice)) :
    Since kind start (world.noted notice) :=
  hsince.cons hnotice rfl

theorem called (hsince : Since kind start world) {call : Call}
    (hcall : kind (.called call (world.answer platform call))) :
    Since kind start (world.called platform call) :=
  hsince.cons hcall rfl

end Since

end World

namespace Endpoint

variable {σ α : Type} {platform : Platform σ}

theorem run_lift_world (action : StateM (World σ) α) (endpoint : Endpoint σ) :
    (liftM action : Action σ α).run endpoint =
      (.ok (action endpoint.world).1, { endpoint with world := (action endpoint.world).2 }) :=
  rfl

theorem run_lift_supervisor (action : Supervisor σ α) (endpoint : Endpoint σ) :
    (liftM action : Action σ α).run endpoint =
      ((action.run endpoint.world).1.mapError .ofStatus,
        { endpoint with world := (action.run endpoint.world).2 }) :=
  rfl

/-- An action of the endpoint leaves what a client keeps alone. -/
theorem run_lift_own {τ : Type} (action : Action σ α) (own : τ) (endpoint : Endpoint σ) :
    (liftM action : ExceptT Fault (StateT τ (StateM (Endpoint σ))) α).run own endpoint =
      (((action.run endpoint).1, own), (action.run endpoint).2) :=
  rfl

theorem note_own {τ : Type} (notice : Notice) (own : τ) (endpoint : Endpoint σ) :
    (note notice : StateT τ (StateM (Endpoint σ)) Unit) own endpoint =
      (((), own), { endpoint with world := endpoint.world.noted notice }) :=
  rfl

@[simp]
theorem run_allocate (pages : UInt64) (endpoint : Endpoint σ) :
    (liftM (World.allocate platform pages) : Action σ (Option Region)).run endpoint =
      (.ok (endpoint.world.grant platform pages),
        { endpoint with world := endpoint.world.asked platform pages }) :=
  rfl

@[simp]
theorem run_request (call : Call) (world : World σ) :
    (Supervisor.request platform call).run world =
      ((world.answer platform call).toExcept, world.called platform call) :=
  rfl

@[simp]
theorem run_command (call : Call) (world : World σ) :
    (Supervisor.command platform call).run world =
      ((world.answer platform call).toExcept.map fun _ => (), world.called platform call) :=
  run_map _ _ _

theorem run_command_of_eq {call : Call} {endpoint : Endpoint σ}
    (hanswer : (endpoint.world.answer platform call).error = 0) :
    (liftM (Supervisor.command platform call) : Action σ Unit).run endpoint =
      (.ok (), { endpoint with world := endpoint.world.called platform call }) := by
  rw [run_lift_supervisor, run_command, Return.toExcept, if_pos hanswer]
  rfl

@[simp]
theorem run_note (notice : Notice) (endpoint : Endpoint σ) :
    (note notice : Action σ Unit).run endpoint =
      (.ok (), { endpoint with world := endpoint.world.noted notice }) :=
  rfl

@[simp]
theorem run_refuse (reason : Refusal) (endpoint : Endpoint σ) :
    (refuse reason : Action σ α).run endpoint =
      (.error reason.fault, { endpoint with world := endpoint.world.noted (.refused reason) }) :=
  rfl

theorem run_write (buffer : SharedBuffer) (bytes : Bytes) (endpoint : Endpoint σ) :
    (buffer.write bytes : Action σ Unit).run endpoint =
      if bytes.length > buffer.region.length.toNat then (.error .invalidParameter, endpoint)
      else (.ok (), { endpoint with world := endpoint.world.stored buffer.region bytes }) := by
  unfold SharedBuffer.write
  split <;> rfl

theorem run_read (buffer : SharedBuffer) (count : Nat) (endpoint : Endpoint σ) :
    (buffer.read count : Action σ Bytes).run endpoint =
      if count > buffer.region.length.toNat then (.error .deviceError, endpoint)
      else (.ok (endpoint.world.memory.fetch buffer.region.base count), endpoint) := by
  unfold SharedBuffer.read
  split <;> rfl

theorem run_withBuffer {buffer : SharedBuffer} {endpoint : Endpoint σ}
    (hbuffer : endpoint.buffer = some buffer) (absent : Fault) (use : SharedBuffer → Action σ α) :
    (Action.withBuffer absent use).run endpoint = (use buffer).run endpoint := by
  simp only [Action.withBuffer, run_bind, run_get, hbuffer]

theorem run_withBuffer_none {endpoint : Endpoint σ} (hbuffer : endpoint.buffer = none)
    (absent : Fault) (use : SharedBuffer → Action σ α) :
    (Action.withBuffer absent use).run endpoint = (.error absent, endpoint) := by
  simp only [Action.withBuffer, run_bind, run_get, hbuffer, run_throw]

end Endpoint

end MessageProxy
