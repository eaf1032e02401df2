import MessageProxy.Proofs.Endpoint.Turn
import MessageProxy.Proofs.Remote.Reaction

/-!
The registration that a remote remembers, and a remote behind an interposer that refuses calls.
-/

namespace MessageProxy

/-- The firmware's registration follows the calls that were answered: a call that fails leaves it as
it was. -/
structure Platform.Registers {σ : Type} (platform : Platform σ) (registered : σ → Option UInt64) :
    Prop where
  called : ∀ call memory state,
    registered (platform.call call memory state).2.2 =
      call.registration (platform.call call memory state).1 (registered state)
  asked : ∀ pages state, registered (platform.allocate pages state).2 = registered state
  freed : ∀ region state, registered (platform.release region state) = registered state

/-- The firmware's registration is the one that the history tells of. -/
theorem Platform.Registers.invariant {σ : Type} {platform : Platform σ}
    {registered : σ → Option UInt64} (hregisters : platform.Registers registered) :
    World.Invariant platform fun world =>
      registered world.state = History.registered world.history where
  noted _ _ hworld := hworld
  stored _ _ _ hworld := hworld
  called world call hworld := by
    change registered (platform.call call world.memory world.state).2.2 = _
    rw [hregisters.called, hworld]
    rfl
  asked world pages hworld := by
    change registered (platform.allocate pages world.state).2 = _
    rw [hregisters.asked, hworld]
    rfl
  freed world region hworld := by
    change registered (platform.release region world.state) = _
    rw [hregisters.freed, hworld]
    rfl

namespace Endpoint

/-- The firmware has registered the address of the endpoint's buffer, or nothing if it has none, and
the history tells so. -/
structure InStep {σ : Type} (registered : σ → Option UInt64) (endpoint : Endpoint σ) : Prop where
  buffer : History.registered endpoint.world.history = endpoint.buffer.map (·.region.address)
  history : registered endpoint.world.state = History.registered endpoint.world.history

variable {σ : Type} {platform : Platform σ} {registered : σ → Option UInt64}
  {endpoint : Endpoint σ}

theorem InStep.registered_eq (hstep : InStep registered endpoint) :
    registered endpoint.world.state = endpoint.buffer.map (·.region.address) :=
  hstep.history.trans hstep.buffer

/-- Every operation of an endpoint that is alone on its firmware keeps the two in step. -/
theorem InStep.after (hregisters : platform.Registers registered)
    (hstep : InStep registered endpoint) (operation : Operation) :
    InStep registered (after platform endpoint operation) where
  buffer := (turns_after () platform operation endpoint).registered_eq () hstep.buffer
  history := after_of_invariant hregisters.invariant operation hstep.history

end Endpoint

namespace Remote

variable {κ φ α : Type}

/-- The failures with which a remote refuses to set the shared memory are reported as failures; a
failure whose code is zero reads as a success. -/
structure Setup.Reports (setup : Setup κ) : Prop where
  register : ∀ fault, setup.registerFault = some fault → fault.code ≠ 0
  deregister : ∀ fault, setup.deregisterFault = some fault → fault.code ≠ 0

theorem registered_setMemory {setup : Setup κ} (hreports : setup.Reports) (low high : UInt64)
    (memory : Memory) (state : State κ) :
    ((setMemory setup low high).run (memory, state)).2.2.registered =
      if (Return.ofExcept
          (((setMemory setup low high).run (memory, state)).1.map fun _ => 0)).error = 0 then
        if low = Call.noAddress ∧ high = Call.noAddress then none else some low
      else state.registered := by
  unfold setMemory
  by_cases hboth : low = Call.noAddress ∧ high = Call.noAddress
  · simp only [if_pos hboth]
    cases hfault : setup.deregisterFault with
    | none => rfl
    | some fault => exact (if_neg (hreports.deregister fault hfault)).symm
  · simp only [if_neg hboth]
    cases hfault : setup.registerFault with
    | none => rfl
    | some fault => exact (if_neg (hreports.register fault hfault)).symm

/-- What a remote has registered after a call is told by the call and its answer. -/
theorem registered_respond {setup : Setup κ} (hreports : setup.Reports) (call : Call)
    (memory : Memory) (state : State κ) :
    (respond setup call memory state).2.2.registered =
      call.registration (respond setup call memory state).1 state.registered := by
  have hreceived : Keeps (Recalls fun now => now.registered = state.registered)
      (update fun now => { now with received := call :: now.received } : Reaction κ Unit) :=
    keeps_update fun _ hnow => hnow
  cases hsets : call.setsMemory with
  | false =>
    have hkept : Keeps (Recalls fun now => now.registered = state.registered)
        (react setup call) := by
      refine .bind hreceived fun _ => .ite (.pure _) ?_
      by_cases hproxy : call.extension = Extension.messageProxy ∧ setup.hasMessageProxy = true
      · have hfunction : call.function ≠ ProxyFunction.setSharedMemory := by
          intro hfunction
          rw [Call.setsMemory, hproxy.1, hfunction] at hsets
          cases hsets
        rw [if_pos hproxy]
        have huntouched : Untouched (fun now : State κ => now.registered = state.registered)
            call.function :=
          ⟨fun hset => absurd hset hfunction, fun _ _ _ hnow => hnow, fun _ _ _ hnow => hnow,
            fun _ _ _ hnow => hnow⟩
        exact keeps_messageProxy huntouched setup _
      · rw [if_neg hproxy]
        exact .ite (.pure _) (.throw _)
    have hsame : (respond setup call memory state).2.2.registered = state.registered :=
      hkept (memory, state) rfl
    rw [hsame, Call.registration, hsets]
    rfl
  | true =>
    obtain ⟨extension, function, arguments⟩ := call
    rw [Call.setsMemory, Bool.and_eq_true, decide_eq_true_eq, decide_eq_true_eq] at hsets
    obtain ⟨hextension, hfunction⟩ := hsets
    dsimp only at hextension hfunction
    subst hextension hfunction
    cases hproxy : setup.hasMessageProxy with
    | false =>
      unfold respond react
      rw [run_bind, run_update]
      simp only [hproxy]
      rfl
    | true =>
      have hmessageProxy : messageProxy setup ProxyFunction.setSharedMemory arguments = (do
          setMemory setup (argument arguments 0) (argument arguments 1)
          return 0) := rfl
      rw [Call.registration_of_setsMemory rfl]
      unfold respond
      rw [run_react hproxy rfl, hmessageProxy, run_bind]
      generalize hnoted : ({ state with
        received := ⟨Extension.messageProxy, ProxyFunction.setSharedMemory, arguments⟩ ::
          state.received } : State κ) = noted
      have hsame : noted.registered = state.registered := by rw [← hnoted]
      have hset := registered_setMemory hreports (argument arguments 0) (argument arguments 1)
        memory noted
      rw [hsame] at hset
      revert hset
      generalize (setMemory setup (argument arguments 0) (argument arguments 1)).run
        (memory, noted) = result
      obtain ⟨outcome, memory, state⟩ := result
      cases outcome with
      | ok _ => exact id
      | error fault => exact id

/-- Something between clients and a remote that answers some of the calls itself. What it answers
to a call that sets the shared memory is a failure. -/
structure Interposer (φ : Type) where
  answer? : Call → φ → Option Return × φ
  refuses : ∀ call state answer, call.setsMemory = true →
    (answer? call state).1 = some answer → answer.error ≠ 0

/-- A remote behind an interposer, and what an allocator of pages remembers. -/
structure Interposed (κ φ α : Type) where
  remote : State κ
  interposer : φ
  pages : α
  /-- The calls through the shared memory, the latest first, each with the address that was
  registered when it was made. -/
  carried : List (Call × Option UInt64)

namespace Interposed

/-- The address that the remote has registered. -/
def registered (state : Interposed κ φ α) : Option UInt64 :=
  state.remote.registered

/-- Before anything has been called. -/
def initial (setup : Setup κ) (agents : κ) (interposer : φ) (pages : α) : Interposed κ φ α :=
  { remote := .initial setup agents, interposer, pages, carried := [] }

/-- Takes down a call that goes through the shared memory. -/
def observe (call : Call) (state : Interposed κ φ α) : Interposed κ φ α :=
  if call.usesMemory then
    { state with carried := (call, state.registered) :: state.carried }
  else state

end Interposed

/-- The platform of a remote behind an interposer. -/
def interposedPlatform (setup : Setup κ) (interposer : Interposer φ)
    (allocate : UInt64 → α → Option Region × α) (release : Region → α → α) :
    Platform (Interposed κ φ α) where
  call call memory state :=
    let (answer, after) := interposer.answer? call state.interposer
    let state := { state.observe call with interposer := after }
    match answer with
    | some answer => (answer, memory, state)
    | none =>
      let (answer, memory, remote) := respond setup call memory state.remote
      (answer, memory, { state with remote })
  allocate count state :=
    let (region, pages) := allocate count state.pages
    (region, { state with pages })
  release region state := { state with pages := release region state.pages }

variable {setup : Setup κ} (interposer : Interposer φ)
  (allocate : UInt64 → α → Option Region × α) (release : Region → α → α)

theorem registered_observe (call : Call) (state : Interposed κ φ α) :
    (state.observe call).registered = state.registered := by
  unfold Interposed.observe
  split
  · rfl
  · rfl

theorem registers_interposedPlatform (hreports : setup.Reports) :
    (interposedPlatform setup interposer allocate release).Registers Interposed.registered where
  called call memory state := by
    have hobserved := registered_observe call state
    cases hanswer : (interposer.answer? call state.interposer).1 with
    | some answer =>
      simp only [interposedPlatform, hanswer]
      have hkept : call.registration answer state.registered = state.registered := by
        unfold Call.registration
        rw [if_neg]
        rintro ⟨hsets, hsucceeded⟩
        exact interposer.refuses call state.interposer answer hsets hanswer hsucceeded
      exact hobserved.trans hkept.symm
    | none =>
      simp only [interposedPlatform, hanswer]
      have hremote := registered_respond hreports call memory (state.observe call).remote
      rw [show (state.observe call).remote.registered = state.registered from hobserved] at hremote
      exact hremote
  asked _ _ := rfl
  freed _ _ := rfl

theorem carried_call (call : Call) (memory : Memory) (state : Interposed κ φ α) :
    ((interposedPlatform setup interposer allocate release).call call memory state).2.2.carried =
      (state.observe call).carried := by
  cases hanswer : (interposer.answer? call state.interposer).1 with
  | some answer => simp only [interposedPlatform, hanswer]
  | none => simp only [interposedPlatform, hanswer]

/-- What has been taken down is what the history tells of. -/
theorem carried_invariant (hreports : setup.Reports) :
    World.Invariant (interposedPlatform setup interposer allocate release) fun world =>
      world.state.registered = History.registered world.history ∧
        world.state.carried = History.served world.history := by
  have hregisters := registers_interposedPlatform interposer allocate release hreports
  refine ⟨?_, ?_, ?_, ?_, ?_⟩
  · rintro world notice ⟨hregistered, hcarried⟩
    exact ⟨hregisters.invariant.noted world notice hregistered, hcarried⟩
  · rintro world region bytes ⟨hregistered, hcarried⟩
    exact ⟨hregistered, hcarried⟩
  · rintro world call ⟨hregistered, hcarried⟩
    refine ⟨hregisters.invariant.called world call hregistered, ?_⟩
    rw [World.history_called]
    refine (carried_call interposer allocate release call world.memory world.state).trans ?_
    unfold Interposed.observe History.served
    split
    · rw [← hregistered, ← hcarried]
    · exact hcarried
  · rintro world pages ⟨hregistered, hcarried⟩
    exact ⟨hregisters.invariant.asked world pages hregistered, hcarried⟩
  · rintro world region ⟨hregistered, hcarried⟩
    exact ⟨hregisters.invariant.freed world region hregistered, hcarried⟩

/-- A remote with one channel, which sends every message back. -/
def Setup.echoing : Setup Unit :=
  { size := 4096, channels := [(1, { attributes := [], readFault := none, handler := some echo })] }

theorem Setup.reports_echoing : Setup.echoing.Reports := by
  constructor
  · intro fault hfault
    cases hfault
  · intro fault hfault
    cases hfault

/-- Refuses the calls that set the shared memory as a schedule says, the others not. -/
def Interposer.refusing : Interposer (List Bool) where
  answer? call schedule :=
    if call.setsMemory then
      (if schedule.headD false then some (.failure .denied) else none, schedule.tail)
    else (none, schedule)
  refuses call schedule answer hsets hanswer := by
    rw [if_pos hsets] at hanswer
    split at hanswer
    · cases hanswer
      decide
    · cases hanswer

end Remote

end MessageProxy
