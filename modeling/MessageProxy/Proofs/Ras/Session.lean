import Mathlib.Data.List.Induction
import MessageProxy.Heap
import MessageProxy.Proofs.Ras.Move
import MessageProxy.Proofs.Remote.Registration

/-!
Sessions of a client over an endpoint that others use as well.
-/

namespace MessageProxy.Ras

variable {σ : Type} {platform : Platform σ}

/-- The stage of a session and how its requests are delivered, between two calls. -/
inductive Standing (config : Config) (communicate : Option (Communicate σ)) :
    Stage → Option (Delivery σ) → Prop where
  | fresh : Standing config communicate .uninitialized none
  | resolved (hpass : config.passThrough = true) (channel : ChannelId) :
    Standing config communicate (.channelResolved channel) none
  | passThrough (hpass : config.passThrough = true) (channel : ChannelId) :
    Standing config communicate .ready (some (.passThrough channel))
  | enveloped {give : Communicate σ} (hpass : config.passThrough = false)
      (hcommunicate : communicate = some give) :
    Standing config communicate .ready (some (.enveloped give config.envelope))

/-- The ways forward for a session. One call may take a session through all the stages. -/
inductive Advance (config : Config) : Stage → Stage → Prop where
  | stay (stage : Stage) : Advance config stage stage
  | resolve (hpass : config.passThrough = true) (channel : ChannelId) :
    Advance config .uninitialized (.channelResolved channel)
  | connect (hpass : config.passThrough = true) (channel : ChannelId) :
    Advance config (.channelResolved channel) .ready
  | resolveAndConnect (hpass : config.passThrough = true) : Advance config .uninitialized .ready
  | envelop (hpass : config.passThrough = false) : Advance config .uninitialized .ready

theorem Advance.eq_ready {config : Config} {stage : Stage}
    (hadvance : Advance config .ready stage) :
    stage = .ready := by
  cases hadvance
  rfl

/-- The client is the one that was configured, and its stage and delivery agree. -/
structure Sound (config : Config) (communicate : Option (Communicate σ)) (client : Client σ) :
    Prop where
  config_eq : client.config = config
  communicate_eq : client.communicate = communicate
  standing : Standing config communicate client.stage client.delivery

/-- The channel that a client knows, before or after it was opened. -/
def Knows (client : Client σ) (channel : ChannelId) : Prop :=
  client.stage = .channelResolved channel ∨ client.delivery = some (.passThrough channel)

namespace Sound

variable {config : Config} {communicate : Option (Communicate σ)} {client : Client σ}

theorem ofConfig (config : Config) (communicate : Option (Communicate σ)) :
    Sound config communicate (.ofConfig config communicate) :=
  ⟨rfl, rfl, .fresh⟩

theorem isSome_iff (hsound : Sound config communicate client) :
    client.delivery.isSome = true ↔ client.stage = .ready := by
  have hstanding := hsound.standing
  generalize client.stage = stage at hstanding ⊢
  generalize client.delivery = delivery at hstanding ⊢
  cases hstanding with
  | fresh | resolved =>
    constructor
    · intro hsome
      cases hsome
    · intro hready
      cases hready
  | passThrough | enveloped =>
    constructor
    · intro _
      rfl
    · intro _
      rfl

theorem ne_channelOpen (hsound : Sound config communicate client) (channel : ChannelId) :
    client.stage ≠ .channelOpen channel := by
  intro hopen
  have hstanding := hsound.standing
  rw [hopen] at hstanding
  cases hstanding

end Sound

/-- A move of a sound session to the client `next` leaves it sound, takes it forward if anywhere,
and takes nothing away from a session that is ready. A channel that the client knows afterwards it
knew before, or it has just been found. -/
structure Stepped (platform : Platform σ) (config : Config) (communicate : Option (Communicate σ))
    (session : Session σ) (move : Move σ) (next : Client σ) : Prop where
  sound : Sound config communicate next
  advance : Advance config session.client.stage next.stage
  settled : session.client.stage = .ready → next.delivery = session.client.delivery
  known : ∀ channel, Knows next channel →
    Knows session.client channel ∨ ∃ budget, move = .establish budget ∧
      session.client.stage = .uninitialized ∧
      Resolves platform budget config session.endpoint channel

/-- From a stage before the last, there is nothing that has to stay. -/
theorem Stepped.of_ne {config : Config} {communicate : Option (Communicate σ)}
    {session : Session σ} {move : Move σ} {next : Client σ}
    (hstage : session.client.stage ≠ .ready) (hsound : Sound config communicate next)
    (hadvance : Advance config session.client.stage next.stage)
    (hknown : ∀ channel, Knows next channel →
      Knows session.client channel ∨ ∃ budget, move = .establish budget ∧
        session.client.stage = .uninitialized ∧
        Resolves platform budget config session.endpoint channel) :
    Stepped platform config communicate session move next where
  sound := hsound
  advance := hadvance
  settled hready := absurd hready hstage
  known := hknown

section Step

variable {config : Config} {communicate : Option (Communicate σ)} {session : Session σ}

/-- Spending tokens is no step for a session. -/
theorem stepped_of_tokens (platform : Platform σ)
    (hsound : Sound config communicate session.client) (move : Move σ)
    (tokens : TokenSource) :
    Stepped platform config communicate session move { session.client with tokens } where
  sound := ⟨hsound.config_eq, hsound.communicate_eq, hsound.standing⟩
  advance := .stay _
  settled _ := rfl
  known _ hknows := .inl hknows

theorem stepped_establish (hsound : Sound config communicate session.client) (budget : Nat) :
    Stepped platform config communicate session (.establish budget)
      (conduct (Client.establish platform budget) session.client session.endpoint).1.2 := by
  have hsame := stepped_of_tokens platform hsound (.establish budget)
    session.client.tokens
  have hresult := Client.establishing platform budget hsound.ne_channelOpen session.endpoint
  have hstanding := hsound.standing
  generalize (conduct (Client.establish platform budget) session.client session.endpoint).1 =
    result at hresult ⊢
  obtain ⟨outcome, next⟩ := result
  cases hresult with
  | settled | stuck | searching => exact hsame
  | @resolved channel hstage hpass hresolves =>
    rw [hsound.config_eq] at hpass hresolves
    rw [hstage] at hstanding
    generalize session.client.delivery = delivery at hstanding ⊢
    cases hstanding
    refine .of_ne (hstage ▸ Stage.noConfusion)
      ⟨hsound.config_eq, hsound.communicate_eq, .resolved hpass channel⟩ ?_ ?_
    · rw [hstage]
      exact .resolve hpass channel
    · rintro other (hknows | hknows)
      · cases hknows
        exact .inr ⟨budget, rfl, hstage, hresolves⟩
      · cases hknows
  | @opened channel hstage =>
    rw [hstage] at hstanding
    generalize session.client.delivery = delivery at hstanding
    cases hstanding with
    | resolved hpass =>
      refine .of_ne (hstage ▸ Stage.noConfusion)
        ⟨hsound.config_eq, hsound.communicate_eq, .passThrough hpass channel⟩ ?_ ?_
      · rw [hstage]
        exact .connect hpass channel
      · rintro other (hknows | hknows)
        · cases hknows
        · cases hknows
          exact .inl (.inl hstage)
  | @found channel hstage hpass hresolves =>
    rw [hsound.config_eq] at hpass hresolves
    refine .of_ne (hstage ▸ Stage.noConfusion)
      ⟨hsound.config_eq, hsound.communicate_eq, .passThrough hpass channel⟩ ?_ ?_
    · rw [hstage]
      exact .resolveAndConnect hpass
    · rintro other (hknows | hknows)
      · cases hknows
      · cases hknows
        exact .inr ⟨budget, rfl, hstage, hresolves⟩
  | @enveloped give hstage hpass hcommunicate =>
    rw [hsound.communicate_eq] at hcommunicate
    have hconfig := hsound.config_eq
    rw [hconfig] at hpass
    refine .of_ne (hstage ▸ Stage.noConfusion) ⟨hconfig, hsound.communicate_eq, ?_⟩ ?_ ?_
    · rw [hconfig]
      exact .enveloped hpass hcommunicate
    · rw [hstage]
      exact .envelop hpass
    · rintro other (hknows | hknows)
      · cases hknows
      · cases hknows

theorem stepped (platform : Platform σ) (hsound : Sound config communicate session.client)
    (move : Move σ) :
    Stepped platform config communicate session move (session.after platform move).client := by
  cases hrequest : move.isRequest with
  | true =>
    obtain ⟨tokens, hclient⟩ :=
      spendsTokens_perform platform hrequest session.client session.endpoint
    rw [show (session.after platform move).client = _ from hclient]
    exact stepped_of_tokens platform hsound move tokens
  | false =>
    cases move with
    | establish budget =>
      rw [Session.after, conduct_establish]
      exact stepped_establish hsound budget
    | disturb change =>
      exact stepped_of_tokens platform hsound (.disturb change) session.client.tokens
    | _ => cases hrequest

theorem sound_afterAll (platform : Platform σ) (hsound : Sound config communicate session.client)
    (moves : List (Move σ)) :
    Sound config communicate (session.afterAll platform moves).client := by
  induction moves generalizing session with
  | nil => exact hsound
  | cons move rest ih => exact ih (stepped platform hsound move).sound

/-- A session that is ready stays so, and delivers its requests as before. -/
theorem ready_afterAll (hsound : Sound config communicate session.client)
    (hready : session.client.stage = .ready) (moves : List (Move σ)) :
    (session.afterAll platform moves).client.stage = .ready ∧
      (session.afterAll platform moves).client.delivery = session.client.delivery := by
  induction moves generalizing session with
  | nil => exact ⟨hready, rfl⟩
  | cons move rest ih =>
    have hstepped := stepped platform hsound move
    have hadvance := hstepped.advance
    rw [hready] at hadvance
    have hstage := hadvance.eq_ready
    obtain ⟨hlast, hdelivery⟩ := ih hstepped.sound hstage
    exact ⟨hlast, hdelivery.trans (hstepped.settled hready)⟩

/-- A channel that a client knows was found by a call that established the session from the start,
on the endpoint as it was then. -/
theorem known_afterAll (hsound : Sound config communicate session.client)
    (hfresh : ∀ channel, ¬Knows session.client channel) (moves : List (Move σ))
    {channel : ChannelId} (hknows : Knows (session.afterAll platform moves).client channel) :
    ∃ earlier budget later, moves = earlier ++ .establish budget :: later ∧
      (session.afterAll platform earlier).client.stage = .uninitialized ∧
      Resolves platform budget config (session.afterAll platform earlier).endpoint channel ∧
      Knows (session.afterAll platform (earlier ++ [.establish budget])).client channel := by
  -- From the last move back to the one that found the channel.
  induction moves using List.reverseRecOn with
  | nil => exact absurd hknows (hfresh channel)
  | append_singleton front move ih =>
    have hlast := hknows
    rw [Session.afterAll_append] at hlast
    have hstepped := stepped platform (sound_afterAll platform hsound front) move
    obtain hbefore | ⟨budget, rfl, hstage, hresolves⟩ := hstepped.known channel hlast
    · obtain ⟨earlier, budget, later, rfl, hfound⟩ := ih hbefore
      exact ⟨earlier, budget, later ++ [move], List.append_assoc .., hfound⟩
    · exact ⟨front, budget, [], rfl, hstage, hresolves, hknows⟩

end Step

/-- The session state machine, whatever the firmware answers, whatever becomes of envelopes and
whatever others do to the endpoint in between: requests have a delivery exactly while the session is
ready; no call leaves a channel merely open; a channel that is known was found by the search when it
was resolved; the stage only moves forward; a session that is ready stays as it is; establishing
succeeds exactly when the session is ready then, and otherwise fails as not ready, unless the search
for the channel is still going on; and a request before that fails without doing anything. -/
theorem session_state_machine (platform : Platform σ) (config : Config)
    (communicate : Option (Communicate σ)) (endpoint : Endpoint σ) (moves : List (Move σ)) :
    let start : Session σ := { client := .ofConfig config communicate, endpoint }
    let now := start.afterAll platform moves
    (now.client.delivery.isSome = true ↔ now.client.stage = .ready) ∧
      (∀ channel, now.client.stage ≠ .channelOpen channel) ∧
      (∀ channel, Knows now.client channel →
        ∃ earlier budget later, moves = earlier ++ .establish budget :: later ∧
          (start.afterAll platform earlier).client.stage = .uninitialized ∧
          Resolves platform budget config (start.afterAll platform earlier).endpoint channel ∧
          Knows (start.afterAll platform (earlier ++ [.establish budget])).client channel) ∧
      (∀ move, Advance config now.client.stage (now.after platform move).client.stage) ∧
      (now.client.stage = .ready → ∀ later,
        (now.afterAll platform later).client.stage = .ready ∧
          (now.afterAll platform later).client.delivery = now.client.delivery) ∧
      (∀ budget,
        (now.outcome platform (.establish budget) = .ok (.established true) ↔
          (now.after platform (.establish budget)).client.stage = .ready) ∧
        (∀ fault, now.outcome platform (.establish budget) = .error fault → fault = .notReady) ∧
        (now.outcome platform (.establish budget) = .ok (.established false) →
          (now.after platform (.establish budget)).client = now.client)) ∧
      (now.client.stage ≠ .ready → ∀ move, move.isRequest = true →
        now.outcome platform move = .error .notReady ∧ now.after platform move = now) := by
  intro start now
  have hstart : Sound config communicate start.client := .ofConfig config communicate
  have hfresh : ∀ channel, ¬Knows start.client channel := by
    rintro channel (hknows | hknows)
    · cases hknows
    · cases hknows
  have hsound : Sound config communicate now.client := sound_afterAll platform hstart moves
  refine ⟨hsound.isSome_iff, hsound.ne_channelOpen, ?_, ?_, ?_, ?_, ?_⟩
  · intro channel hknows
    exact known_afterAll hstart hfresh moves hknows
  · intro move
    exact (stepped platform hsound move).advance
  · intro hready later
    exact ready_afterAll hsound hready later
  · intro budget
    obtain ⟨hready, hfault, hsearching⟩ :=
      (Client.establishing platform budget hsound.ne_channelOpen now.endpoint).outcome
    unfold Session.outcome Session.after
    rw [conduct_establish]
    dsimp only
    generalize (conduct (Client.establish platform budget) now.client now.endpoint).1 = result at *
    obtain ⟨outcome, next⟩ := result
    cases outcome with
    | error fault =>
      refine ⟨⟨nofun, fun hstage => nomatch hready.2 hstage⟩, ?_, nofun⟩
      rintro other ⟨⟩
      exact hfault fault rfl
    | ok established =>
      cases established with
      | true => exact ⟨⟨fun _ => hready.1 rfl, fun _ => rfl⟩, nofun, nofun⟩
      | false =>
        refine ⟨⟨nofun, fun hstage => nomatch hready.2 hstage⟩, nofun, fun _ => ?_⟩
        exact hsearching rfl
  · intro hstage move hrequest
    have hrun := conduct_perform_of_ne platform hrequest hstage now.endpoint
    unfold Session.outcome Session.after
    rw [hrun]
    exact ⟨rfl, rfl⟩

/-- A session asks for nothing at first; once established it is ready, and stays so when others tear
the endpoint down. -/
theorem ready_after_deinit :
    let setup := Remote.Setup.echoing.withChannel 1 (·.setAttributes (Remote.rpmiAttributes 10 0))
    let platform := Remote.platform setup Heap.allocate Heap.release
    let start : Session _ :=
      { client := .ofConfig { source := .fixed ⟨1⟩, group := 10 } none
        endpoint := { buffer := none, world := .fresh (.initial setup (), Heap.fresh) } }
    let early := start.afterAll platform [.sourceIds]
    let now := early.afterAll platform [.establish 0]
    let torn := now.afterAll platform
      [.disturb fun endpoint => ((Endpoint.deinit platform).run endpoint).2]
    early = start ∧ now.client.stage = .ready ∧ torn.endpoint.isInitialized = false ∧
      torn.client.stage = .ready ∧ torn.client.delivery = now.client.delivery := by
  intro setup platform start early now torn
  have hready : now.client.stage = .ready := by decide
  refine ⟨?_, hready, by decide, ?_⟩
  · obtain ⟨-, -, -, -, -, -, hrefused⟩ := session_state_machine platform
      { source := .fixed ⟨1⟩, group := 10 } none start.endpoint []
    exact (hrefused nofun .sourceIds rfl).2
  · obtain ⟨-, -, -, -, hsettled, -, -⟩ := session_state_machine platform
      { source := .fixed ⟨1⟩, group := 10 } none start.endpoint [.sourceIds, .establish 0]
    exact hsettled hready _

end MessageProxy.Ras
