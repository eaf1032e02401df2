import MessageProxy.Proofs.Ras.Action

/-!
What establishing a session can do to a client.
-/

namespace MessageProxy.Ras

variable {σ : Type} {platform : Platform σ}

/-- On this endpoint the message proxy is initialised, and the search then finds the channel. -/
def Resolves (platform : Platform σ) (budget : Nat) (config : Config) (endpoint : Endpoint σ)
    (channel : ChannelId) : Prop :=
  let initialised := (Endpoint.init platform).run endpoint
  initialised.1 = .ok () ∧
    ((Endpoint.resolveChannel platform budget config.source config.group).run initialised.2).1 =
      .ok (some channel)

/-- How establishing a session ends on a client whose stage is not that of an open channel: what it
returns, and the client afterwards. -/
inductive Establishing (platform : Platform σ) (budget : Nat) (client : Client σ)
    (endpoint : Endpoint σ) : Except Fault Bool → Client σ → Prop where
  /-- The session was ready before. -/
  | settled (hstage : client.stage = .ready) :
    Establishing platform budget client endpoint (.ok true) client
  /-- The first stage to go through fails. -/
  | stuck (hstage : client.stage ≠ .ready) :
    Establishing platform budget client endpoint (.error .notReady) client
  /-- The search for the channel spends its budget. -/
  | searching (hstage : client.stage = .uninitialized) :
    Establishing platform budget client endpoint (.ok false) client
  /-- The channel is found, and opening it fails. -/
  | resolved {channel : ChannelId} (hstage : client.stage = .uninitialized)
      (hpass : client.config.passThrough = true)
      (hresolves : Resolves platform budget client.config endpoint channel) :
    Establishing platform budget client endpoint (.error .notReady)
      { client with stage := .channelResolved channel }
  /-- The channel that was found before is opened. -/
  | opened {channel : ChannelId} (hstage : client.stage = .channelResolved channel) :
    Establishing platform budget client endpoint (.ok true)
      { client with delivery := some (.passThrough channel), stage := .ready }
  /-- The channel is found and opened. -/
  | found {channel : ChannelId} (hstage : client.stage = .uninitialized)
      (hpass : client.config.passThrough = true)
      (hresolves : Resolves platform budget client.config endpoint channel) :
    Establishing platform budget client endpoint (.ok true)
      { client with delivery := some (.passThrough channel), stage := .ready }
  /-- Requests go in envelopes. -/
  | enveloped {communicate : Communicate σ} (hstage : client.stage = .uninitialized)
      (hpass : client.config.passThrough = false)
      (hcommunicate : client.communicate = some communicate) :
    Establishing platform budget client endpoint (.ok true)
      { client with
        delivery := some (.enveloped communicate client.config.envelope), stage := .ready }

/-- Establishing a session succeeds exactly when it is ready then. Otherwise it fails as not ready,
or the search for the channel goes on and nothing has changed. -/
theorem Establishing.outcome {budget : Nat} {client next : Client σ} {endpoint : Endpoint σ}
    {outcome : Except Fault Bool}
    (hresult : Establishing platform budget client endpoint outcome next) :
    (outcome = .ok true ↔ next.stage = .ready) ∧
      (∀ fault, outcome = .error fault → fault = .notReady) ∧
      (outcome = .ok false → next = client) := by
  cases hresult with
  | settled hstage => exact ⟨⟨fun _ => hstage, fun _ => rfl⟩, nofun, nofun⟩
  | stuck hstage =>
    refine ⟨⟨nofun, fun hready => absurd hready hstage⟩, ?_, nofun⟩
    rintro fault ⟨⟩
    rfl
  | searching hstage =>
    refine ⟨⟨nofun, fun hready => ?_⟩, nofun, fun _ => rfl⟩
    rw [hstage] at hready
    cases hready
  | resolved =>
    refine ⟨⟨nofun, nofun⟩, ?_, nofun⟩
    rintro fault ⟨⟩
    rfl
  | opened | found | enveloped => exact ⟨⟨fun _ => rfl, fun _ => rfl⟩, nofun, nofun⟩

namespace Client

/-- From a channel that is known, a session becomes ready if the channel is opened, and else stays
where it is. The endpoint is left as opening the channel leaves it, but for log lines. -/
theorem conduct_establishOn (platform : Platform σ) (channel : ChannelId) (client : Client σ)
    (endpoint : Endpoint σ) :
    let opened := (Endpoint.openRequestChannel platform channel).run endpoint
    ∃ world, conduct (establishOn platform channel) client endpoint =
        (match opened.1 with
          | .error _ => (.error .notReady, client)
          | .ok _ =>
            (.ok true, { client with delivery := some (.passThrough channel), stage := .ready }),
          { opened.2 with world }) ∧
      opened.2.world.Matches world := by
  unfold establishOn openChannel
  simp only [conduct_bind, conduct_observing, conduct_lift]
  generalize (Endpoint.openRequestChannel platform channel).run endpoint = opened
  obtain ⟨outcome, next⟩ := opened
  cases outcome with
  | error fault =>
    simp only [conduct_refuse]
    exact ⟨_, rfl, (World.Matches.refl next.world).noted _⟩
  | ok info =>
    obtain ⟨entered, henter, hentered⟩ := conduct_enter client next (.channelOpen channel)
    obtain ⟨ready, hfinish, hready⟩ := conduct_finish { client with stage := .channelOpen channel }
      { next with world := entered } (.passThrough channel)
    simp only [henter, hfinish, conduct_pure]
    exact ⟨_, rfl, hentered.trans hready⟩

/-- The search for the channel fails, spends its budget, or finds the channel. -/
theorem conduct_resolve (platform : Platform σ) (budget : Nat) (client : Client σ)
    (endpoint : Endpoint σ) :
    (∃ next, conduct (resolve platform budget) client endpoint =
      ((.error .notReady, client), next)) ∨
    (∃ next, conduct (resolve platform budget) client endpoint = ((.ok none, client), next)) ∨
    ∃ channel, Resolves platform budget client.config endpoint channel ∧
      ∃ next, conduct (resolve platform budget) client endpoint =
        ((.ok (some channel), { client with stage := .channelResolved channel }), next) := by
  unfold resolve
  simp only [conduct_bind, conduct_get, conduct_observing, conduct_lift]
  cases hinit : ((Endpoint.init platform).run endpoint).1 with
  | error fault =>
    simp only [conduct_refuse]
    exact .inl ⟨_, rfl⟩
  | ok _ =>
    simp only [conduct_bind, conduct_observing, conduct_lift]
    cases hsearch : ((Endpoint.resolveChannel platform budget client.config.source
      client.config.group).run ((Endpoint.init platform).run endpoint).2).1 with
    | error fault =>
      simp only [conduct_refuse]
      exact .inl ⟨_, rfl⟩
    | ok found =>
      cases found with
      | none =>
        simp only [conduct_pure]
        exact .inr (.inl ⟨_, rfl⟩)
      | some channel =>
        simp only [conduct_bind]
        obtain ⟨world, henter, -⟩ := conduct_enter client
          ((Endpoint.resolveChannel platform budget client.config.source client.config.group).run
            ((Endpoint.init platform).run endpoint).2).2 (.channelResolved channel)
        simp only [henter, conduct_pure]
        exact .inr (.inr ⟨channel, ⟨hinit, hsearch⟩, _, rfl⟩)

theorem establishing (platform : Platform σ) (budget : Nat) {client : Client σ}
    (hopen : ∀ channel, client.stage ≠ .channelOpen channel) (endpoint : Endpoint σ) :
    Establishing platform budget client endpoint
      (conduct (establish platform budget) client endpoint).1.1
      (conduct (establish platform budget) client endpoint).1.2 := by
  unfold establish
  simp only [conduct_bind, conduct_get]
  cases hstage : client.stage with
  | ready =>
    simp only [conduct_pure]
    exact .settled hstage
  | channelOpen channel => exact absurd hstage (hopen channel)
  | channelResolved channel =>
    have hready : client.stage ≠ .ready := by
      rw [hstage]
      exact Stage.noConfusion
    obtain ⟨world, hestablish, -⟩ := conduct_establishOn platform channel client endpoint
    simp only [hestablish]
    cases ((Endpoint.openRequestChannel platform channel).run endpoint).1 with
    | error _ => exact .stuck hready
    | ok _ => exact .opened hstage
  | uninitialized =>
    have hready : client.stage ≠ .ready := by
      rw [hstage]
      exact Stage.noConfusion
    cases hpass : client.config.passThrough with
    | false =>
      simp only [Bool.false_eq_true, if_false]
      cases hcommunicate : client.communicate with
      | none =>
        simp only [conduct_refuse]
        exact .stuck hready
      | some communicate =>
        obtain ⟨world, hfinish, -⟩ := conduct_finish client endpoint
          (.enveloped communicate client.config.envelope)
        simp only [conduct_bind, hfinish, conduct_pure]
        exact .enveloped hstage hpass hcommunicate
    | true =>
      simp only [if_true, conduct_bind]
      obtain hfailed | hsearching | ⟨channel, hresolves, hresolved⟩ :=
        conduct_resolve platform budget client endpoint
      · obtain ⟨next, hresolve⟩ := hfailed
        simp only [hresolve]
        exact .stuck hready
      · obtain ⟨next, hresolve⟩ := hsearching
        simp only [hresolve, conduct_pure]
        exact .searching hstage
      · obtain ⟨next, hresolve⟩ := hresolved
        simp only [hresolve]
        obtain ⟨world, hestablish, -⟩ := conduct_establishOn platform channel
          { client with stage := .channelResolved channel } next
        simp only [hestablish]
        cases ((Endpoint.openRequestChannel platform channel).run next).1 with
        | error _ => exact .resolved hstage hpass hresolves
        | ok _ => exact .found hstage hpass hresolves

end Client

end MessageProxy.Ras
