import MessageProxy.Proofs.Endpoint.Opening
import MessageProxy.Proofs.Ras.Session

/-!
Establishing a session again after an attempt that found the channel and could not open it.
-/

namespace MessageProxy.Ras

variable {σ : Type} {platform : Platform σ} {config : Config}
  {communicate : Option (Communicate σ)} {session : Session σ} {channel : ChannelId}

/-- While a client knows a channel, either it has yet to be opened, and there is no delivery, or
requests go through it. -/
theorem Knows.standing {client : Client σ} (hsound : Sound config communicate client)
    (hknows : Knows client channel) :
    client.stage = .channelResolved channel ∧ client.delivery = none ∨
      client.stage = .ready ∧ client.delivery = some (.passThrough channel) := by
  have hstanding := hsound.standing
  unfold Knows at hknows
  generalize client.stage = stage at hstanding hknows ⊢
  generalize client.delivery = delivery at hstanding hknows ⊢
  cases hstanding with
  | fresh | resolved =>
    obtain hstage | hdelivery := hknows
    · exact .inl ⟨hstage, rfl⟩
    · cases hdelivery
  | passThrough | enveloped =>
    obtain hstage | hdelivery := hknows
    · cases hstage
    · exact .inr ⟨rfl, hdelivery⟩

theorem Sound.exists_passThrough {client : Client σ} (hsound : Sound config communicate client)
    (hpass : config.passThrough = true) (hready : client.stage = .ready) :
    ∃ channel, client.delivery = some (.passThrough channel) := by
  have hstanding := hsound.standing
  rw [hready] at hstanding
  generalize client.delivery = delivery at hstanding ⊢
  cases hstanding with
  | passThrough _ channel => exact ⟨channel, rfl⟩
  | enveloped henveloped => cases hpass.symm.trans henveloped

/-- No move makes a session forget its channel or take another. -/
theorem Knows.after (hsound : Sound config communicate session.client)
    (hknows : Knows session.client channel) (move : Move σ) :
    Knows (session.after platform move).client channel := by
  have hstepped := stepped platform hsound move
  obtain ⟨hstage, hdelivery⟩ | ⟨hstage, hdelivery⟩ := hknows.standing hsound
  · have hadvance := hstepped.advance
    rw [hstage] at hadvance
    generalize hlast : (session.after platform move).client.stage = stage at hadvance
    cases hadvance with
    | stay => exact .inl hlast
    | connect hpass =>
      -- it has just become ready, so the channel that it uses is one that it knew before
      obtain ⟨other, hother⟩ := hstepped.sound.exists_passThrough hpass hlast
      obtain hbefore | ⟨-, -, hfresh, -⟩ := hstepped.known other (.inr hother)
      · obtain ⟨hsame, -⟩ | ⟨hready, -⟩ := hbefore.standing hsound
        · cases hsame.symm.trans hstage
          exact .inr hother
        · cases hready.symm.trans hstage
      · cases hfresh.symm.trans hstage
  · exact .inr ((hstepped.settled hstage).trans hdelivery)

theorem Knows.afterAll (hsound : Sound config communicate session.client)
    (hknows : Knows session.client channel) (moves : List (Move σ)) :
    Knows (session.afterAll platform moves).client channel := by
  induction moves generalizing session with
  | nil => exact hknows
  | cons move rest ih => exact ih (stepped platform hsound move).sound (hknows.after hsound move)

section Establish

/-- In a session whose channel is known, establishing opens that channel and does nothing else. -/
theorem establish_of_resolved (platform : Platform σ)
    (hstage : session.client.stage = .channelResolved channel) (budget : Nat) :
    let opened := (Endpoint.openRequestChannel platform channel).run session.endpoint
    let next := session.after platform (.establish budget)
    next.endpoint.buffer = opened.2.buffer ∧
      opened.2.world.Matches next.endpoint.world ∧
      ((∃ info, opened.1 = .ok info) →
        session.outcome platform (.establish budget) = .ok (.established true) ∧
          next.client = { session.client with
            delivery := some (.passThrough channel), stage := .ready }) ∧
      ((¬∃ info, opened.1 = .ok info) →
        session.outcome platform (.establish budget) = .error .notReady ∧
          next.client = session.client) := by
  intro opened next
  obtain ⟨world, hrun, hmatches⟩ :=
    Client.conduct_establishOn platform channel session.client session.endpoint
  have hestablish : conduct (Client.establish platform budget) session.client session.endpoint =
      conduct (Client.establishOn platform channel) session.client session.endpoint := by
    rw [Client.establish, conduct_bind, conduct_get]
    simp only [hstage]
  unfold next Session.outcome Session.after
  rw [conduct_establish, hestablish, hrun]
  refine ⟨rfl, hmatches, ?_, ?_⟩
  · rintro ⟨info, hinfo⟩
    simp only [opened] at hinfo
    rw [hinfo]
    exact ⟨rfl, rfl⟩
  · intro hfails
    simp only [opened] at hfails
    cases hopen : ((Endpoint.openRequestChannel platform channel).run session.endpoint).1 with
    | error fault => exact ⟨rfl, rfl⟩
    | ok info => exact absurd ⟨info, hopen⟩ hfails

/-- Establishing a session that is ready does nothing. -/
theorem establish_of_ready (platform : Platform σ) (hstage : session.client.stage = .ready)
    (budget : Nat) :
    session.outcome platform (.establish budget) = .ok (.established true) ∧
      session.after platform (.establish budget) = session := by
  have hestablish : conduct (Client.establish platform budget) session.client session.endpoint =
      ((.ok true, session.client), session.endpoint) := by
    rw [Client.establish, conduct_bind, conduct_get]
    simp only [hstage, conduct_pure]
  unfold Session.outcome Session.after
  rw [conduct_establish, hestablish]
  exact ⟨rfl, rfl⟩

end Establish

/-- Establishing a session again redoes what is missing only, whatever happened before. With its
channel known, it reads the channel's standard attributes, which is one call, if the endpoint has a
buffer with room for them, and else does nothing. The session becomes ready exactly when these are
the attributes of a channel that carries RPMI and answers requests, and then its requests go through
that channel; otherwise it stays as it is, not ready. A session that is ready is left alone. So
whatever follows, a session has no other channel than the one that it resolved first. -/
theorem establish_resumes (platform : Platform σ) (config : Config)
    (communicate : Option (Communicate σ)) (endpoint : Endpoint σ) (moves : List (Move σ))
    (budget : Nat) :
    let start : Session σ := { client := .ofConfig config communicate, endpoint }
    let now := start.afterAll platform moves
    let next := now.after platform (.establish budget)
    let outcome := now.outcome platform (.establish budget)
    (∀ channel, now.client.stage = .channelResolved channel →
      now.client.delivery = none ∧
      (∀ buffer, now.endpoint.buffer = some buffer → 48 ≤ buffer.size.toNat →
        let call : Call := ⟨Extension.messageProxy, ProxyFunction.readAttributes,
          [channel.raw.toUInt64, 0, 12]⟩
        let answer := now.endpoint.world.answer platform call
        let word := (now.endpoint.world.called platform call).memory.word buffer.region.base
        let opens := answer.error = 0 ∧ word 0 = 0 ∧ word 5 &&& 8 = 8
        next.endpoint.buffer = some buffer ∧
        next.endpoint.world.deeds = now.endpoint.world.deeds ++ [.called call answer] ∧
        (opens → outcome = .ok (.established true) ∧ next.client =
          { now.client with delivery := some (.passThrough channel), stage := .ready }) ∧
        (¬opens → outcome = .error .notReady ∧ next.client = now.client)) ∧
      ((∀ buffer, now.endpoint.buffer = some buffer → buffer.size.toNat < 48) →
        next.endpoint.buffer = now.endpoint.buffer ∧
        next.endpoint.world.deeds = now.endpoint.world.deeds ∧
        outcome = .error .notReady ∧ next.client = now.client) ∧
      ∀ later, let last := (now.afterAll platform later).client
        last.stage = .channelResolved channel ∧ last.delivery = none ∨
          last.stage = .ready ∧ last.delivery = some (.passThrough channel)) ∧
    (now.client.stage = .ready → outcome = .ok (.established true) ∧ next = now) := by
  intro start now next outcome
  have hsound : Sound config communicate now.client :=
    sound_afterAll platform (.ofConfig config communicate) moves
  refine ⟨?_, fun hready => establish_of_ready platform hready budget⟩
  intro channel hstage
  have hknows : Knows now.client channel := .inl hstage
  obtain ⟨hsame, hmatches, hsucceeds, hfails⟩ :=
    establish_of_resolved platform hstage budget
  refine ⟨?_, ?_, ?_, ?_⟩
  · obtain ⟨-, hdelivery⟩ | ⟨hready, -⟩ := hknows.standing hsound
    · exact hdelivery
    · cases hstage.symm.trans hready
  · intro buffer hbuffer hsize call answer word opens
    obtain ⟨result, world, hopen, hresult, hleft⟩ :=
      Endpoint.run_openRequestChannel platform hbuffer hsize channel
    rw [hopen] at hsame hmatches hsucceeds hfails
    refine ⟨hsame.trans hbuffer, ?_, fun hopens => hsucceeds (hresult.2 hopens),
      fun hcloses => hfails fun hok => hcloses (hresult.1 hok)⟩
    exact (hleft.trans hmatches).deeds_eq.trans (World.deeds_called platform _ call)
  · intro hsize
    obtain ⟨fault, hopen⟩ :=
      Endpoint.run_openRequestChannel_of_forall_lt platform hsize channel
    rw [hopen] at hsame hmatches hfails
    exact ⟨hsame, hmatches.deeds_eq, hfails nofun⟩
  · intro later
    exact (hknows.afterAll hsound later).standing (sound_afterAll platform hsound later)

/-- A channel that cannot answer requests is found and not opened. When it can, the session becomes
ready with one call; when the endpoint has been torn down meanwhile, it stays as it is, without
one. -/
theorem establish_resumes_disturbed :
    let setup := Remote.Setup.echoing.withChannel 1
      (·.setAttributes (Remote.rpmiAttributes 10 0 ++ [(Attribute.capability, 16)]))
    let platform := Remote.platform setup Heap.allocate Heap.release
    let start : Session _ :=
      { client := .ofConfig { source := .fixed ⟨1⟩, group := 10 } none
        endpoint := { buffer := none, world := .fresh (.initial setup (), Heap.fresh) } }
    let now (change : Action _ Unit) := start.afterAll platform
      [.establish 0, .disturb fun endpoint => (change.run endpoint).2]
    let next (change : Action _ Unit) := (now change).after platform (.establish 0)
    let able := Endpoint.writeAttributes platform ⟨1⟩ Attribute.capability [8]
    let torn := Endpoint.deinit platform
    let call : Call := ⟨Extension.messageProxy, ProxyFunction.readAttributes, [1, 0, 12]⟩
    (now able).client.stage = .channelResolved ⟨1⟩ ∧
      (now torn).client.stage = .channelResolved ⟨1⟩ ∧
      (next able).client.delivery = some (.passThrough ⟨1⟩) ∧
      (next able).endpoint.world.deeds =
        (now able).endpoint.world.deeds ++ [.called call (.success 0)] ∧
      (next torn).client = (now torn).client ∧
      (next torn).endpoint.world.deeds = (now torn).endpoint.world.deeds := by
  intro setup platform start now next able torn call
  have hable : (now able).client.stage = .channelResolved ⟨1⟩ := by decide
  have htorn : (now torn).client.stage = .channelResolved ⟨1⟩ := by decide
  have hbuffer : (now able).endpoint.buffer = some ⟨⟨0x1000, 2, 0x1000⟩, 4096⟩ := by decide
  have hgone : (now torn).endpoint.buffer = none := by decide
  have hanswer : (now able).endpoint.world.answer platform call = .success 0 := by decide
  have hresumes (moves : List (Move _)) := (establish_resumes platform
    { source := .fixed ⟨1⟩, group := 10 } none start.endpoint moves 0).1 ⟨1⟩
  obtain ⟨-, hroom, -, -⟩ := hresumes _ hable
  obtain ⟨-, -, hsmall, -⟩ := hresumes _ htorn
  obtain ⟨-, hdeeds, hopens, -⟩ := hroom _ hbuffer (by decide)
  obtain ⟨-, hnone, -, hsame⟩ := hsmall fun buffer hholds => by
    cases hholds.symm.trans hgone
  refine ⟨hable, htorn, ?_, ?_, hsame, hnone⟩
  · exact congrArg Client.delivery (hopens ⟨congrArg Return.error hanswer, by decide⟩).2
  · exact hdeeds.trans (congrArg (fun answer => _ ++ [Event.called call answer]) hanswer)

end MessageProxy.Ras
