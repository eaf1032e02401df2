import MessageProxy.Proofs.Ras.Tokens

/-!
An agent that is a function of its requests, reached through a channel and in envelopes: both ways a
client learns the same.
-/

namespace MessageProxy.Ras

section Start

variable {σ : Type} {platform : Platform σ} {config : Config}
  {communicate : Option (Communicate σ)} {session : Session σ}

/-- No token is spent before a session is ready. -/
theorem tokens_afterAll (hsound : Sound config communicate session.client) {moves : List (Move σ)}
    (hstage : (session.afterAll platform moves).client.stage ≠ .ready) :
    (session.afterAll platform moves).client.tokens = session.client.tokens := by
  induction moves generalizing session with
  | nil => rfl
  | cons move rest ih =>
    have hstepped := stepped platform hsound move
    refine (ih hstepped.sound hstage).trans ?_
    have hbefore : session.client.stage ≠ .ready := by
      intro hready
      exact hstage (ready_afterAll hsound hready (move :: rest)).1
    exact tokens_after hsound fun hrequest => hbefore hrequest.2

/-- A channel is opened only on an endpoint that is initialised, and it stays so. -/
theorem isInitialized_openRequestChannel {channel : ChannelId} {endpoint : Endpoint σ}
    {info : ChannelInfo}
    (hopen : ((Endpoint.openRequestChannel platform channel).run endpoint).1 = .ok info) :
    ((Endpoint.openRequestChannel platform channel).run endpoint).2.isInitialized = true := by
  cases hbuffer : endpoint.buffer with
  | none =>
    have hread : (Endpoint.readAttributes platform channel 0 Attribute.standardCount).run endpoint =
        (.error .deviceError, endpoint) :=
      Endpoint.run_withBuffer_none hbuffer _ _
    rw [Endpoint.openRequestChannel, run_bind, Endpoint.openChannel, run_bind, hread] at hopen
    cases hopen
  | some buffer =>
    have hsteady : World.Steady platform buffer (fun _ => True) fun _ => True :=
      ⟨fun _ _ _ => trivial, fun _ _ _ _ => trivial, fun _ _ _ _ => trivial⟩
    have hkeeps : Keeps (Endpoint.Holding buffer fun _ => True)
        (Endpoint.openRequestChannel platform channel) :=
      .bind (Endpoint.keeps_openChannel hsteady (fun _ _ _ => trivial) channel) fun _ =>
        .ite (.pure _) (.bind (Endpoint.keeps_refuse hsteady _) fun _ => .pure _)
    obtain ⟨hkept, -⟩ := hkeeps endpoint ⟨hbuffer, trivial⟩
    rw [Endpoint.isInitialized, hkept]
    rfl

theorem isInitialized_establishOn {channel : ChannelId} {client : Client σ} {endpoint : Endpoint σ}
    (hready : (conduct (Client.establishOn platform channel) client endpoint).1.1 = .ok true) :
    (conduct (Client.establishOn platform channel) client endpoint).2.isInitialized = true := by
  obtain ⟨world, hestablish, -⟩ := Client.conduct_establishOn platform channel client endpoint
  rw [hestablish] at hready ⊢
  cases hopen : ((Endpoint.openRequestChannel platform channel).run endpoint).1 with
  | error fault =>
    rw [hopen] at hready
    cases hready
  | ok info => exact isInitialized_openRequestChannel hopen

/-- A session whose requests go through a channel is initialised when it has just become ready. -/
theorem isInitialized_establish (hsound : Sound config communicate session.client)
    (hpass : config.passThrough = true) {budget : Nat} (hbefore : session.client.stage ≠ .ready)
    (hafter : (session.after platform (.establish budget)).client.stage = .ready) :
    (session.after platform (.establish budget)).endpoint.isInitialized = true := by
  rw [Session.after, conduct_establish] at hafter ⊢
  obtain ⟨hsucceeds, -, -⟩ :=
    (Client.establishing platform budget hsound.ne_channelOpen session.endpoint).outcome
  have hready := hsucceeds.2 hafter
  revert hready
  unfold Client.establish
  simp only [conduct_bind, conduct_get]
  cases hstage : session.client.stage with
  | ready => exact absurd hstage hbefore
  | channelOpen channel => exact absurd hstage (hsound.ne_channelOpen channel)
  | channelResolved channel => exact isInitialized_establishOn
  | uninitialized =>
    simp only [hsound.config_eq, hpass, if_true, conduct_bind]
    rcases conduct (Client.resolve platform budget) session.client session.endpoint with
      ⟨⟨fault | found, middle⟩, between⟩
    · intro hready
      cases hready
    · cases found with
      | none =>
        intro hready
        cases hready
      | some channel => exact isInitialized_establishOn

/-- The last of the moves has made a session ready. -/
def JustReady (platform : Platform σ) (start : Session σ) (moves : List (Move σ)) : Prop :=
  ∃ earlier last, moves = earlier ++ [last] ∧
    (start.afterAll platform earlier).client.stage ≠ .ready ∧
    (start.afterAll platform moves).client.stage = .ready

/-- Only a call that establishes a session makes it ready. -/
theorem JustReady.established {moves : List (Move σ)}
    (hready : JustReady platform session moves) :
    ∃ earlier budget, moves = earlier ++ [.establish budget] ∧
      (session.afterAll platform earlier).client.stage ≠ .ready := by
  obtain ⟨earlier, last, rfl, hbefore, hafter⟩ := hready
  rw [Session.afterAll_append] at hafter
  change ((session.afterAll platform earlier).after platform last).client.stage = .ready at hafter
  cases hrequest : last.isRequest with
  | true =>
    rw [Session.after, conduct_perform_of_ne platform hrequest hbefore] at hafter
    exact absurd hafter hbefore
  | false =>
    cases last with
    | establish budget => exact ⟨earlier, budget, rfl, hbefore⟩
    | disturb change => exact absurd hafter hbefore
    | _ => cases hrequest

theorem JustReady.tokens_eq (hsound : Sound config communicate session.client)
    {moves : List (Move σ)} (hready : JustReady platform session moves) :
    (session.afterAll platform moves).client.tokens = session.client.tokens := by
  obtain ⟨earlier, budget, rfl, hbefore⟩ := hready.established
  rw [Session.afterAll_append]
  exact (tokens_establish (sound_afterAll platform hsound earlier) budget).trans
    (tokens_afterAll hsound hbefore)

theorem JustReady.isInitialized (hsound : Sound config communicate session.client)
    (hpass : config.passThrough = true) {moves : List (Move σ)}
    (hready : JustReady platform session moves) :
    (session.afterAll platform moves).endpoint.isInitialized = true := by
  obtain ⟨earlier, budget, rfl, hbefore⟩ := hready.established
  obtain ⟨-, -, -, -, hafter⟩ := hready
  rw [Session.afterAll_append] at hafter ⊢
  exact isInitialized_establish (sound_afterAll platform hsound earlier) hpass hbefore hafter

end Start

section Deliveries

open Remote

variable {κ α σ : Type} {setup : Setup κ} {allocate : UInt64 → α → Option Region × α}
  {channel : ChannelId} {entry : Channel κ} {handler : Handler κ} {answer : Bytes → Bytes}
  {give : Communicate σ} {tag : Guid}

/-- A caller with a buffer of its own gets an answer that is within the bounds both ways. -/
theorem deliverTo_deliveries (allocate : UInt64 → α → Option Region × α)
    (release : Region → α → α) (platform : Platform σ) {buffer : SharedBuffer}
    {first : Endpoint (State κ × α)} (hconnected : Connected setup buffer first)
    (hreported : setup.reportedLength = none) (hchannel : setup.channel? channel.raw = some entry)
    (hhandler : entry.handler = some handler) {service : UInt8} {request caller : Bytes}
    (hgives : Gives handler service.toUInt32 request (· = answer request))
    (hconveys : Delivery.Conveys give tag request (· = answer request))
    (second : Endpoint σ) (hrequest : request.length < setup.size.toNat)
    (hsize : (answer request).length ≤ setup.size.toNat)
    (hcaller : (answer request).length ≤ caller.length)
    (hword : Envelope.headerLength + max request.length caller.length < UInt64.size) :
    let outcome := (Except.ok (answer request).length,
      answer request ++ caller.drop (answer request).length)
    Endpoint.deliverTo caller (((Delivery.passThrough channel).exchange
        (Remote.platform setup allocate release) service request caller.length).run first).1 =
        outcome ∧
      Endpoint.deliverTo caller (((Delivery.enveloped give tag).exchange platform service request
        caller.length).run second).1 = outcome := by
  intro outcome
  have hbounds : ∀ reply, reply = answer request →
      reply.length ≤ setup.size.toNat ∧ reply.length ≤ caller.length := by
    rintro _ rfl
    exact ⟨hsize, hcaller⟩
  obtain ⟨_, through, rfl, hthrough, -⟩ := exchange_passThrough allocate release hconnected
    hreported hchannel hhandler hgives hrequest hbounds
  obtain ⟨_, around, rfl, haround⟩ := Delivery.exchange_enveloped hconveys hword
    (fun reply hreply => (hbounds reply hreply).2) platform service second
  rw [hthrough, haround]
  exact ⟨rfl, rfl⟩

/-- An agent that is a function of its requests is the same to a client in both ways. A caller gets
the same answer in the same buffer, the empty one included; so two sessions of one service group,
one through a channel and one in envelopes, that have just become ready return the same for the same
queries, one by one, whatever the answers say, as long as they are within the bounds. The remote is
assumed not to refuse to set the shared memory with the code that means success. -/
theorem deliveries_agree (hreports : setup.Reports) (hreported : setup.reportedLength = none)
    (hgrants : Grants allocate) (release : Region → α → α) (agents : κ) (pages : α)
    (hchannel : setup.channel? channel.raw = some entry) (hhandler : entry.handler = some handler)
    (hgives : ∀ message request, Gives handler message request (· = answer request))
    (hconveys : ∀ request, Delivery.Conveys give tag request (· = answer request))
    (platform : Platform σ) (endpoint : Endpoint σ) :
    let remote := Remote.platform setup allocate release
    let fresh : Endpoint (State κ × α) :=
      { buffer := none, world := .fresh (.initial setup agents, pages) }
    (∀ first service request caller,
      let outcome := (Except.ok (answer request).length,
        answer request ++ caller.drop (answer request).length)
      Endpoint.Reaches remote fresh first → first.isInitialized = true →
      request.length < setup.size.toNat → (answer request).length ≤ setup.size.toNat →
      (answer request).length ≤ caller.length →
      Envelope.headerLength + max request.length caller.length < UInt64.size →
      Endpoint.deliverTo caller (((Delivery.passThrough channel).exchange remote service request
          caller.length).run first).1 = outcome ∧
        Endpoint.deliverTo caller (((Delivery.enveloped give tag).exchange platform service request
          caller.length).run endpoint).1 = outcome) ∧
    ∀ config communicate moves config' communicate' moves' queries,
      let start : Session _ := { client := .ofConfig config communicate, endpoint := fresh }
      let start' : Session _ := { client := .ofConfig config' communicate', endpoint }
      let now := start.afterAll remote moves
      let now' := start'.afterAll platform moves'
      config.group = config'.group → Operates remote moves →
      JustReady remote start moves → now.client.delivery = some (.passThrough channel) →
      JustReady platform start' moves' → now'.client.delivery = some (.enveloped give tag) →
      (∀ entry ∈ Query.numbered ⟨1⟩ queries,
        let request := entry.1.frame config.group entry.2
        request.length < setup.size.toNat ∧ (answer request).length ≤ setup.size.toNat ∧
          (answer request).length ≤ entry.1.room) →
      now.outcomes remote (queries.map Query.move) =
        now'.outcomes platform (queries.map Query.move) := by
  intro remote fresh
  refine ⟨?_, ?_⟩
  · intro first service request caller outcome hreaches hinitialized hrequest hsize hcaller hword
    have halone := alone_of_reaches hreports hgrants hreaches
    obtain ⟨buffer, hbuffer⟩ := Option.isSome_iff_exists.1 hinitialized
    exact deliverTo_deliveries allocate release platform (halone.connected hbuffer) hreported
      hchannel hhandler (hgives _ request) (hconveys request) endpoint hrequest hsize hcaller hword
  · intro config communicate moves config' communicate' moves' queries start start' now now' hgroup
      hmoves hready hdelivery hready' hdelivery' hbounds
    have hsound : Sound config communicate start.client := .ofConfig config communicate
    have hsound' : Sound config' communicate' start'.client := .ofConfig config' communicate'
    have htokens : now.client.tokens = ⟨1⟩ := hready.tokens_eq hsound
    have htokens' : now'.client.tokens = ⟨1⟩ := hready'.tokens_eq hsound'
    have hthrough := outcomes_passThrough hreports hreported hgrants release agents pages hchannel
      hhandler queries (fun query token =>
        query.outcome config.group token (answer (query.frame config.group token))) hmoves
      (hready.isInitialized hsound ((sound_afterAll remote hsound moves).passThrough_eq hdelivery))
      hdelivery ?_
    · have haround := outcomes_enveloped platform endpoint queries (fun query token =>
        query.outcome config.group token (answer (query.frame config.group token))) hdelivery' ?_
      · rw [hthrough, haround, htokens, htokens']
      rw [htokens', ← hgroup]
      intro entry hentry
      obtain ⟨-, -, hroom⟩ := hbounds entry hentry
      refine (hconveys _).mono ?_
      rintro _ rfl
      exact ⟨hroom, rfl⟩
    · rw [htokens]
      intro entry hentry
      obtain ⟨hrequest, hsize, hroom⟩ := hbounds entry hentry
      refine ⟨hrequest, (hgives _ _).mono ?_⟩
      rintro _ rfl
      exact ⟨⟨hsize, hroom⟩, rfl⟩

/-- An agent that sends back what follows the header, so that most of its answers are empty. -/
def sendBack : Bytes → Bytes :=
  List.drop Header.length

/-- Its answers are no responses, and both ways a client is told so; a caller of its own finds that
nothing came back. -/
theorem deliveries_agree_sendBack :
    let remote := platform (serving sendBack) Heap.allocate Heap.release
    let start := Session.served sendBack { source := .fixed ⟨7⟩ }
    let start' := Session.served sendBack { passThrough := false }
    let queries := [Query.sourceIds, .sourceDescriptor 20].map Query.move
    let first := Endpoint.after remote start.endpoint .init
    let request : Bytes := [11, 0, 1, 0, 1, 0, 0, 0]
    (serving sendBack).Reports ∧ Grants Heap.allocate ∧ first.isInitialized = true ∧
      JustReady remote start [.establish 0] ∧ JustReady remote start' [.sourceIds, .establish 0] ∧
      (start.afterAll remote [.establish 0]).outcomes remote queries =
        (start'.afterAll remote [.sourceIds, .establish 0]).outcomes remote queries ∧
      Endpoint.deliverTo [5, 6] (((Delivery.passThrough ⟨7⟩).exchange remote 1 request 2).run
        first).1 = (.ok 0, [5, 6]) ∧
      Endpoint.deliverTo [5, 6] (((Delivery.enveloped (Delivery.putting sendBack)
        (Vector.replicate 16 0)).exchange remote 1 request 2).run start'.endpoint).1 =
          (.ok 0, [5, 6]) := by
  have hreports : (serving sendBack).Reports := ⟨nofun, nofun⟩
  have hchannel : (serving sendBack).channel? (⟨7⟩ : ChannelId).raw =
      some { (Channel.bare : Channel Unit).setAttributes (rpmiAttributes 11 0) with
        handler := some (answering sendBack) } := rfl
  obtain ⟨hcallers, hsessions⟩ := deliveries_agree hreports rfl grants_heap Heap.release ()
    Heap.fresh hchannel rfl (fun message request => gives_answering sendBack message request)
    (Delivery.conveys_putting sendBack (Vector.replicate 16 0))
    (platform (serving sendBack) Heap.allocate Heap.release)
    (Session.served sendBack { passThrough := false }).endpoint
  have hready : JustReady (platform (serving sendBack) Heap.allocate Heap.release)
      (Session.served sendBack { source := .fixed ⟨7⟩ }) [.establish 0] :=
    ⟨[], .establish 0, rfl, nofun, by decide⟩
  have hready' : JustReady (platform (serving sendBack) Heap.allocate Heap.release)
      (Session.served sendBack { passThrough := false }) [.sourceIds, .establish 0] :=
    ⟨[.sourceIds], .establish 0, rfl, nofun, rfl⟩
  obtain ⟨hthrough, haround⟩ := hcallers _ 1 [11, 0, 1, 0, 1, 0, 0, 0] [5, 6] (.after .init .refl)
    (by decide) (by decide) (by decide) (by decide) (by decide)
  dsimp only
  refine ⟨hreports, grants_heap, by decide, hready, hready', ?_, hthrough, haround⟩
  exact hsessions { source := .fixed ⟨7⟩ } _ [.establish 0] { passThrough := false } _
    [.sourceIds, .establish 0] [.sourceIds, .sourceDescriptor 20] rfl nofun hready
    (Delivery.eq_of_channel? (by decide)) hready' rfl (by decide)

end Deliveries

end MessageProxy.Ras
