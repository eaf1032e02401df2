import MessageProxy.Proofs.Ras.Shared

/-!
The tokens of a session: which one a request carries, and what becomes of a reply that carries the
token of another.
-/

namespace MessageProxy.Ras

variable {σ : Type} {platform : Platform σ} {session : Session σ}

/-- How many requests of a run are made while the session is ready. -/
def Session.requestCount (platform : Platform σ) : Session σ → List (Move σ) → Nat
  | _, [] => 0
  | session, move :: rest =>
    let count := requestCount platform (session.after platform move) rest
    if move.isRequest = true ∧ session.client.stage = .ready then count + 1 else count

theorem exists_query_of_isRequest {move : Move σ} (hrequest : move.isRequest = true) :
    ∃ query : Query, move = query.move := by
  cases move with
  | establish | disturb => cases hrequest
  | sourceCount => exact ⟨.sourceCount, rfl⟩
  | sourceIds => exact ⟨.sourceIds, rfl⟩
  | sourceDescriptor source => exact ⟨.sourceDescriptor source, rfl⟩

/-- An endpoint after another, when nothing but log lines has come in between. -/
structure Logged (before after : Endpoint σ) : Prop where
  buffer : after.buffer = before.buffer
  memory : after.world.memory = before.world.memory
  state : after.world.state = before.world.state

theorem Logged.noted {before after : Endpoint σ} (hlogged : Logged before after) (notice : Notice) :
    Logged before { after with world := after.world.noted notice } :=
  ⟨hlogged.buffer, hlogged.memory, hlogged.state⟩

/-- A query on a session that is ready takes a token, delivers the frame with that token and reads
the response, however the delivery ends. -/
theorem conduct_query_of_ready (platform : Platform σ) {delivery : Delivery σ}
    (hstage : session.client.stage = .ready)
    (hdelivery : session.client.delivery = some delivery) (query : Query) :
    let group := session.client.config.group
    let token := session.client.tokens.next
    let exchanged := (delivery.exchange platform query.service (query.frame group token)
      query.room).run session.endpoint
    session.outcome platform query.move = exchanged.1 >>= query.outcome group token ∧
      (session.after platform query.move).client =
        { session.client with tokens := session.client.tokens.take.2 } ∧
      Logged exchanged.2 (session.after platform query.move).endpoint := by
  intro group token exchanged
  unfold Session.outcome Session.after
  cases hexchange : exchanged.1 with
  | ok response =>
    obtain ⟨last, hquery, hlogged⟩ := conduct_query hstage hdelivery (P := Logged exchanged.2)
      (Prod.ext hexchange rfl) (fun _ notice hlogged => hlogged.noted notice) ⟨rfl, rfl, rfl⟩
    rw [hquery]
    exact ⟨rfl, rfl, hlogged⟩
  | error fault =>
    have hrun : (delivery.exchange platform query.service (query.frame group token)
        query.room).run session.endpoint = (.error fault, exchanged.2) := Prod.ext hexchange rfl
    have hquery : conduct (query.move.perform platform) session.client session.endpoint =
        ((.error fault, { session.client with tokens := session.client.tokens.take.2 }),
          exchanged.2) := by
      rw [conduct_move, conduct_bind, conduct_request hstage hdelivery, conduct_bind, conduct_lift,
        hrun]
    rw [hquery]
    exact ⟨rfl, rfl, rfl, rfl, rfl⟩

section Count

variable {config : Config} {communicate : Option (Communicate σ)}

/-- Establishing a session spends no token. -/
theorem tokens_establish (hsound : Sound config communicate session.client) (budget : Nat) :
    (session.after platform (.establish budget)).client.tokens = session.client.tokens := by
  have hresult := Client.establishing platform budget hsound.ne_channelOpen session.endpoint
  rw [Session.after, conduct_establish]
  generalize (conduct (Client.establish platform budget) session.client session.endpoint).1 =
    result at hresult ⊢
  obtain ⟨outcome, next⟩ := result
  cases hresult with
  | settled | stuck | searching | resolved | opened | found | enveloped => rfl

/-- Only a request in a session that is ready spends a token. -/
theorem tokens_after (hsound : Sound config communicate session.client) {move : Move σ}
    (hidle : ¬(move.isRequest = true ∧ session.client.stage = .ready)) :
    (session.after platform move).client.tokens = session.client.tokens := by
  cases hrequest : move.isRequest with
  | true =>
    rw [Session.after, conduct_perform_of_ne platform hrequest fun hready =>
      hidle ⟨hrequest, hready⟩]
  | false =>
    cases move with
    | establish budget => exact tokens_establish hsound budget
    | disturb change => rfl
    | _ => cases hrequest

/-- A run spends one token for each request that it makes while the session is ready. -/
theorem tokens_next_afterAll (hsound : Sound config communicate session.client)
    (moves : List (Move σ)) :
    (session.afterAll platform moves).client.tokens.next =
      session.client.tokens.next + (session.requestCount platform moves).toUInt16 := by
  induction moves generalizing session with
  | nil => exact (UInt16.add_zero _).symm
  | cons move rest ih =>
    refine (ih (stepped platform hsound move).sound).trans ?_
    rw [Session.requestCount]
    by_cases hready : move.isRequest = true ∧ session.client.stage = .ready
    · obtain ⟨hrequest, hstage⟩ := hready
      obtain ⟨query, rfl⟩ := exists_query_of_isRequest hrequest
      obtain ⟨delivery, hdelivery⟩ := Option.isSome_iff_exists.1 (hsound.isSome_iff.2 hstage)
      obtain ⟨-, hclient, -⟩ := conduct_query_of_ready platform hstage hdelivery query
      have hone : Nat.toUInt16 1 = 1 := rfl
      rw [if_pos ⟨hrequest, hstage⟩, hclient, TokenSource.take, UInt16.add_assoc, ← hone,
        ← UInt16.ofNat_add, Nat.add_comm]
    · rw [if_neg hready, tokens_after hsound hready]

end Count

/-- A frame with another token than the query's is no response to it. -/
theorem Query.outcome_of_ne {query : Query} {group token : UInt16} {response : Bytes}
    {header : Header} (hheader : Header.decode? response = some header)
    (htoken : header.token ≠ token) :
    query.outcome group token response = .error .deviceError := by
  have hforeign : header.answers (.request group query.service token) = false := by
    simp [Header.answers, Header.request, htoken]
  rw [Query.outcome, Reply.ofFrame, Frame.decode, hheader]
  simp only [hforeign]
  rfl

/-- Two sequence numbers give the same token only when they are a multiple of all tokens apart. -/
theorem dvd_sub_of_token_eq {first second : Nat}
    (htoken : (1 + first).toUInt16 = (1 + second).toUInt16) :
    (65536 : Int) ∣ first - second := by
  have hnat := congrArg UInt16.toNat htoken
  simp only [Nat.toUInt16_eq, UInt16.toNat_ofNat'] at hnat
  omega

/-- Replies are bound to their requests over whole runs, whatever the firmware answers, whatever
becomes of envelopes and whatever others do to the endpoint in between. When `count` requests have
been made in a session that is ready, the next one goes out in a frame with the token `1 + count`,
which wraps, and comes to what the reply says as the answer to that token; it spends that one token,
however it ends. A reply with the token of another request makes it fail, whatever else it says,
unless there is a multiple of 65536 requests between the two. -/
theorem tokens_bind_replies (platform : Platform σ) (config : Config)
    (communicate : Option (Communicate σ)) (endpoint : Endpoint σ) (moves : List (Move σ)) :
    let start : Session σ := { client := .ofConfig config communicate, endpoint }
    let now := start.afterAll platform moves
    let count := start.requestCount platform moves
    let token := (1 + count).toUInt16
    now.client.stage = .ready → ∃ delivery, now.client.delivery = some delivery ∧
      ∀ query : Query,
        let frame := query.frame config.group token
        let exchanged :=
          (delivery.exchange platform query.service frame query.room).run now.endpoint
        let next := now.after platform query.move
        Header.decode? frame = some (query.header config.group token) ∧
        now.outcome platform query.move = exchanged.1 >>= query.outcome config.group token ∧
        Logged exchanged.2 next.endpoint ∧
        next.client = { now.client with tokens := ⟨token + 1⟩ } ∧
        ∀ reply header (other : Nat), exchanged.1 = .ok reply →
          Header.decode? reply = some header → header.token = (1 + other).toUInt16 →
          ¬(65536 : Int) ∣ other - count →
          now.outcome platform query.move = .error .deviceError := by
  intro start now count token hstage
  have hstart : Sound config communicate start.client := .ofConfig config communicate
  have hsound : Sound config communicate now.client := sound_afterAll platform hstart moves
  have htoken : now.client.tokens.next = token := by
    rw [tokens_next_afterAll hstart moves]
    exact (UInt16.ofNat_add 1 count).symm
  obtain ⟨delivery, hdelivery⟩ := Option.isSome_iff_exists.1 (hsound.isSome_iff.2 hstage)
  refine ⟨delivery, hdelivery, fun query => ?_⟩
  intro frame exchanged next
  obtain ⟨houtcome, hclient, hlogged⟩ := conduct_query_of_ready platform hstage hdelivery query
  rw [hsound.config_eq, htoken] at houtcome hlogged
  rw [TokenSource.take, htoken] at hclient
  refine ⟨Header.decode?_encode_append _ _, houtcome, hlogged, hclient, ?_⟩
  intro reply header other hreply hheader hother hapart
  rw [houtcome]
  change exchanged.1 >>= _ = _
  rw [hreply]
  refine Query.outcome_of_ne hheader fun hsame => hapart (dvd_sub_of_token_eq ?_)
  rw [← hother]
  exact hsame

/-- An agent that gives the answer to the first request of a session, a count of three, to every
request. -/
def repeatFirst : Bytes → Bytes := fun _ =>
  [11, 0, 1, 2, 1, 0, 24, 0, 0, 0, 0, 0, 0, 0, 0, 0, 0, 0, 0, 0, 0, 0, 0, 0, 0, 0, 0, 0, 3, 0, 0, 0]

/-- That answer is taken for the first request and refused for the second. -/
theorem tokens_bind_replies_repeatFirst :
    let platform := Remote.platform (serving repeatFirst) Heap.allocate Heap.release
    let endpoint : Endpoint _ :=
      { buffer := none, world := .fresh (.initial (serving repeatFirst) (), Heap.fresh) }
    let start : Session _ :=
      { client := .ofConfig { passThrough := false } (some (Delivery.putting repeatFirst))
        endpoint }
    let first := start.afterAll platform [.establish 0]
    let second := start.afterAll platform [.establish 0, .sourceCount]
    first.client.stage = .ready ∧ second.client.stage = .ready ∧
      start.requestCount platform [.establish 0, .sourceCount] = 1 ∧
      first.outcome platform .sourceCount = .ok (.count 3) ∧
      second.outcome platform .sourceCount = .error .deviceError ∧
      (second.after platform .sourceCount).client.tokens.next = 3 := by
  intro platform endpoint start first second
  have hsound : Sound { passThrough := false } (some (Delivery.putting repeatFirst))
      start.client := .ofConfig _ _
  have hfirst : first.client.stage = .ready := rfl
  have hdelivery : first.client.delivery =
      some (.enveloped (Delivery.putting repeatFirst) (Vector.replicate 16 0)) := rfl
  have hgiven : ∀ (token : UInt16) (endpoint : Endpoint (Remote.State Unit × Heap)),
      (((Delivery.enveloped (Delivery.putting repeatFirst) (Vector.replicate 16 0)).exchange
        platform Query.sourceCount.service (Query.sourceCount.frame ServiceGroup.ras token)
        Query.sourceCount.room).run endpoint).1 = .ok (repeatFirst []) := by
    intro token endpoint
    exact Delivery.exchange_putting repeatFirst _ (show 24 + max 8 32 < UInt64.size by decide)
      (show 32 ≤ 32 by decide) platform _ endpoint
  have hbind := tokens_bind_replies platform { passThrough := false }
    (some (Delivery.putting repeatFirst)) endpoint
  have hstart : start =
      { client := .ofConfig { passThrough := false } (some (Delivery.putting repeatFirst))
        endpoint } := rfl
  -- From here on nothing runs the session.
  simp only [← hstart] at hbind
  clear_value start
  obtain ⟨hsecond, hkept⟩ : second.client.stage = .ready ∧
      second.client.delivery = first.client.delivery :=
    ready_afterAll (sound_afterAll platform hsound [.establish 0]) hfirst [.sourceCount]
  have hcount : start.requestCount platform [.establish 0, .sourceCount] = 1 := by
    rw [Session.requestCount, if_neg nofun, Session.requestCount, if_pos ⟨rfl, hfirst⟩]
    rfl
  obtain ⟨_, hbefore, hqueries⟩ := hbind [.establish 0] hfirst
  obtain rfl := Option.some.inj (hdelivery.symm.trans hbefore)
  have hanswered := (hqueries .sourceCount).2.1
  obtain ⟨_, hbefore, hqueries⟩ := hbind [.establish 0, .sourceCount] hsecond
  obtain rfl := Option.some.inj ((hkept.trans hdelivery).symm.trans hbefore)
  have hclient := (hqueries .sourceCount).2.2.2.1
  have hrefused := (hqueries .sourceCount).2.2.2.2
  rw [hcount] at hclient hrefused
  refine ⟨hfirst, hsecond, hcount, hanswered.trans ?_, ?_,
    congrArg (fun client => client.tokens.next) hclient⟩
  · rw [hgiven]
    rfl
  · exact hrefused (repeatFirst []) _ 0 (hgiven _ _) rfl rfl (by decide)

end MessageProxy.Ras
