import MessageProxy.Proofs.Delivery
import MessageProxy.Proofs.Ras.Move

/-!
The requests of a session, one after the other: what each sends, and how its outcome is read out of
the response.
-/

namespace MessageProxy.Ras

/-- A request to an agent. -/
inductive Query where
  | sourceCount
  | sourceIds
  | sourceDescriptor (source : UInt32)
deriving DecidableEq

namespace Query

def service : Query → UInt8
  | sourceCount => Service.sourceCount
  | sourceIds => Service.sourceIds
  | sourceDescriptor _ => Service.sourceDescriptor

/-- What a query sends along. -/
def data : Query → Bytes
  | sourceCount | sourceIds => []
  | sourceDescriptor source => Bytes.ofUInt32 source

/-- The longest payload that is taken for a response. -/
def capacity : Query → Nat
  | sourceCount => 4
  | sourceIds => 4 * maxSources
  | sourceDescriptor _ => maxDescriptorLength

/-- The longest response that is taken. -/
def room (query : Query) : Nat :=
  Header.length + ResponseHeader.length + query.capacity

/-- The header of the request, with the length of its data. -/
def header (query : Query) (group token : UInt16) : Header :=
  { Header.request group query.service token with dataLength := query.data.length.toUInt16 }

/-- The request as it is sent. -/
def frame (query : Query) (group token : UInt16) : Bytes :=
  (query.header group token).encode ++ query.data

theorem length_data_le (query : Query) : query.data.length ≤ 4 := by
  cases query with
  | sourceCount | sourceIds => exact Nat.zero_le 4
  | sourceDescriptor source => exact Nat.le_refl 4

theorem encode_data (query : Query) (group token : UInt16) :
    Frame.encode (Header.request group query.service token) query.data =
      .ok (query.frame group token) :=
  Frame.encode_of_le _ (Nat.le_trans query.length_data_le (by decide))

theorem room_le (query : Query) : query.room ≤ 2076 := by
  cases query with
  | sourceCount | sourceIds => decide
  | sourceDescriptor source =>
    exact (by decide : Header.length + ResponseHeader.length + maxDescriptorLength ≤ 2076)

theorem length_frame_le (query : Query) (group token : UInt16) :
    (query.frame group token).length ≤ 12 := by
  rw [Frame.length_of_encode (query.encode_data group token)]
  exact Nat.add_le_add_left query.length_data_le Header.length

/-- What is read out of a response that reports success. -/
def read : Query → Reply → Except Refusal Result
  | sourceCount, reply => .count <$> reply.sourceCount
  | sourceIds, reply => .ids <$> reply.sourceIds
  | sourceDescriptor source, reply => .descriptor <$> reply.sourceDescriptor source

/-- What a response frame comes to as the answer to the query with a token. -/
def outcome (query : Query) (group token : UInt16) (response : Bytes) : Except Fault Result :=
  Except.mapError Refusal.fault do
    let reply ← Reply.ofFrame (.request group query.service token) response
    AgentStatus.check reply.header.status
    query.read reply

theorem outcome_of_frame {query : Query} {group token : UInt16} {response : Bytes} {reply : Reply}
    (hframe : Reply.ofFrame (.request group query.service token) response = .ok reply) :
    query.outcome group token response =
      (AgentStatus.check reply.header.status >>= fun _ => query.read reply).mapError
        Refusal.fault := by
  rw [Query.outcome, hframe]
  rfl

/-- The call that sends the query. -/
def move {σ : Type} : Query → Move σ
  | sourceCount => .sourceCount
  | sourceIds => .sourceIds
  | sourceDescriptor source => .sourceDescriptor source

end Query

variable {σ : Type} {platform : Platform σ} {client : Client σ} {endpoint next : Endpoint σ}

theorem conduct_map_accept {α β : Type} (request : ClientAction σ Reply)
    (read : Reply → Except Refusal α) (wrap : α → β) (client : Client σ) (endpoint : Endpoint σ) :
    conduct ((request >>= fun reply => accept (read reply)) >>= fun value => pure (wrap value))
        client endpoint =
      conduct (request >>= fun reply => accept (wrap <$> read reply)) client endpoint := by
  simp only [conduct_bind]
  rcases conduct request client endpoint with ⟨⟨_ | reply, _⟩, _⟩
  · rfl
  · dsimp only
    cases read reply with
    | error reason => rfl
    | ok value => rfl

/-- Every query is a request whose response is read. -/
theorem conduct_move (platform : Platform σ) (query : Query) (client : Client σ)
    (endpoint : Endpoint σ) :
    conduct (query.move.perform platform) client endpoint =
      conduct (do
        let reply ← Client.request platform query.service query.data query.capacity
        accept (query.read reply)) client endpoint := by
  cases query with
  | sourceCount | sourceIds | sourceDescriptor =>
    exact conduct_map_accept (Client.request platform _ _ _) _ _ client endpoint

/-- A request of a session that is ready takes a token and is delivered; then the response is
checked. -/
theorem conduct_request {delivery : Delivery σ} (hstage : client.stage = .ready)
    (hdelivery : client.delivery = some delivery) (query : Query) :
    let header := Header.request client.config.group query.service client.tokens.next
    conduct (Client.request platform query.service query.data query.capacity) client endpoint =
      conduct (do
        let response ← delivery.exchange platform query.service
          (query.frame client.config.group client.tokens.next) query.room
        let reply ← accept (Reply.ofFrame header response)
        note (.serviceAnswered query.service reply.header)
        accept (AgentStatus.check reply.header.status)
        return reply : ClientAction σ Reply)
        { client with tokens := client.tokens.take.2 } endpoint := by
  obtain ⟨config, communicate, _, tokens, _⟩ := client
  cases hstage
  cases hdelivery
  intro header
  have htake : conduct (Client.takeToken : ClientAction σ UInt16)
      ⟨config, communicate, some delivery, tokens, .ready⟩ endpoint =
      ((.ok tokens.next, ⟨config, communicate, some delivery, tokens.take.2, .ready⟩), endpoint) :=
    rfl
  rw [Client.request, conduct_bind, conduct_get]
  dsimp only
  rw [conduct_bind, htake]
  dsimp only
  rw [query.encode_data]
  rfl

/-- On a session that is ready, the outcome of a query is what its response comes to, and it spends
a token. What it does to the endpoint is what delivering the request does, and to log. -/
theorem conduct_query {delivery : Delivery σ} (hstage : client.stage = .ready)
    (hdelivery : client.delivery = some delivery) {query : Query} {response : Bytes}
    (hexchange : (delivery.exchange platform query.service
      (query.frame client.config.group client.tokens.next) query.room).run endpoint =
        (.ok response, next)) {P : Endpoint σ → Prop}
    (hnoted : ∀ endpoint notice, P endpoint →
      P { endpoint with world := endpoint.world.noted notice })
    (hnext : P next) :
    ∃ last, conduct (query.move.perform platform) client endpoint =
        ((query.outcome client.config.group client.tokens.next response,
          { client with tokens := client.tokens.take.2 }), last) ∧ P last := by
  rw [conduct_move, conduct_bind, conduct_request hstage hdelivery, conduct_bind, conduct_lift,
    hexchange]
  dsimp only
  cases hframe : Reply.ofFrame (.request client.config.group query.service client.tokens.next)
    response with
  | error reason =>
    rw [Query.outcome, hframe]
    simp only [conduct_bind, conduct_accept_error]
    exact ⟨_, rfl, hnoted _ _ hnext⟩
  | ok reply =>
    simp only [conduct_bind, conduct_accept_ok, conduct_note]
    have hanswered := hnoted _ (.serviceAnswered query.service reply.header) hnext
    cases hstatus : AgentStatus.check reply.header.status with
    | error reason =>
      rw [Query.outcome_of_frame hframe, hstatus]
      simp only [conduct_accept_error]
      exact ⟨_, rfl, hnoted _ _ hanswered⟩
    | ok _ =>
      rw [Query.outcome_of_frame hframe, hstatus]
      simp only [conduct_accept_ok, conduct_pure]
      cases query.read reply with
      | error reason => exact ⟨_, rfl, hnoted _ _ hanswered⟩
      | ok result => exact ⟨_, rfl, hanswered⟩

/-- What the moves of a sequence return, in order. -/
def Session.outcomes (platform : Platform σ) :
    Session σ → List (Move σ) → List (Except Fault Result)
  | _, [] => []
  | session, move :: rest =>
    session.outcome platform move :: outcomes platform (session.after platform move) rest

/-- The queries of a sequence, each with the token that it takes. -/
def Query.numbered (tokens : TokenSource) (queries : List Query) : List (Query × UInt16) :=
  queries.zip (tokens.takeMany queries.length).1

theorem Query.mem_of_numbered {tokens : TokenSource} {queries : List Query}
    {entry : Query × UInt16} (hentry : entry ∈ numbered tokens queries) : entry.1 ∈ queries :=
  (List.of_mem_zip hentry).1

theorem Query.map_numbered {α : Type} (value : Query → α) (tokens : TokenSource)
    (queries : List Query) :
    (numbered tokens queries).map (fun entry => value entry.1) = queries.map value := by
  induction queries generalizing tokens with
  | nil => rfl
  | cons query rest ih => exact congrArg (value query :: ·) (ih tokens.take.2)

/-- On every endpoint of `P`, the request of a query is delivered and brings a response that comes
to `result`, and the endpoint stays in `P`. -/
def Brings (platform : Platform σ) (delivery : Delivery σ) (P : Endpoint σ → Prop) (group : UInt16)
    (query : Query) (token : UInt16) (result : Except Fault Result) : Prop :=
  ∀ endpoint, P endpoint → ∃ response next,
    (delivery.exchange platform query.service (query.frame group token) query.room).run endpoint =
      (.ok response, next) ∧ P next ∧ query.outcome group token response = result

theorem brings_of_conveys {communicate : Communicate σ} {tag : Guid} {group token : UInt16}
    {query : Query} {result : Except Fault Result}
    (hconveys : Delivery.Conveys communicate tag (query.frame group token) fun reply =>
      reply.length ≤ query.room ∧ query.outcome group token reply = result) :
    Brings platform (.enveloped communicate tag) (fun _ => True) group query token result := by
  intro endpoint _
  have hrequest : Envelope.headerLength + max (query.frame group token).length query.room <
      UInt64.size := by
    have hframe := query.length_frame_le group token
    have hroom := query.room_le
    have hword : Envelope.headerLength + 2076 < UInt64.size := by decide
    omega
  obtain ⟨reply, next, ⟨-, hresult⟩, hexchange⟩ :=
    Delivery.exchange_enveloped hconveys hrequest (fun _ hreply => hreply.1) platform query.service
      endpoint
  exact ⟨reply, next, hexchange, trivial, hresult⟩

theorem brings_of_gives {κ α : Type} {setup : Remote.Setup κ}
    (allocate : UInt64 → α → Option Region × α) (release : Region → α → α)
    (hreported : setup.reportedLength = none) {channel : ChannelId} {entry : Remote.Channel κ}
    {handler : Remote.Handler κ} (hchannel : setup.channel? channel.raw = some entry)
    (hhandler : entry.handler = some handler) {group token : UInt16} {query : Query}
    {result : Except Fault Result} (hframe : (query.frame group token).length < setup.size.toNat)
    (hgives : Remote.Gives handler query.service.toUInt32 (query.frame group token) fun reply =>
      (reply.length ≤ setup.size.toNat ∧ reply.length ≤ query.room) ∧
        query.outcome group token reply = result) (buffer : SharedBuffer) :
    Brings (Remote.platform setup allocate release) (.passThrough channel)
      (Remote.Connected setup buffer) group query token result := by
  intro endpoint hconnected
  obtain ⟨reply, next, ⟨-, hresult⟩, hexchange, hnext⟩ :=
    Remote.exchange_passThrough allocate release hconnected hreported hchannel hhandler hgives
      hframe (fun _ hreply => hreply.1)
  exact ⟨reply, next, hexchange, hnext, hresult⟩

/-- The outcomes of a run of queries on a session that is ready are what the responses come to. -/
theorem outcomes_of_brings {delivery : Delivery σ} {P : Endpoint σ → Prop}
    (hnoted : ∀ endpoint notice, P endpoint →
      P { endpoint with world := endpoint.world.noted notice })
    {session : Session σ} (hstage : session.client.stage = .ready)
    (hdelivery : session.client.delivery = some delivery) (hendpoint : P session.endpoint)
    {queries : List Query} {result : Query → UInt16 → Except Fault Result}
    (hbrings : ∀ entry ∈ Query.numbered session.client.tokens queries,
      Brings platform delivery P session.client.config.group entry.1 entry.2
        (result entry.1 entry.2)) :
    session.outcomes platform (queries.map Query.move) =
      (Query.numbered session.client.tokens queries).map fun entry =>
        result entry.1 entry.2 := by
  induction queries generalizing session with
  | nil => rfl
  | cons query rest ih =>
    obtain ⟨hfirst, hrest⟩ := List.forall_mem_cons.1 hbrings
    obtain ⟨response, next, hexchange, hnext, hresult⟩ := hfirst session.endpoint hendpoint
    obtain ⟨last, hquery, hlast⟩ := conduct_query hstage hdelivery hexchange hnoted hnext
    have houtcome : session.outcome platform query.move =
        result query session.client.tokens.next :=
      (congrArg (fun run => run.1.1) hquery).trans hresult
    have hafter : session.after platform query.move =
        { client := { session.client with tokens := session.client.tokens.take.2 }
          endpoint := last } := by
      unfold Session.after
      rw [hquery]
    rw [List.map_cons, Session.outcomes, houtcome, hafter]
    exact congrArg _ (ih hstage hdelivery hlast hrest)

end MessageProxy.Ras
