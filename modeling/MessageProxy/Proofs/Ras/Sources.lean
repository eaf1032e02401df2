import MessageProxy.Proofs.Ras.Shared

/-!
The error sources of an agent, as a client reads them.
-/

namespace MessageProxy.Ras

/-- The error sources that an agent holds. -/
structure Sources where
  count : UInt32
  ids : List UInt32
  descriptor : UInt32 → Bytes
  length_ids_le : ids.length ≤ maxSources
  length_descriptor_le : ∀ source, (descriptor source).length ≤ maxDescriptorLength

namespace Sources

variable (sources : Sources)

/-- The data that answers a query. -/
def payload : Query → Bytes
  | .sourceCount => Bytes.ofUInt32 sources.count
  | .sourceIds => Bytes.ofWords sources.ids
  | .sourceDescriptor source => sources.descriptor source

/-- What the client makes of that data. -/
def result : Query → Result
  | .sourceCount => .count sources.count
  | .sourceIds => .ids sources.ids
  | .sourceDescriptor source => .descriptor { type := .ghesv2, bytes := sources.descriptor source }

/-- The number of items that a response returns is that of its data; for the one number that there
is, nobody looks at it. -/
def Counts (returned : UInt32) : Query → Prop
  | .sourceCount => True
  | .sourceIds => returned.toNat = sources.ids.length
  | .sourceDescriptor source => returned.toNat = (sources.descriptor source).length

/-- The reply acknowledges the query, reports success and brings all of the data. -/
def Answers (group : UInt16) (query : Query) (token : UInt16) (reply : Bytes) : Prop :=
  ∃ header : ResponseHeader, header.status = 0 ∧ header.remaining = 0 ∧
    header.flags &&& descriptorTypeMask = 0 ∧ sources.Counts header.returned query ∧
    Frame.encode (query.header group token).reply (header.encode ++ sources.payload query) =
      .ok reply

theorem length_payload_le (query : Query) : (sources.payload query).length ≤ query.capacity := by
  cases query with
  | sourceCount => exact Nat.le_refl 4
  | sourceIds =>
    rw [payload, Bytes.length_ofWords]
    exact Nat.mul_le_mul_left 4 sources.length_ids_le
  | sourceDescriptor source => exact sources.length_descriptor_le source

/-- What is read out of a response with the data of a query. -/
theorem read_payload {query : Query} {header : ResponseHeader} (hremaining : header.remaining = 0)
    (htype : header.flags &&& descriptorTypeMask = 0)
    (hreturned : sources.Counts header.returned query) :
    query.read { header, payload := sources.payload query } = .ok (sources.result query) := by
  cases query with
  | sourceCount =>
    have hwords : Bytes.words ((Bytes.ofUInt32 sources.count).take 4) = [sources.count] :=
      Bytes.words_ofWords [sources.count]
    have hcount : Reply.sourceCount { header, payload := Bytes.ofUInt32 sources.count } =
        .ok sources.count := by
      simp only [Reply.sourceCount, hwords]
    exact congrArg (Result.count <$> ·) hcount
  | sourceIds =>
    have hlength : header.returned.toNat = sources.ids.length := hreturned
    have hlimit : ¬(header.returned.toNat > maxSources ∨ header.remaining ≠ 0) := by
      rw [hlength]
      rintro (hlarge | hmore)
      · exact Nat.not_lt_of_ge sources.length_ids_le hlarge
      · exact hmore hremaining
    have htake : Bytes.take? (4 * header.returned.toNat) (Bytes.ofWords sources.ids) =
        some (Bytes.ofWords sources.ids) := by
      rw [Bytes.take?, hlength, ← Bytes.length_ofWords, if_pos (Nat.le_refl _), List.take_length]
    have hids : Reply.sourceIds { header, payload := Bytes.ofWords sources.ids } =
        .ok sources.ids := by
      simp only [Reply.sourceIds, if_neg hlimit, htake, Bytes.words_ofWords]
    exact congrArg (Result.ids <$> ·) hids
  | sourceDescriptor source =>
    have hlength : header.returned.toNat = (sources.descriptor source).length := hreturned
    have hlimit : ¬header.returned.toNat > maxDescriptorLength := by
      rw [hlength]
      exact Nat.not_lt_of_ge (sources.length_descriptor_le source)
    have htake : Bytes.take? header.returned.toNat (sources.descriptor source) =
        some (sources.descriptor source) := by
      rw [Bytes.take?, hlength, if_pos (Nat.le_refl _), List.take_length]
    have hghes : DescriptorType.ofFlags? header.flags = some .ghesv2 := if_pos htype
    have hdescriptor : Reply.sourceDescriptor source
        { header, payload := sources.descriptor source } =
          .ok { type := .ghesv2, bytes := sources.descriptor source } := by
      simp only [Reply.sourceDescriptor, hremaining, hghes, if_neg hlimit, htake, ne_eq,
        not_true_eq_false, if_false]
    exact congrArg (Result.descriptor <$> ·) hdescriptor

/-- An answer is as long as its data and two headers, and comes to the result of the query. -/
theorem Answers.outcome {sources : Sources} {group token : UInt16} {query : Query} {reply : Bytes}
    (hanswers : sources.Answers group query token reply) :
    reply.length = Header.length + ResponseHeader.length + (sources.payload query).length ∧
      query.outcome group token reply = .ok (sources.result query) := by
  obtain ⟨header, hstatus, hremaining, htype, hreturned, hencode⟩ := hanswers
  refine ⟨?_, ?_⟩
  · rw [Frame.length_of_encode hencode, List.length_append, ResponseHeader.length_encode,
      Nat.add_assoc]
  have hanswers : (query.header group token).reply.answers (.request group query.service token) =
      true := Header.answers_reply (query.header group token)
  have hframe : Reply.ofFrame (.request group query.service token) reply =
      .ok { header, payload := sources.payload query } := by
    simp only [Reply.ofFrame, Frame.decode_of_encode hanswers hencode, bind, Except.bind,
      ResponseHeader.split?_encode_append]
    rfl
  have hchecked : AgentStatus.check header.status = .ok () := if_pos hstatus
  have hread := sources.read_payload hremaining htype hreturned
  rw [Query.outcome_of_frame hframe, hchecked]
  exact congrArg (Except.mapError Refusal.fault) hread

end Sources

/-- Whatever was asked before and however often the tokens have wrapped, a session that is ready
reads what the agent holds, query by query: through a channel, if the endpoint is initialised still
and the shared memory has room for each answer, and in envelopes, if the capability puts the answers
where the requests were. The remote is assumed not to refuse to set the shared memory with the code
that means success. -/
theorem sources_read (sources : Sources) (config : Config) (queries : List Query) :
    (∀ {κ α : Type} {setup : Remote.Setup κ} {allocate : UInt64 → α → Option Region × α}
      (release : Region → α → α) (communicate : Option (Communicate (Remote.State κ × α)))
      (agents : κ) (pages : α) (moves : List (Move (Remote.State κ × α))) (channel : ChannelId)
      {entry : Remote.Channel κ} {handler : Remote.Handler κ},
      let platform := Remote.platform setup allocate release
      let start : Session (Remote.State κ × α) :=
        { client := .ofConfig config communicate
          endpoint := { buffer := none, world := .fresh (.initial setup agents, pages) } }
      let now := start.afterAll platform moves
      setup.Reports → setup.reportedLength = none → Remote.Grants allocate →
      Operates platform moves → now.endpoint.isInitialized = true →
      now.client.delivery = some (.passThrough channel) →
      setup.channel? channel.raw = some entry → entry.handler = some handler →
      (∀ query ∈ queries, ∀ token, Remote.Gives handler query.service.toUInt32
        (query.frame config.group token) (sources.Answers config.group query token)) →
      (∀ query ∈ queries, Header.length + ResponseHeader.length +
        (sources.payload query).length ≤ setup.size.toNat) →
      now.outcomes platform (queries.map Query.move) =
        queries.map fun query => .ok (sources.result query)) ∧
    (∀ {σ : Type} (platform : Platform σ) (communicate : Option (Communicate σ))
      (endpoint : Endpoint σ) (moves : List (Move σ)) {give : Communicate σ} {tag : Guid},
      let start : Session σ := { client := .ofConfig config communicate, endpoint }
      let now := start.afterAll platform moves
      now.client.delivery = some (.enveloped give tag) →
      (∀ query ∈ queries, ∀ token, Delivery.Conveys give tag (query.frame config.group token)
        (sources.Answers config.group query token)) →
      now.outcomes platform (queries.map Query.move) =
        queries.map fun query => .ok (sources.result query)) := by
  refine ⟨?_, ?_⟩
  · intro κ α setup allocate release communicate agents pages moves channel entry handler platform
      start now hreports hreported hgrants hmoves hinitialized hdelivery hchannel hhandler hgives
      hroom
    have hread := outcomes_passThrough hreports hreported hgrants release agents pages hchannel
      hhandler queries (fun query _ => .ok (sources.result query)) hmoves hinitialized hdelivery ?_
    · exact hread.trans (Query.map_numbered (fun query => Except.ok (sources.result query)) _ _)
    rintro ⟨query, token⟩ hentry
    have hquery : query ∈ queries := Query.mem_of_numbered hentry
    have hspace : 28 + (sources.payload query).length ≤ setup.size.toNat := hroom query hquery
    refine ⟨?_, (hgives query hquery token).mono fun reply hanswers => ?_⟩
    · have hframe := query.length_frame_le config.group token
      dsimp only
      omega
    · obtain ⟨hlength, houtcome⟩ := hanswers.outcome
      refine ⟨⟨hlength ▸ hspace, ?_⟩, houtcome⟩
      rw [hlength]
      exact Nat.add_le_add_left (sources.length_payload_le query) _
  · intro σ platform communicate endpoint moves give tag start now hdelivery hconveys
    have hread := outcomes_enveloped platform endpoint queries
      (fun query _ => .ok (sources.result query)) hdelivery ?_
    · exact hread.trans (Query.map_numbered (fun query => Except.ok (sources.result query)) _ _)
    rintro ⟨query, token⟩ hentry
    refine (hconveys query (Query.mem_of_numbered hentry) token).mono fun reply hanswers => ?_
    obtain ⟨hlength, houtcome⟩ := hanswers.outcome
    refine ⟨?_, houtcome⟩
    rw [hlength]
    exact Nat.add_le_add_left (sources.length_payload_le query) _

/-- The query that a request makes. -/
def Query.ofRequest (header : Header) (data : Bytes) : Query :=
  if header.service = Service.sourceCount then .sourceCount
  else if header.service = Service.sourceIds then .sourceIds
  else .sourceDescriptor ((Bytes.words data).headD 0)

theorem Query.ofRequest_data (query : Query) (group token : UInt16) :
    ofRequest (query.header group token) query.data = query := by
  cases query with
  | sourceCount | sourceIds => rfl
  | sourceDescriptor source =>
    have hwords : Bytes.words (Bytes.ofUInt32 source) = [source] := Bytes.words_ofWords [source]
    change Query.sourceDescriptor ((Bytes.words (Bytes.ofUInt32 source)).headD 0) = _
    rw [hwords]
    rfl

/-- The header of the response to a query. -/
def Sources.responseHeader (sources : Sources) (query : Query) : ResponseHeader :=
  { status := 0, flags := 0, remaining := 0, function := 0
    returned := match query with
      | .sourceCount => 1
      | .sourceIds => sources.ids.length.toUInt32
      | .sourceDescriptor source => (sources.descriptor source).length.toUInt32 }

theorem Sources.counts_responseHeader (sources : Sources) (query : Query) :
    sources.Counts (sources.responseHeader query).returned query := by
  cases query with
  | sourceCount => trivial
  | sourceIds =>
    exact UInt32.toNat_ofNat_of_lt' (Nat.lt_of_le_of_lt sources.length_ids_le (by decide))
  | sourceDescriptor source =>
    exact UInt32.toNat_ofNat_of_lt'
      (Nat.lt_of_le_of_lt (sources.length_descriptor_le source) (by decide))

/-- An agent that answers requests with what it holds. -/
def Sources.respond (sources : Sources) (request : Bytes) : Bytes :=
  match Header.decode? request with
  | none => []
  | some header =>
    let query := Query.ofRequest header (request.drop Header.length)
    let body := (sources.responseHeader query).encode ++ sources.payload query
    { header.reply with dataLength := body.length.toUInt16 }.encode ++ body

theorem Sources.answers_respond (sources : Sources) (group : UInt16) (query : Query)
    (token : UInt16) :
    sources.Answers group query token (sources.respond (query.frame group token)) := by
  have hdata : (query.frame group token).drop Header.length = query.data :=
    List.drop_left' (Header.length_encode _)
  have hbody : ((sources.responseHeader query).encode ++ sources.payload query).length ≤
      Frame.maxData := by
    have hpayload := sources.length_payload_le query
    have hroom : 28 + query.capacity ≤ 2076 := query.room_le
    have hlimit : Frame.maxData = 65535 := rfl
    have hheader : ResponseHeader.length = 20 := rfl
    rw [List.length_append, ResponseHeader.length_encode]
    omega
  refine ⟨sources.responseHeader query, rfl, rfl, UInt32.zero_and,
    sources.counts_responseHeader query, ?_⟩
  rw [Frame.encode_of_le _ hbody]
  unfold respond
  rw [hdata]
  simp only [Query.frame, Header.decode?_encode_append, Query.ofRequest_data]

/-- A table of three sources, of which one has a descriptor. -/
def Sources.three : Sources where
  count := 3
  ids := [10, 20, 30]
  descriptor source := if source = 20 then [1, 2, 3] else []
  length_ids_le := by decide
  length_descriptor_le source := by
    split
    · decide
    · exact Nat.zero_le _

/-- Through the channel and in envelopes, a client that asked too early at first reads what an agent
with that table holds. -/
theorem sources_read_three :
    let queries := [Query.sourceCount, .sourceIds, .sourceDescriptor 20, .sourceIds]
    let results : List (Except Fault Result) :=
      [.ok (.count 3), .ok (.ids [10, 20, 30]), .ok (.descriptor ⟨.ghesv2, [1, 2, 3]⟩),
        .ok (.ids [10, 20, 30])]
    let platform := Remote.platform (serving Sources.three.respond) Heap.allocate Heap.release
    let moves := [.sourceIds, .establish 0]
    let through := (Session.served Sources.three.respond { source := .fixed ⟨7⟩ }).afterAll platform
      moves
    let around := (Session.served Sources.three.respond { passThrough := false }).afterAll platform
      moves
    (serving Sources.three.respond).Reports ∧ Remote.Grants Heap.allocate ∧
      Operates platform moves ∧ through.endpoint.isInitialized = true ∧
      through.outcomes platform (queries.map Query.move) = results ∧
      around.outcomes platform (queries.map Query.move) = results := by
  have hreports : (serving Sources.three.respond).Reports := ⟨nofun, nofun⟩
  have hanswers := Sources.three.answers_respond ServiceGroup.ras
  obtain ⟨hthrough, -⟩ := sources_read .three { source := .fixed ⟨7⟩ }
    [.sourceCount, .sourceIds, .sourceDescriptor 20, .sourceIds]
  obtain ⟨-, haround⟩ := sources_read .three { passThrough := false }
    [.sourceCount, .sourceIds, .sourceDescriptor 20, .sourceIds]
  dsimp only
  refine ⟨hreports, Remote.grants_heap, nofun, by decide, ?_, ?_⟩
  · refine hthrough Heap.release _ () Heap.fresh [.sourceIds, .establish 0] ⟨7⟩ hreports
      rfl Remote.grants_heap nofun (by decide) (Delivery.eq_of_channel? (by decide)) rfl rfl ?_
      (by decide)
    rintro query - token
    exact (Remote.gives_answering _ _ _).mono fun _ hreply => hreply ▸ hanswers query token
  · refine haround _ _ _ [.sourceIds, .establish 0] rfl ?_
    rintro query - token
    exact (Delivery.conveys_putting _ _ _).mono fun _ hreply => hreply ▸ hanswers query token

end MessageProxy.Ras
