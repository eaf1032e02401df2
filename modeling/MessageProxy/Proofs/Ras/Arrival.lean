import MessageProxy.Proofs.Ras.Replies

/-!
What a session makes of the replies that arrive, whatever is in them and however long they are.
-/

namespace MessageProxy.Ras

open Remote

variable {σ : Type} {platform : Platform σ} {config : Config}
  {communicate : Option (Communicate σ)} {session : Session σ}

/-- A reply that arrives decides the outcome of a query. -/
theorem outcome_of_arrives (hsound : Sound config communicate session.client)
    {delivery : Delivery σ} (hdelivery : session.client.delivery = some delivery) (query : Query)
    {reply : Bytes} (harrives : delivery.Arrives platform query.service
      (query.frame config.group session.client.tokens.next) query.room session.endpoint reply) :
    session.outcome platform query.move =
      if reply.length > query.room then .error delivery.overflow
      else query.outcome config.group session.client.tokens.next reply := by
  have hready : session.client.stage = .ready := hsound.isSome_iff.1 (by rw [hdelivery]; rfl)
  obtain ⟨houtcome, -, -⟩ := conduct_query_of_ready platform hready hdelivery query
  have hlength := query.length_frame_le config.group session.client.tokens.next
  have hroom : 12 ≤ query.room := Nat.le_trans (by decide) (Nat.le_add_right _ _)
  rw [hsound.config_eq] at houtcome
  rw [houtcome, Delivery.exchange_of_arrives harrives (Nat.le_trans hlength hroom)]
  split
  · rfl
  · rfl

/-- The ids of all sources are taken from complete and well-formed lists only, whatever happened
before and whatever the reply is. A reply that is too long for the client fails as its delivery
says; then the header and the status are checked, then the counters, then the payload. What is
returned are the words behind the response header, as many as the header says, and nothing behind
them matters. -/
theorem sourceIds_checked (platform : Platform σ) (config : Config)
    (communicate : Option (Communicate σ)) (endpoint : Endpoint σ) (moves : List (Move σ)) :
    let start : Session σ := { client := .ofConfig config communicate, endpoint }
    let now := start.afterAll platform moves
    let token := now.client.tokens.next
    now.client.stage = .ready → ∃ delivery, now.client.delivery = some delivery ∧
      ∀ reply : Bytes,
        delivery.Arrives platform Service.sourceIds (Query.sourceIds.frame config.group token) 2076
          now.endpoint reply →
        let returned := (reply.word32 20).toNat
        let remaining := reply.word32 16
        let dataLength := (reply.word16 6).toNat
        now.outcome platform .sourceIds =
          if reply.length > 2076 then .error delivery.overflow
          else if ¬Succeeds config.group Service.sourceIds token reply then .error .deviceError
          else if returned > 512 ∨ remaining ≠ 0 then .error .capacityExceeded
          else if 4 * returned > dataLength - 20 then .error .deviceError
          else .ok (.ids ((List.range returned).map fun index =>
            reply.word32 (28 + 4 * index))) := by
  intro start now token hready
  have hsound : Sound config communicate now.client :=
    sound_afterAll platform (.ofConfig config communicate) moves
  obtain ⟨delivery, hdelivery⟩ := Option.isSome_iff_exists.1 (hsound.isSome_iff.2 hready)
  refine ⟨delivery, hdelivery, ?_⟩
  intro reply harrives returned remaining dataLength
  exact (outcome_of_arrives hsound hdelivery .sourceIds harrives).trans
    (congrArg _ (Query.outcome_sourceIds config.group token reply))

/-- What an agent answers arrives at a client of its remote. -/
theorem arrives_served {answer : Bytes → Bytes} {buffer : SharedBuffer}
    {endpoint : Endpoint (State Unit × Heap)}
    (hconnected : Connected (serving answer) buffer endpoint) (query : Query)
    (group token : UInt16) (hreply : (answer (query.frame group token)).length ≤ 64) :
    (Delivery.passThrough ⟨7⟩).Arrives
      (Remote.platform (serving answer) Heap.allocate Heap.release) query.service
      (query.frame group token) query.room endpoint (answer (query.frame group token)) := by
  have hlength := query.length_frame_le group token
  exact arrives_of_handler Heap.allocate Heap.release hconnected rfl rfl rfl
    (Nat.lt_of_le_of_lt hlength (show 12 < 64 by decide)) hreply rfl query.room

/-- A list of two ids, with three bytes behind it in the data and two behind the data. -/
def trailing : Bytes → Bytes := fun _ =>
  [11, 0, 2, 2, 1, 0, 31, 0, 0, 0, 0, 0, 0, 0, 0, 0, 0, 0, 0, 0, 2, 0, 0, 0, 0, 0, 0, 0,
    5, 0, 0, 0, 6, 1, 0, 0, 9, 9, 9, 7, 7]

/-- What stands behind a list does not matter. -/
theorem sourceIds_checked_trailing :
    let platform := Remote.platform (serving trailing) Heap.allocate Heap.release
    let now := (Session.served trailing { source := .fixed ⟨7⟩ }).afterAll platform [.establish 0]
    now.client.stage = .ready ∧ now.client.delivery = some (.passThrough ⟨7⟩) ∧
      now.outcome platform .sourceIds = .ok (.ids [5, 262]) := by
  intro platform now
  have hready : now.client.stage = .ready := by decide
  have hthrough := Delivery.eq_of_channel?
    (show now.client.delivery.bind Delivery.channel? = some ⟨7⟩ by decide)
  have hconnected : Connected (serving trailing) ⟨⟨0x1000, 1, 0x1000⟩, 64⟩ now.endpoint :=
    ⟨by decide, ⟨rfl, rfl, by decide, rfl⟩, by decide⟩
  obtain ⟨delivery, hdelivery, hids⟩ := sourceIds_checked platform { source := .fixed ⟨7⟩ }
    (some (Delivery.putting trailing)) (Session.served trailing { source := .fixed ⟨7⟩ }).endpoint
    [.establish 0] hready
  obtain rfl := Option.some.inj (hthrough.symm.trans hdelivery)
  have harrives := arrives_served hconnected .sourceIds ServiceGroup.ras now.client.tokens.next
    (show 41 ≤ 64 by decide)
  exact ⟨hready, hthrough, (hids _ harrives).trans rfl⟩

/-- The request for a descriptor has the id of the source for its data. -/
theorem Query.frame_sourceDescriptor (source : UInt32) (group token : UInt16) :
    (sourceDescriptor source).frame group token =
      Bytes.ofUInt16 group ++ [3, 0] ++ Bytes.ofUInt16 token ++ [4, 0] ++ Bytes.ofUInt32 source := by
  have hlength : Bytes.ofUInt16 (sourceDescriptor source).data.length.toUInt16 = [4, 0] :=
    show Bytes.ofUInt16 4 = [4, 0] by decide
  unfold frame header Header.encode
  rw [hlength]
  rfl

/-- A descriptor is returned whole, of a known type and not too long, or not at all, whatever
happened before and whatever the reply is. The request carries the id of the source. The length of
the descriptor is what the response header says, within the data of the frame. -/
theorem sourceDescriptor_checked (platform : Platform σ) (config : Config)
    (communicate : Option (Communicate σ)) (endpoint : Endpoint σ) (moves : List (Move σ)) :
    let start : Session σ := { client := .ofConfig config communicate, endpoint }
    let now := start.afterAll platform moves
    let token := now.client.tokens.next
    now.client.stage = .ready → ∃ delivery, now.client.delivery = some delivery ∧
      ∀ source : UInt32,
        let frame := Bytes.ofUInt16 config.group ++ [3, 0] ++ Bytes.ofUInt16 token ++ [4, 0] ++
          Bytes.ofUInt32 source
        let exchanged := (delivery.exchange platform Service.sourceDescriptor frame 1052).run
          now.endpoint
        Logged exchanged.2 (now.after platform (.sourceDescriptor source)).endpoint ∧
        ∀ reply : Bytes, reply.length ≤ 1052 →
          delivery.Arrives platform Service.sourceDescriptor frame 1052 now.endpoint reply →
          let flags := reply.word32 12
          let remaining := reply.word32 16
          let returned := (reply.word32 20).toNat
          let dataLength := (reply.word16 6).toNat
          now.outcome platform (.sourceDescriptor source) =
            if Succeeds config.group Service.sourceDescriptor token reply ∧ remaining = 0 ∧
              flags &&& 0xF = 0 ∧ returned ≤ 1024 ∧ returned ≤ dataLength - 20 then
              .ok (.descriptor { type := .ghesv2, bytes := (reply.drop 28).take returned })
            else .error .deviceError := by
  intro start now token hready
  have hsound : Sound config communicate now.client :=
    sound_afterAll platform (.ofConfig config communicate) moves
  obtain ⟨delivery, hdelivery⟩ := Option.isSome_iff_exists.1 (hsound.isSome_iff.2 hready)
  refine ⟨delivery, hdelivery, ?_⟩
  intro source frame exchanged
  obtain ⟨-, -, hlogged⟩ :=
    conduct_query_of_ready platform hready hdelivery (.sourceDescriptor source)
  have hframe : (Query.sourceDescriptor source).frame config.group token = frame :=
    Query.frame_sourceDescriptor source config.group token
  rw [hsound.config_eq, hframe] at hlogged
  refine ⟨hlogged, ?_⟩
  intro reply hlength harrives flags remaining returned dataLength
  rw [← hframe] at harrives
  refine (outcome_of_arrives hsound hdelivery (.sourceDescriptor source) harrives).trans ?_
  exact (if_neg (Nat.not_lt_of_ge hlength)).trans
    (Query.outcome_sourceDescriptor source config.group token reply)

/-- A descriptor of three bytes, with another behind it in the data and flags that say more than
its type. -/
def whole : Bytes → Bytes := fun _ =>
  [11, 0, 3, 2, 1, 0, 24, 0, 0, 0, 0, 0, 16, 0, 0, 0, 0, 0, 0, 0, 3, 0, 0, 0, 0, 0, 0, 0, 1, 2, 3, 4]

theorem sourceDescriptor_checked_whole :
    let platform := Remote.platform (serving whole) Heap.allocate Heap.release
    let now := (Session.served whole { source := .fixed ⟨7⟩ }).afterAll platform [.establish 0]
    now.client.stage = .ready ∧ now.client.delivery = some (.passThrough ⟨7⟩) ∧
      now.outcome platform (.sourceDescriptor 5) =
        .ok (.descriptor { type := .ghesv2, bytes := [1, 2, 3] }) := by
  intro platform now
  have hready : now.client.stage = .ready := by decide
  have hthrough := Delivery.eq_of_channel?
    (show now.client.delivery.bind Delivery.channel? = some ⟨7⟩ by decide)
  have hconnected : Connected (serving whole) ⟨⟨0x1000, 1, 0x1000⟩, 64⟩ now.endpoint :=
    ⟨by decide, ⟨rfl, rfl, by decide, rfl⟩, by decide⟩
  obtain ⟨delivery, hdelivery, hdescriptor⟩ := sourceDescriptor_checked platform
    { source := .fixed ⟨7⟩ } (some (Delivery.putting whole))
    (Session.served whole { source := .fixed ⟨7⟩ }).endpoint [.establish 0] hready
  obtain rfl := Option.some.inj (hthrough.symm.trans hdelivery)
  have harrives := arrives_served hconnected (.sourceDescriptor 5) ServiceGroup.ras
    now.client.tokens.next (show 32 ≤ 64 by decide)
  rw [Query.frame_sourceDescriptor] at harrives
  exact ⟨hready, hthrough, ((hdescriptor 5).2 (whole []) (by decide) harrives).trans rfl⟩

/-- A descriptor that is too long, or not all of it, is refused whatever comes with it. A reply that
is itself too long for the client fails as its delivery says, before the descriptor is looked at;
every other one is a device error. -/
theorem descriptor_refused (platform : Platform σ) (config : Config)
    (communicate : Option (Communicate σ)) (endpoint : Endpoint σ) (moves : List (Move σ)) :
    let start : Session σ := { client := .ofConfig config communicate, endpoint }
    let now := start.afterAll platform moves
    let token := now.client.tokens.next
    now.client.stage = .ready → ∃ delivery, now.client.delivery = some delivery ∧
      ∀ (source : UInt32) (reply : Bytes),
        delivery.Arrives platform Service.sourceDescriptor
          ((Query.sourceDescriptor source).frame config.group token) 1052 now.endpoint reply →
        Succeeds config.group Service.sourceDescriptor token reply →
        (reply.word32 20).toNat > 1024 ∨ reply.word32 16 ≠ 0 →
        now.outcome platform (.sourceDescriptor source) =
          .error (if reply.length > 1052 then delivery.overflow else .deviceError) := by
  intro start now token hready
  have hsound : Sound config communicate now.client :=
    sound_afterAll platform (.ofConfig config communicate) moves
  obtain ⟨delivery, hdelivery⟩ := Option.isSome_iff_exists.1 (hsound.isSome_iff.2 hready)
  refine ⟨delivery, hdelivery, ?_⟩
  intro source reply harrives hsucceeds hrefused
  have hread : (Query.sourceDescriptor source).outcome config.group token reply =
      .error .deviceError := by
    rw [Query.outcome_sourceDescriptor, if_neg]
    rintro ⟨-, hremaining, -, hreturned, -⟩
    obtain hlarge | hfragment := hrefused
    · exact Nat.not_lt_of_ge hreturned hlarge
    · exact hfragment hremaining
  refine (outcome_of_arrives hsound hdelivery (.sourceDescriptor source) harrives).trans ?_
  rw [hread]
  exact (apply_ite Except.error _ _ _).symm

/-- The start of a descriptor, of which more is pending. -/
def fragmented : Bytes → Bytes := fun _ =>
  [11, 0, 3, 2, 1, 0, 24, 0, 0, 0, 0, 0, 0, 0, 0, 0, 5, 0, 0, 0, 4, 0, 0, 0, 0, 0, 0, 0, 1, 2, 3, 4]

theorem descriptor_refused_fragmented :
    let platform := Remote.platform (serving fragmented) Heap.allocate Heap.release
    let now := (Session.served fragmented { source := .fixed ⟨7⟩ }).afterAll platform
      [.establish 0]
    now.client.stage = .ready ∧ now.client.delivery = some (.passThrough ⟨7⟩) ∧
      now.outcome platform (.sourceDescriptor 5) = .error .deviceError := by
  intro platform now
  have hready : now.client.stage = .ready := by decide
  have hthrough := Delivery.eq_of_channel?
    (show now.client.delivery.bind Delivery.channel? = some ⟨7⟩ by decide)
  have htoken : now.client.tokens.next = 1 := by decide
  have hconnected : Connected (serving fragmented) ⟨⟨0x1000, 1, 0x1000⟩, 64⟩ now.endpoint :=
    ⟨by decide, ⟨rfl, rfl, by decide, rfl⟩, by decide⟩
  obtain ⟨delivery, hdelivery, hrefused⟩ := descriptor_refused platform { source := .fixed ⟨7⟩ }
    (some (Delivery.putting fragmented))
    (Session.served fragmented { source := .fixed ⟨7⟩ }).endpoint [.establish 0] hready
  obtain rfl := Option.some.inj (hthrough.symm.trans hdelivery)
  have harrives := arrives_served hconnected (.sourceDescriptor 5) ServiceGroup.ras
    now.client.tokens.next (show 32 ≤ 64 by decide)
  have hsucceeds : Succeeds ServiceGroup.ras Service.sourceDescriptor now.client.tokens.next
      (fragmented []) := by
    rw [htoken]
    decide
  exact ⟨hready, hthrough, hrefused 5 (fragmented []) harrives hsucceeds (.inr (by decide))⟩

/-- A descriptor of 1028 bytes, all of which are there, and of which more is pending. -/
def oversized : Bytes → Bytes := fun _ =>
  [11, 0, 3, 2, 1, 0, 24, 4, 0, 0, 0, 0, 0, 0, 0, 0, 0xCC, 3, 0, 0, 4, 4, 0, 0, 0, 0, 0, 0] ++
    List.replicate 1028 7

theorem length_oversized (request : Bytes) : (oversized request).length = 1056 := by
  rw [oversized, List.length_append, List.length_replicate]
  rfl

/-- Through a channel, a descriptor that really is too long does not fail as one that only says so:
the client has no room for the reply. In an envelope it does. -/
theorem oversized_descriptor_overflows :
    let setup := { serving oversized with size := 4096 }
    let platform := Remote.platform setup Heap.allocate Heap.release
    let endpoint : Endpoint _ :=
      { buffer := none, world := .fresh (.initial setup (), Heap.fresh) }
    let through : Session _ := { client := .ofConfig { source := .fixed ⟨7⟩ } none, endpoint }
    let enveloped : Session _ :=
      { client := .ofConfig { passThrough := false } (some (Delivery.putting oversized)), endpoint }
    let now := through.afterAll platform [.establish 0]
    let other := enveloped.afterAll platform [.establish 0]
    let reply := oversized []
    now.client.stage = .ready ∧ now.client.delivery = some (.passThrough ⟨7⟩) ∧
      (Delivery.passThrough ⟨7⟩).Arrives platform Service.sourceDescriptor
        ((Query.sourceDescriptor 5).frame ServiceGroup.ras now.client.tokens.next) 1052
        now.endpoint reply ∧
      Succeeds ServiceGroup.ras Service.sourceDescriptor now.client.tokens.next reply ∧
      (reply.word32 20).toNat > 1024 ∧ reply.word32 16 ≠ 0 ∧
      now.outcome platform (.sourceDescriptor 5) = .error .capacityExceeded ∧
      other.outcome platform (.sourceDescriptor 5) = .error .deviceError := by
  intro setup platform endpoint through enveloped now other reply
  have hready : now.client.stage = .ready := by decide
  have hthrough := Delivery.eq_of_channel?
    (show now.client.delivery.bind Delivery.channel? = some ⟨7⟩ by decide)
  have htoken : now.client.tokens.next = 1 := by decide
  have hconnected : Connected setup ⟨⟨0x1000, 2, 0x1000⟩, 4096⟩ now.endpoint :=
    ⟨by decide, ⟨rfl, rfl, by decide, rfl⟩, by decide⟩
  have hlength : reply.length = 1056 := length_oversized []
  have hlong : reply.length > 1052 := by
    rw [hlength]
    decide
  have hframe (token : UInt16) :
      ((Query.sourceDescriptor 5).frame ServiceGroup.ras token).length ≤ 12 :=
    Query.length_frame_le _ _ _
  have harrives : (Delivery.passThrough ⟨7⟩).Arrives platform Service.sourceDescriptor
      ((Query.sourceDescriptor 5).frame ServiceGroup.ras now.client.tokens.next) 1052
      now.endpoint reply := by
    refine arrives_of_handler Heap.allocate Heap.release hconnected rfl rfl rfl ?_ ?_ rfl 1052
    · exact Nat.lt_of_le_of_lt (hframe _) (show 12 < 4096 by decide)
    · exact Nat.le_trans (Nat.le_of_eq hlength) (show 1056 ≤ 4096 by decide)
  refine ⟨hready, hthrough, harrives, ?_, by decide, by decide, ?_, ?_⟩
  · rw [htoken]
    refine ⟨?_, by decide, by decide, by decide, ?_, by decide, by decide⟩
    · rw [hlength]
      decide
    · rw [hlength]
      decide
  · have hsound : Sound { source := .fixed ⟨7⟩ } none now.client :=
      sound_afterAll platform (.ofConfig _ _) [.establish 0]
    exact (outcome_of_arrives hsound hthrough (.sourceDescriptor 5) harrives).trans (if_pos hlong)
  · have hsound : Sound { passThrough := false } (some (Delivery.putting oversized))
        other.client :=
      sound_afterAll platform (.ofConfig _ _) [.establish 0]
    have hgiven : other.client.delivery =
        some (.enveloped (Delivery.putting oversized) (Vector.replicate 16 0)) :=
      rfl
    refine (outcome_of_arrives hsound hgiven (.sourceDescriptor 5)
      (Delivery.arrives_putting oversized _ ?_ ?_)).trans (if_pos hlong)
    · exact Nat.lt_of_le_of_lt (Nat.add_le_add_left (hframe other.client.tokens.next) _) (by decide)
    · rw [length_oversized]
      decide

end MessageProxy.Ras
