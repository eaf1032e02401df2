import MessageProxy.Proofs.Arrival
import MessageProxy.Proofs.Forwarding.Message
import MessageProxy.Proofs.Frame.Fields

/-!
The replies that the messages of the request forwarding service group accept.

A reply may hold any bytes. Every reply to a message is classified here by its length and by the
fields at fixed offsets.
-/

namespace MessageProxy.Forwarding

variable {σ α β : Type} {platform : Platform σ} {endpoint : Endpoint σ} {tokens : TokenSource}

/-- What the data of a retrieve answer say, field by field. -/
def Retrieval.read (body : Bytes) : Retrieval where
  status := (body.word32 0).toInt32
  remaining := body.word32 4
  returned := body.word32 8
  data := body.drop retrieveHeaderLength

theorem Retrieval.ofBody?_of_le {body : Bytes} (hlength : retrieveHeaderLength ≤ body.length) :
    ofBody? body = some (.read body) := by
  match body, hlength with
  | _ :: _ :: _ :: _ :: _ :: _ :: _ :: _ :: _ :: _ :: _ :: _ :: _, _ => rfl

theorem Retrieval.ofBody?_of_lt {body : Bytes} (hlength : body.length < retrieveHeaderLength) :
    ofBody? body = none := by
  cases hbody : ofBody? body with
  | none => rfl
  | some retrieval => exact absurd (length_le_of_ofBody? hbody) (Nat.not_le_of_lt hlength)

/-- The request that data bring, by where its fields lie. -/
theorem requested_body (body : Bytes) :
    requested (.ok (some body)) =
      if 12 ≤ body.length ∧ body.word32 0 = 0 ∧ (body.word32 8).toNat ≤ body.length - 12 then
        .ok { remaining := body.word32 4
              data := (body.drop 12).take (body.word32 8).toNat }
      else .error .deviceError := by
  unfold requested
  dsimp only
  by_cases hlength : 12 ≤ body.length
  · rw [Retrieval.ofBody?_of_le hlength]
    simp only [Retrieval.read, retrieveHeaderLength, List.length_drop, toInt32_eq_zero_iff,
      hlength, true_and]
  · rw [Retrieval.ofBody?_of_lt (Nat.lt_of_not_le hlength),
      if_neg fun hwellFormed => hlength hwellFormed.1]

/-- Data acknowledge a message if they are shorter than a status, or start with a success. -/
theorem acknowledged_body (body : Bytes) :
    acknowledged (.ok (some body)) =
      if body.length < 4 ∨ body.word32 0 = 0 then .ok () else .error .deviceError := by
  unfold acknowledged
  match body with
  | [] | [_] | [_, _] | [_, _, _] => rfl
  | s0 :: s1 :: s2 :: s3 :: rest =>
    have hlong : ¬(s0 :: s1 :: s2 :: s3 :: rest).length < 4 := by
      simp only [List.length_cons]
      omega
    simp only [hlong, false_or]
    rfl

namespace Message

/-- Asks to be told when a request is forwarded. -/
def enabling (channel : ChannelId) (tokens : TokenSource) : Message :=
  { channel, service := Service.enableNotification, token := tokens.next, data := [] }

/-- A reply to the message arrives, for a caller with room for it. -/
def Gets (platform : Platform σ) (endpoint : Endpoint σ) (message : Message) (reply : Bytes) :
    Prop :=
  Delivery.Arrives platform message.service message.frame reply.length endpoint reply
    (.passThrough message.channel)

/-- The data of a reply that has a header. -/
def announced (reply : Bytes) : Bytes :=
  (reply.drop 8).take (reply.word16 6).toNat

variable {message : Message} {reply : Bytes}

theorem heard_of_accepts (haccepts : Frame.Accepts message.header reply) :
    message.heard reply = .ok (some (announced reply)) := by
  have hreply : reply ≠ [] := by
    rintro rfl
    exact absurd haccepts.1 (by decide)
  rw [heard, if_neg hreply, Frame.decode_of_accepts haccepts]
  rfl

theorem heard_of_not_accepts (hreply : reply ≠ [])
    (hrefuses : ¬Frame.Accepts message.header reply) :
    message.heard reply = .error .deviceError := by
  obtain ⟨reason, hdecode, hfault⟩ := Frame.decode_of_not_accepts hrefuses
  rw [heard, if_neg hreply, hdecode, ← hfault]
  rfl

theorem length_announced (haccepts : Frame.Accepts message.header reply) :
    (announced reply).length = (reply.word16 6).toNat := by
  obtain ⟨-, -, -, -, hdata⟩ := haccepts
  rw [announced, List.length_take, List.length_drop]
  omega

/-- The words of a reply's data are those of the reply, behind its header. -/
theorem word32_announced {offset : Nat} (hoffset : offset + 4 ≤ (reply.word16 6).toNat) :
    (announced reply).word32 offset = reply.word32 (8 + offset) := by
  rw [announced, Bytes.word32_take hoffset, Bytes.word32_drop]

/-- A reply brings a request exactly if it answers the message with the status of a success, two
counters, and as many bytes as the second one says. -/
theorem requested_heard (message : Message) (reply : Bytes) :
    let length := (reply.word16 6).toNat
    let wellFormed := Frame.Accepts message.header reply ∧ 12 ≤ length ∧ reply.word32 8 = 0 ∧
      (reply.word32 16).toNat ≤ length - 12
    (wellFormed → requested (message.heard reply) =
      .ok { remaining := reply.word32 12
            data := (reply.drop 20).take (reply.word32 16).toNat }) ∧
    (¬wellFormed → requested (message.heard reply) = .error .deviceError) := by
  intro length wellFormed
  by_cases haccepts : Frame.Accepts message.header reply
  · rw [heard_of_accepts haccepts, requested_body, length_announced haccepts]
    by_cases hheader : 12 ≤ length
    · have hword : ∀ offset ≤ 8, (announced reply).word32 offset = reply.word32 (8 + offset) :=
        fun offset hoffset => word32_announced (by omega)
      rw [hword 0 (by decide), hword 4 (by decide), hword 8 (by decide)]
      refine ⟨?_, fun hmalformed => if_neg fun hbody => hmalformed ⟨haccepts, hbody⟩⟩
      rintro ⟨-, hbody⟩
      have hreturned := hbody.2.2
      rw [if_pos hbody, announced, List.drop_take, List.drop_drop, List.take_take,
        Nat.min_eq_left hreturned]
    · rw [if_neg fun hbody => hheader hbody.1]
      exact ⟨fun hwellFormed => absurd hwellFormed.2.1 hheader, fun _ => rfl⟩
  · refine ⟨fun hwellFormed => absurd hwellFormed.1 haccepts, fun _ => ?_⟩
    by_cases hempty : reply = []
    · subst hempty
      rfl
    · rw [heard_of_not_accepts hempty haccepts]
      rfl

/-- A reply acknowledges the message exactly if it is empty, or answers the message and has no
status or that of a success. -/
theorem acknowledged_heard (message : Message) (reply : Bytes) :
    let accepted := reply = [] ∨ Frame.Accepts message.header reply ∧
      ((reply.word16 6).toNat < 4 ∨ reply.word32 8 = 0)
    (accepted → acknowledged (message.heard reply) = .ok ()) ∧
    (¬accepted → acknowledged (message.heard reply) = .error .deviceError) := by
  intro accepted
  by_cases hempty : reply = []
  · subst hempty
    exact ⟨fun _ => rfl, fun hrefuses => absurd (.inl rfl) hrefuses⟩
  by_cases haccepts : Frame.Accepts message.header reply
  · rw [heard_of_accepts haccepts, acknowledged_body, length_announced haccepts]
    by_cases hshort : (reply.word16 6).toNat < 4
    · rw [if_pos (.inl hshort)]
      exact ⟨fun _ => rfl, fun hrefuses => absurd (.inr ⟨haccepts, .inl hshort⟩) hrefuses⟩
    · rw [word32_announced (Nat.le_of_not_lt hshort)]
      refine ⟨?_, fun hrefuses => if_neg fun hbody => hrefuses (.inr ⟨haccepts, hbody⟩)⟩
      rintro (hnil | ⟨-, hbody⟩)
      · exact absurd hnil hempty
      · exact if_pos hbody
  · rw [heard_of_not_accepts hempty haccepts]
    refine ⟨?_, fun _ => rfl⟩
    rintro (hnil | ⟨hanswers, -⟩)
    · exact absurd hnil hempty
    · exact absurd hanswers haccepts

/-- An answer that brings a request is longer than a completion, and fits the shared memory. -/
theorem lt_size_of_requested {buffer : SharedBuffer} {world : World σ} {request : Request}
    (hrequested : requested (message.body platform buffer world) = .ok request) :
    16 < buffer.size.toNat := by
  rw [body_eq_bind] at hrequested
  cases hreply : message.reply platform buffer world with
  | error fault =>
    rw [hreply] at hrequested
    cases hrequested
  | ok reply =>
    have hfits := length_reply_le hreply
    rw [hreply] at hrequested
    obtain ⟨-, hmalformed⟩ := requested_heard message reply
    obtain ⟨⟨-, -, -, -, hlength⟩, hheader, -⟩ :=
      Classical.not_not.1 fun hnot => nomatch (hmalformed hnot).symm.trans hrequested
    omega

/-- A message whose reply arrives takes a token, and what comes of it is what the reply says. -/
theorem run_exchange_of_gets (htoken : message.token = tokens.next)
    (hdata : message.data.length ≤ Frame.maxData) (hgets : message.Gets platform endpoint reply) :
    ∃ next, (exchange platform message.channel message.service message.data).run tokens endpoint =
      ((message.heard reply, tokens.take.2), next) := by
  unfold Gets at hgets
  cases hgets with
  | @passThrough _ buffer hbuffer hrequest hreply hregion hanswer hleft =>
    have harrives : Delivery.Arrives platform message.service message.frame buffer.size.toNat
        endpoint reply (.passThrough message.channel) :=
      .passThrough hbuffer hrequest hreply hregion hanswer hleft
    have hsend := Delivery.send_of_arrives harrives
    rw [if_neg (Nat.not_lt_of_ge hreply)] at hsend
    obtain ⟨world, hexchange, -⟩ :=
      run_exchange_of_send hbuffer htoken hdata (Prod.ext hsend rfl)
    exact ⟨_, hexchange⟩

/-- Without a shared memory, a message takes a token and is not sent. -/
theorem run_exchange_of_none (platform : Platform σ) (message : Message)
    (hbuffer : endpoint.buffer = none) (htoken : message.token = tokens.next)
    (hdata : message.data.length ≤ Frame.maxData) :
    (exchange platform message.channel message.service message.data).run tokens endpoint =
      ((.error .notReady, tokens.take.2), endpoint) := by
  have hsize : (bufferSize : Action σ UInt64).run endpoint = (.error .notReady, endpoint) := by
    unfold bufferSize
    simp only [run_bind, run_get, Endpoint.sharedMemorySize, hbuffer, Option.map_none, run_throw]
  unfold exchange
  rw [run_bind_own, run_takeToken]
  dsimp only
  rw [encode_frame htoken hdata]
  simp only [run_bind_own, Endpoint.run_lift_own, hsize]

end Message

/-- What a request for notifications makes of the answer to its message. -/
theorem run_enableNotification {channel : ChannelId} {left : TokenSource}
    {body : Except Fault (Option Bytes)} {next : Endpoint σ}
    (hexchange : (exchange platform channel Service.enableNotification []).run tokens endpoint =
      ((body, left), next)) :
    ∃ last, (enableNotification platform channel).run tokens endpoint =
      ((acknowledged body, left), { next with world := last }) := by
  unfold enableNotification
  rw [run_bind_own, hexchange]
  cases body with
  | error fault => exact ⟨next.world, rfl⟩
  | ok body =>
    dsimp only
    obtain ⟨world, haccept, -⟩ := run_accept (checkAcknowledgement body) left next
    rw [run_bind_own, haccept, mapError_checkAcknowledgement]
    cases acknowledged (.ok body) with
    | error fault => exact ⟨world, rfl⟩
    | ok _ => exact ⟨_, rfl⟩

/-- After a failure, nothing is done. -/
theorem run_bind_of_error {action : TokenAction σ α} {next : α → TokenAction σ β} {fault : Fault}
    {left : TokenSource} {middle : Endpoint σ}
    (hfault : action.run tokens endpoint = ((.error fault, left), middle)) :
    (action >>= next).run tokens endpoint = ((.error fault, left), middle) := by
  rw [run_bind_own, hfault]

/-- The action takes no token. -/
def TakesNone (action : TokenAction σ α) : Prop :=
  ∀ tokens endpoint, (action.run tokens endpoint).1.2 = tokens

namespace TakesNone

theorem throw (fault : Fault) : TakesNone (throw fault : TokenAction σ α) :=
  fun _ _ => rfl

theorem lift (action : Action σ α) : TakesNone (liftM action : TokenAction σ α) :=
  fun _ _ => rfl

theorem note (notice : Notice) : TakesNone (note notice : TokenAction σ Unit) :=
  fun _ _ => rfl

theorem bind {action : TokenAction σ α} {next : α → TokenAction σ β} (haction : TakesNone action)
    (hnext : ∀ value, TakesNone (next value)) : TakesNone (action >>= next) := by
  intro tokens endpoint
  have hfirst := haction tokens endpoint
  rw [run_bind_own]
  rcases hrun : action.run tokens endpoint with ⟨⟨fault | value, left⟩, middle⟩
  · rw [hrun] at hfirst
    exact hfirst
  · rw [hrun] at hfirst
    exact (hnext value left middle).trans hfirst

theorem accept (outcome : Except Refusal α) : TakesNone (accept outcome : TokenAction σ α) := by
  cases outcome with
  | ok value => exact fun _ _ => rfl
  | error reason => exact .bind (.note _) fun _ => .throw _

end TakesNone

/-- The action takes one token, whatever its outcome is. -/
def TakesOne (action : TokenAction σ α) : Prop :=
  ∀ tokens endpoint, (action.run tokens endpoint).1.2 = ⟨tokens.next + 1⟩

namespace TakesOne

theorem bind {action : TokenAction σ α} {next : α → TokenAction σ β} (haction : TakesOne action)
    (hnext : ∀ value, TakesNone (next value)) : TakesOne (action >>= next) := by
  intro tokens endpoint
  have hfirst := haction tokens endpoint
  rw [run_bind_own]
  rcases hrun : action.run tokens endpoint with ⟨⟨fault | value, left⟩, middle⟩
  · rw [hrun] at hfirst
    exact hfirst
  · rw [hrun] at hfirst
    exact (hnext value left middle).trans hfirst

theorem exchange (platform : Platform σ) (channel : ChannelId) (service : UInt8) (data : Bytes) :
    TakesOne (exchange platform channel service data) := by
  refine .bind (fun _ _ => rfl) fun token => ?_
  dsimp only
  split
  · exact .throw _
  · refine .bind (.lift _) fun capacity => .bind (.lift _) fun answer => ?_
    split
    · exact fun _ _ => rfl
    · exact .bind (.accept _) fun _ _ _ => rfl

theorem retrieve (platform : Platform σ) (channel : ChannelId) :
    TakesOne (retrieve platform channel) := by
  refine .bind (.exchange platform channel _ _) fun body => ?_
  split
  · exact .accept (.error .incomplete)
  · split
    · exact .accept (.error .incomplete)
    · exact .bind (.note _) fun _ => .accept _

theorem complete (platform : Platform σ) (context : Context) :
    TakesOne (complete platform context) :=
  .bind (.exchange platform context.channel _ _) fun _ => .accept _

theorem enableNotification (platform : Platform σ) (channel : ChannelId) :
    TakesOne (enableNotification platform channel) :=
  .bind (.exchange platform channel _ _) fun _ => .bind (.accept _) fun _ => .note _

end TakesOne

/-- The replies to the three messages, whatever bytes they are. A reply to the retrieval that
answers it with the status of a success, two counters and as many bytes as the second says brings
the request with these bytes; every other, an empty one too, is a device error. A reply to a
completion or to a request for notifications acknowledges it if it is empty, or answers it and has
no status or that of a success; every other is a device error.

Each message takes one token, whatever the firmware does. Without a shared memory it is not ready,
and nothing else happens. -/
theorem replies_classified (platform : Platform σ) (channel : ChannelId) (context : Context)
    (tokens : TokenSource) (endpoint : Endpoint σ) :
    let retrieved := (retrieve platform channel).run tokens endpoint
    let completed := (complete platform context).run tokens endpoint
    let enabled := (enableNotification platform channel).run tokens endpoint
    (∀ reply : Bytes,
      let length := (reply.word16 6).toNat
      let answers := fun service => 8 ≤ reply.length ∧ reply.word16 0 = 0xC ∧
        reply.getD 2 0 = service ∧ reply.word16 4 = tokens.next ∧ 8 + length ≤ reply.length
      let brings := answers 2 ∧ 12 ≤ length ∧ reply.word32 8 = 0 ∧
        (reply.word32 16).toNat ≤ length - 12
      let acknowledges := fun service =>
        reply = [] ∨ answers service ∧ (length < 4 ∨ reply.word32 8 = 0)
      ((Message.retrieving channel tokens).Gets platform endpoint reply →
        (brings → retrieved.1.1 = .ok {
          remaining := reply.word32 12
          data := (reply.drop 20).take (reply.word32 16).toNat }) ∧
        (¬brings → retrieved.1.1 = .error .deviceError)) ∧
      ((Message.completing context tokens).Gets platform endpoint reply →
        (acknowledges 3 → completed.1.1 = .ok ()) ∧
        (¬acknowledges 3 → completed.1.1 = .error .deviceError)) ∧
      ((Message.enabling channel tokens).Gets platform endpoint reply →
        (acknowledges 1 → enabled.1.1 = .ok ()) ∧
        (¬acknowledges 1 → enabled.1.1 = .error .deviceError))) ∧
    (retrieved.1.2 = ⟨tokens.next + 1⟩ ∧ completed.1.2 = ⟨tokens.next + 1⟩ ∧
      enabled.1.2 = ⟨tokens.next + 1⟩) ∧
    (endpoint.buffer = none →
      retrieved = ((.error .notReady, ⟨tokens.next + 1⟩), endpoint) ∧
      completed = ((.error .notReady, ⟨tokens.next + 1⟩), endpoint) ∧
      enabled = ((.error .notReady, ⟨tokens.next + 1⟩), endpoint)) := by
  intro retrieved completed enabled
  have hempty : ([] : Bytes).length ≤ Frame.maxData := Nat.zero_le _
  have height : (Message.completing context tokens).data.length ≤ Frame.maxData :=
    (by decide : 8 ≤ Frame.maxData)
  refine ⟨fun reply => ⟨fun hgets => ?_, fun hgets => ?_, fun hgets => ?_⟩, ?_, fun hbuffer => ?_⟩
  · obtain ⟨next, hexchange⟩ := Message.run_exchange_of_gets rfl hempty hgets
    obtain ⟨last, hretrieve, -⟩ := run_retrieve hexchange
    have hretrieved : retrieved = _ := hretrieve
    rw [hretrieved]
    exact Message.requested_heard (.retrieving channel tokens) reply
  · obtain ⟨next, hexchange⟩ := Message.run_exchange_of_gets rfl height hgets
    obtain ⟨last, hcomplete, -⟩ := run_complete hexchange
    have hcompleted : completed = _ := hcomplete
    rw [hcompleted]
    exact Message.acknowledged_heard (.completing context tokens) reply
  · obtain ⟨next, hexchange⟩ := Message.run_exchange_of_gets rfl hempty hgets
    obtain ⟨last, henable⟩ := run_enableNotification hexchange
    have henabled : enabled = _ := henable
    rw [henabled]
    exact Message.acknowledged_heard (.enabling channel tokens) reply
  · exact ⟨TakesOne.retrieve platform channel tokens endpoint,
      TakesOne.complete platform context tokens endpoint,
      TakesOne.enableNotification platform channel tokens endpoint⟩
  · have hretrieve := Message.run_exchange_of_none platform (.retrieving channel tokens) hbuffer rfl
      hempty
    have hcomplete := Message.run_exchange_of_none platform (.completing context tokens) hbuffer rfl
      height
    have henable := Message.run_exchange_of_none platform (.enabling channel tokens) hbuffer rfl
      hempty
    exact ⟨run_bind_of_error hretrieve, run_bind_of_error hcomplete, run_bind_of_error henable⟩

/-- Firmware that answers a retrieval with three counted bytes and one more, or with the same bytes
and a count of five; a completion with a failure, or with nothing; and a request for notifications
with less than a status. -/
theorem replies_classified_leaving :
    let firmware (reply : Bytes) := Platform.leaving 64 (.success reply.length.toUInt64) reply
    let fresh : Endpoint Heap := { buffer := none, world := .fresh .fresh }
    let endpoint (reply : Bytes) := Endpoint.after (firmware reply) fresh .init
    let retrieved (reply : Bytes) :=
      ((retrieve (firmware reply) ⟨4⟩).run ⟨0x0201⟩ (endpoint reply)).1
    let completed (reply : Bytes) :=
      ((complete (firmware reply) (.fresh 2 ⟨4⟩)).run ⟨0x0201⟩ (endpoint reply)).1
    let enabled (reply : Bytes) :=
      ((enableNotification (firmware reply) ⟨4⟩).run ⟨0x0201⟩ (endpoint reply)).1
    let counting (count : UInt8) : Bytes :=
      [0xC, 0, 2, 2, 1, 2, 16, 0, 0, 0, 0, 0, 6, 0, 0, 0, count, 0, 0, 0, 7, 8, 9, 5]
    retrieved (counting 3) = (.ok { remaining := 6, data := [7, 8, 9] }, ⟨0x0202⟩) ∧
      retrieved (counting 5) = (.error .deviceError, ⟨0x0202⟩) ∧
      completed [0xC, 0, 3, 2, 1, 2, 4, 0, 0xFF, 0xFF, 0xFF, 0xFF] =
        (.error .deviceError, ⟨0x0202⟩) ∧
      completed [] = (.ok (), ⟨0x0202⟩) ∧
      enabled [0xC, 0, 1, 2, 1, 2, 3, 0, 1, 1, 1] = (.ok (), ⟨0x0202⟩) ∧
      (retrieve (firmware []) ⟨4⟩).run ⟨0x0201⟩ fresh = ((.error .notReady, ⟨0x0202⟩), fresh) := by
  intro firmware fresh endpoint retrieved completed enabled counting
  have hclassified (reply : Bytes) :=
    replies_classified (firmware reply) ⟨4⟩ (.fresh 2 ⟨4⟩) ⟨0x0201⟩ (endpoint reply)
  have hretrieve (reply : Bytes) := ((hclassified reply).1 reply).1
  have hcomplete (reply : Bytes) := ((hclassified reply).1 reply).2.1
  have henable (reply : Bytes) := ((hclassified reply).1 reply).2.2
  have htokens (reply : Bytes) := (hclassified reply).2.1
  have hbare := (replies_classified (firmware []) ⟨4⟩ (.fresh 2 ⟨4⟩) ⟨0x0201⟩ fresh).2.2 rfl
  have hgets (message : Message) {reply : Bytes} (hframe : message.frame.length < 64)
      (hreply : reply.length ≤ 64) : message.Gets (firmware reply) (endpoint reply) reply := by
    have hbuffer : (endpoint reply).buffer = some ⟨⟨0x1000, 1, 0x1000⟩, 64⟩ := rfl
    have hpage : (64 : Nat) ≤ 4096 := by decide
    exact .passThrough hbuffer hframe hreply
      (Nat.max_le.2 ⟨Nat.le_trans (Nat.le_of_lt hframe) hpage, Nat.le_trans hreply hpage⟩) rfl
      (Memory.fetch_store _ _ _)
  refine ⟨Prod.ext ?_ (htokens _).1, Prod.ext ?_ (htokens _).1, Prod.ext ?_ (htokens _).2.1,
    Prod.ext ?_ (htokens _).2.1, Prod.ext ?_ (htokens _).2.2, hbare.1⟩
  · exact (hretrieve _ (hgets _ (by decide) (by decide))).1 (by decide)
  · exact (hretrieve _ (hgets _ (by decide) (by decide))).2 (by decide)
  · exact (hcomplete _ (hgets _ (by decide) (by decide))).2 (by decide)
  · exact (hcomplete _ (hgets _ (by decide) (by decide))).1 (.inl rfl)
  · exact (henable _ (hgets _ (by decide) (by decide))).1 (by decide)

end MessageProxy.Forwarding
