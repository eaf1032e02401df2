import MessageProxy.Proofs.Endpoint.Untrusted
import MessageProxy.Proofs.Forwarding.Exchange

/-!
A message of the request forwarding service group to any firmware.

Each message is one call at most. What its answer is taken for is a function of what the call
returns and of the bytes that are in the buffer then; only the log is left open.
-/

namespace MessageProxy.Forwarding

open Endpoint

/-- A message of the service group, on its way to the agent of a channel. -/
structure Message where
  channel : ChannelId
  service : UInt8
  token : UInt16
  data : Bytes

variable {σ : Type} {platform : Platform σ} {endpoint : Endpoint σ} {buffer : SharedBuffer}
  {tokens : TokenSource}

namespace Message

/-- Asks for the request that is forwarded at the moment. -/
def retrieving (channel : ChannelId) (tokens : TokenSource) : Message :=
  { channel, service := Service.retrieveMessage, token := tokens.next, data := [] }

/-- Completes the request as the context says. -/
def completing (context : Context) (tokens : TokenSource) : Message :=
  { channel := context.channel, service := Service.completeMessage, token := tokens.next
    data := context.completion.encode }

def header (message : Message) : Header :=
  .request ServiceGroup.requestForward message.service message.token

/-- The bytes that are put into the buffer. -/
def frame (message : Message) : Bytes :=
  { message.header with dataLength := message.data.length.toUInt16 }.encode ++ message.data

def call (message : Message) : Call :=
  .send message.channel message.service.toUInt32 message.frame.length

/-- What the firmware returns to the message. -/
def answer (platform : Platform σ) (buffer : SharedBuffer) (message : Message) (world : World σ) :
    Return :=
  (world.stored buffer.region message.frame).answer platform message.call

/-- The world after the message. -/
def sent (platform : Platform σ) (buffer : SharedBuffer) (message : Message) (world : World σ) :
    World σ :=
  (world.stored buffer.region message.frame).called platform message.call

/-- The agent's answer, of which the firmware says how long it is. -/
def reply (platform : Platform σ) (buffer : SharedBuffer) (message : Message) (world : World σ) :
    Except Fault Bytes :=
  let answer := message.answer platform buffer world
  if answer.error ≠ 0 then .error answer.fault
  else if answer.value = 0 then .ok []
  else if answer.value > buffer.size then .error .deviceError
  else .ok ((message.sent platform buffer world).memory.fetch buffer.region.base
    answer.value.toNat)

/-- The data of the agent's answer, which has to answer this message, or to be empty. -/
def body (platform : Platform σ) (buffer : SharedBuffer) (message : Message) (world : World σ) :
    Except Fault (Option Bytes) :=
  match message.reply platform buffer world with
  | .error fault => .error fault
  | .ok [] => .ok none
  | .ok reply =>
    match Frame.decode message.header reply with
    | .ok (_, data) => .ok (some data)
    | .error _ => .error .deviceError

/-- The data of a reply, which has to answer the message, or to be empty. -/
def heard (message : Message) (reply : Bytes) : Except Fault (Option Bytes) :=
  if reply = [] then .ok none
  else ((Frame.decode message.header reply).mapError Refusal.fault).map fun answer => some answer.2

end Message

/-- The request that an answer brings. -/
def requested : Except Fault (Option Bytes) → Except Fault Request
  | .error fault => .error fault
  | .ok none => .error .deviceError
  | .ok (some data) =>
    match Retrieval.ofBody? data with
    | none => .error .deviceError
    | some retrieval =>
      if retrieval.status = 0 ∧ retrieval.returned.toNat ≤ retrieval.data.length then
        .ok { remaining := retrieval.remaining
              data := retrieval.data.take retrieval.returned.toNat }
      else .error .deviceError

/-- Whether an answer acknowledges a completion: it has no status word, or that of a success. -/
def acknowledged : Except Fault (Option Bytes) → Except Fault Unit
  | .error fault => .error fault
  | .ok body =>
    match Bytes.words (body.getD []) with
    | [] => .ok ()
    | status :: _ => if status = 0 then .ok () else .error .deviceError

theorem Retrieval.length_le_of_ofBody? {data : Bytes} {retrieval : Retrieval}
    (hretrieval : ofBody? data = some retrieval) : retrieveHeaderLength ≤ data.length := by
  unfold ofBody? at hretrieval
  split at hretrieval
  · simp only [retrieveHeaderLength, List.length_cons]
    omega
  · cases hretrieval

theorem Retrieval.mapError_request (retrieval : Retrieval) :
    retrieval.request.mapError Refusal.fault =
      if retrieval.status = 0 ∧ retrieval.returned.toNat ≤ retrieval.data.length then
        .ok { remaining := retrieval.remaining
              data := retrieval.data.take retrieval.returned.toNat }
      else .error .deviceError := by
  unfold request AgentStatus.check Bytes.take?
  by_cases hstatus : retrieval.status = 0
  · by_cases hreturned : retrieval.returned.toNat ≤ retrieval.data.length
    · simp only [hstatus, hreturned, true_and, if_true]
      rfl
    · simp only [hstatus, hreturned, and_false, if_true, if_false]
      rfl
  · simp only [hstatus, false_and, if_false]
    rfl

theorem toInt32_eq_zero_iff (status : UInt32) : status.toInt32 = 0 ↔ status = 0 :=
  ⟨fun hzero => congrArg Int32.toUInt32 hzero, fun hzero => congrArg UInt32.toInt32 hzero⟩

theorem mapError_checkAcknowledgement (body : Option Bytes) :
    (checkAcknowledgement body).mapError Refusal.fault = acknowledged (.ok body) := by
  unfold checkAcknowledgement acknowledged
  dsimp only
  cases Bytes.words (body.getD []) with
  | nil => rfl
  | cons status rest =>
    dsimp only
    unfold AgentStatus.check
    by_cases hstatus : status = 0
    · subst hstatus
      rfl
    · rw [if_neg hstatus, if_neg fun hword => hstatus ((toInt32_eq_zero_iff status).1 hword)]
      rfl

namespace Message

variable {message : Message}

/-- An answer is what comes of the message for a caller with room for all of the shared memory. -/
theorem reply_eq_taken (platform : Platform σ) (buffer : SharedBuffer) (message : Message)
    (world : World σ) :
    message.reply platform buffer world =
      taken buffer buffer.size.toNat (message.answer platform buffer world)
        (message.sent platform buffer world).memory := by
  unfold reply taken
  dsimp only
  by_cases hlarge : (message.answer platform buffer world).value > buffer.size
  · rw [if_pos hlarge, if_pos hlarge]
  · -- the caller's room cannot refuse what fits the shared memory
    have hcapacity : ¬(message.answer platform buffer world).value.toNat > buffer.size.toNat := by
      rw [gt_iff_lt, ← UInt64.lt_iff_toNat_lt]
      exact hlarge
    rw [if_neg hlarge, if_neg hlarge, if_neg hcapacity]

/-- An answer may be as long as the shared memory. -/
theorem run_send (platform : Platform σ) (hbuffer : endpoint.buffer = some buffer)
    (hroom : buffer.HasRoom) (hframe : message.frame.length < buffer.size.toNat) :
    ∃ world, (send platform message.channel message.service.toUInt32 message.frame
        buffer.size.toNat).run endpoint =
        (message.reply platform buffer endpoint.world, { endpoint with world }) ∧
      (message.sent platform buffer endpoint.world).Matches world := by
  rw [reply_eq_taken]
  exact run_send_taken hbuffer hroom hframe message.channel message.service.toUInt32
    buffer.size.toNat

theorem encode_frame (htoken : message.token = tokens.next)
    (hdata : message.data.length ≤ Frame.maxData) :
    Frame.encode (.request ServiceGroup.requestForward message.service tokens.next) message.data =
      .ok message.frame := by
  rw [← htoken]
  exact Frame.encode_of_le message.header hdata

/-- The data of an answer are those of the reply that comes of the message. -/
theorem body_eq_bind (platform : Platform σ) (buffer : SharedBuffer) (message : Message)
    (world : World σ) :
    message.body platform buffer world =
      (message.reply platform buffer world).bind message.heard := by
  unfold body
  cases message.reply platform buffer world with
  | error fault => rfl
  | ok reply =>
    cases reply with
    | nil => rfl
    | cons first rest =>
      dsimp only [Except.bind]
      rw [heard, if_neg (List.cons_ne_nil _ _)]
      cases hdecode : Frame.decode message.header (first :: rest) with
      | error reason => exact congrArg Except.error (Frame.fault_of_decode hdecode).symm
      | ok answer => rfl

/-- A message takes a token, and what comes of it is what its reply is taken for. -/
theorem run_exchange_of_send (hbuffer : endpoint.buffer = some buffer)
    (htoken : message.token = tokens.next) (hdata : message.data.length ≤ Frame.maxData)
    {outcome : Except Fault Bytes} {next : Endpoint σ}
    (hsend : (send platform message.channel message.service.toUInt32 message.frame
      buffer.size.toNat).run endpoint = (outcome, next)) :
    ∃ world, (exchange platform message.channel message.service message.data).run tokens
        endpoint = ((outcome.bind message.heard, tokens.take.2), { next with world }) ∧
      next.world.Matches world := by
  have hheader : Header.request ServiceGroup.requestForward message.service tokens.next =
      message.header := by
    rw [← htoken]
    rfl
  unfold exchange
  rw [run_bind_own, run_takeToken]
  dsimp only
  rw [encode_frame htoken hdata, hheader]
  simp only [run_bind_own, run_lift_own, run_bufferSize hbuffer, hsend]
  rcases outcome with fault | _ | ⟨first, rest⟩
  · exact ⟨next.world, rfl, .refl _⟩
  · exact ⟨next.world, rfl, .refl _⟩
  · dsimp only
    rw [run_bind_own]
    obtain ⟨last, haccept, hlast⟩ := run_accept (Frame.decode message.header (first :: rest))
      tokens.take.2 next
    rw [haccept, Except.bind, heard, if_neg (List.cons_ne_nil _ _)]
    cases Frame.decode message.header (first :: rest) with
    | error reason => exact ⟨last, rfl, hlast⟩
    | ok answer => exact ⟨last, rfl, hlast⟩

/-- A message that does not fit the shared memory is not sent. -/
theorem run_exchange_of_le (platform : Platform σ) (message : Message)
    (hbuffer : endpoint.buffer = some buffer) (htoken : message.token = tokens.next)
    (hdata : message.data.length ≤ Frame.maxData)
    (hframe : buffer.size.toNat ≤ message.frame.length) :
    ∃ world, (exchange platform message.channel message.service message.data).run tokens
        endpoint = ((.error .invalidParameter, tokens.take.2), { endpoint with world }) ∧
      endpoint.world.Matches world :=
  run_exchange_of_send hbuffer htoken hdata (run_send_of_le hbuffer hframe message.channel
    message.service.toUInt32 buffer.size.toNat)

/-- A message that fits is sent once, and what comes of it is what its answer is taken for. -/
theorem run_exchange (platform : Platform σ) (message : Message)
    (hbuffer : endpoint.buffer = some buffer) (hroom : buffer.HasRoom)
    (htoken : message.token = tokens.next) (hdata : message.data.length ≤ Frame.maxData)
    (hframe : message.frame.length < buffer.size.toNat) :
    ∃ world, (exchange platform message.channel message.service message.data).run tokens
        endpoint =
        ((message.body platform buffer endpoint.world, tokens.take.2), { endpoint with world }) ∧
      (message.sent platform buffer endpoint.world).Matches world := by
  obtain ⟨sent, hsend, hsent⟩ := run_send platform hbuffer hroom hframe
  obtain ⟨world, hexchange, hworld⟩ := run_exchange_of_send hbuffer htoken hdata hsend
  rw [body_eq_bind]
  exact ⟨world, hexchange, hsent.trans hworld⟩

end Message

/-- What a retrieval makes of the answer to its message. -/
theorem run_retrieve {channel : ChannelId} {left : TokenSource} {body : Except Fault (Option Bytes)}
    {next : Endpoint σ}
    (hexchange : (exchange platform channel Service.retrieveMessage []).run tokens endpoint =
      ((body, left), next)) :
    ∃ last, (retrieve platform channel).run tokens endpoint =
        ((requested body, left), { next with world := last }) ∧
      next.world.Matches last := by
  unfold retrieve
  rw [run_bind_own, hexchange]
  rcases body with fault | _ | data
  · exact ⟨next.world, rfl, .refl _⟩
  · exact ⟨_, rfl, (World.Matches.refl _).noted _⟩
  · unfold requested
    dsimp only
    cases Retrieval.ofBody? data with
    | none => exact ⟨_, rfl, (World.Matches.refl _).noted _⟩
    | some retrieval =>
      let notice := Notice.retrieved retrieval.status retrieval.remaining retrieval.returned
      obtain ⟨last, haccept, hlast⟩ := run_accept retrieval.request left
        { next with world := next.world.noted notice }
      rw [Retrieval.mapError_request] at haccept
      exact ⟨last, haccept, ((World.Matches.refl _).noted _).trans hlast⟩

/-- What a completion makes of the answer to its message. -/
theorem run_complete {context : Context} {left : TokenSource}
    {body : Except Fault (Option Bytes)} {next : Endpoint σ}
    (hexchange : (exchange platform context.channel Service.completeMessage
      context.completion.encode).run tokens endpoint = ((body, left), next)) :
    ∃ last, (complete platform context).run tokens endpoint =
        ((acknowledged body, left), { next with world := last }) ∧
      next.world.Matches last := by
  unfold complete
  rw [run_bind_own, hexchange]
  cases body with
  | error fault => exact ⟨next.world, rfl, .refl _⟩
  | ok body =>
    dsimp only
    obtain ⟨last, haccept, hlast⟩ := run_accept (checkAcknowledgement body) left next
    rw [haccept, mapError_checkAcknowledgement]
    exact ⟨last, rfl, hlast⟩

/-- An answer is no longer than the shared memory. -/
theorem Message.length_reply_le {message : Message} {world : World σ} {reply : Bytes}
    (hreply : message.reply platform buffer world = .ok reply) :
    reply.length ≤ buffer.size.toNat := by
  unfold Message.reply at hreply
  dsimp only at hreply
  split at hreply
  · cases hreply
  · split at hreply
    · cases hreply
      exact Nat.zero_le _
    · split at hreply
      · cases hreply
      · rename_i _ _ hlarge
        cases hreply
        rw [gt_iff_lt, UInt64.lt_iff_toNat_lt] at hlarge
        rw [Memory.length_fetch]
        omega

theorem Message.sent_matches (platform : Platform σ) (buffer : SharedBuffer) (message : Message)
    {world other : World σ} (hmatches : world.Matches other) :
    (message.sent platform buffer world).Matches (message.sent platform buffer other) :=
  (hmatches.stored buffer.region message.frame).called message.call

/-- What comes of a message does not depend on the log. -/
theorem Message.body_eq (platform : Platform σ) (buffer : SharedBuffer) (message : Message)
    {world other : World σ} (hmatches : world.Matches other) :
    message.body platform buffer other = message.body platform buffer world := by
  have hanswer : message.answer platform buffer other = message.answer platform buffer world :=
    (hmatches.stored buffer.region message.frame).answer_eq message.call
  have hreply : message.reply platform buffer other = message.reply platform buffer world := by
    unfold reply
    rw [hanswer, (sent_matches platform buffer message hmatches).memory_eq]
  rw [body_eq_bind, body_eq_bind, hreply]

end MessageProxy.Forwarding
