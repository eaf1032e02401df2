import MessageProxy.Proofs.Arrival
import MessageProxy.Proofs.Frame.Fields
import MessageProxy.Proofs.Ras.Tokens

/-!
What a client makes of the replies of an agent that may send anything.

A reply is a byte string. Which replies report a success, and what is read out of those, is a
function of the bytes at fixed offsets; every other reply is a device error.
-/

namespace MessageProxy.Ras

/-- The reply reports a success: its header is whole and answers the request, the data that it
announces are there and have room for a response header, and the status in that is zero. -/
def Succeeds (group : UInt16) (service : UInt8) (token : UInt16) (reply : Bytes) : Prop :=
  8 ≤ reply.length ∧ reply.word16 0 = group ∧ reply.getD 2 0 = service ∧ reply.word16 4 = token ∧
    8 + (reply.word16 6).toNat ≤ reply.length ∧ 20 ≤ (reply.word16 6).toNat ∧ reply.word32 8 = 0

instance (group : UInt16) (service : UInt8) (token : UInt16) (reply : Bytes) :
    Decidable (Succeeds group service token reply) :=
  inferInstanceAs (Decidable (_ ∧ _ ∧ _ ∧ _ ∧ _ ∧ _ ∧ _))

/-- The response in a reply, whose payload ends where the data end. -/
def Reply.read (reply : Bytes) : Reply where
  header := {
    status := (reply.word32 8).toInt32
    flags := reply.word32 12
    remaining := reply.word32 16
    returned := reply.word32 20
    function := reply.word32 24 }
  payload := (reply.drop 28).take ((reply.word16 6).toNat - 20)

namespace Reply

theorem ofFrame_of_accepts {request : Header} {reply : Bytes}
    (haccepts : Frame.Accepts request reply) (hheader : 20 ≤ (reply.word16 6).toNat) :
    ofFrame request reply = .ok (.read reply) := by
  have hbody : ResponseHeader.length ≤
      ((reply.drop Header.length).take (reply.word16 6).toNat).length := by
    obtain ⟨-, -, -, -, hdata⟩ := haccepts
    rw [List.length_take, List.length_drop, ResponseHeader.length, Header.length]
    omega
  have hfield {offset : Nat} (hoffset : offset + 4 ≤ 20) :
      Bytes.word32 ((reply.drop Header.length).take (reply.word16 6).toNat) offset =
        reply.word32 (8 + offset) := by
    rw [Bytes.word32_take (by omega), Bytes.word32_drop, Header.length]
  have hpayload : ((reply.drop Header.length).take (reply.word16 6).toNat).drop
      ResponseHeader.length = (reply.drop 28).take ((reply.word16 6).toNat - 20) := by
    rw [List.drop_take, List.drop_drop]
    rfl
  simp only [ofFrame, Frame.decode_of_accepts haccepts, bind, Except.bind,
    ResponseHeader.split?_of_le hbody, ResponseHeader.read, hpayload]
  rw [hfield (by omega), hfield (by omega), hfield (by omega), hfield (by omega),
    hfield (by omega)]
  rfl

/-- Data without room for a response header, or a frame that does not answer, is a device error. -/
theorem ofFrame_of_not_accepts {request : Header} {reply : Bytes}
    (hrefuses : ¬(Frame.Accepts request reply ∧ 20 ≤ (reply.word16 6).toNat)) :
    ∃ reason, ofFrame request reply = .error reason ∧ reason.fault = .deviceError := by
  by_cases haccepts : Frame.Accepts request reply
  · have hsmall : ¬20 ≤ (reply.word16 6).toNat := fun hheader => hrefuses ⟨haccepts, hheader⟩
    have hshort : ((reply.drop Header.length).take (reply.word16 6).toNat).length <
        ResponseHeader.length := by
      rw [List.length_take, ResponseHeader.length]
      omega
    refine ⟨.incomplete, ?_, rfl⟩
    simp only [ofFrame, Frame.decode_of_accepts haccepts, bind, Except.bind,
      ResponseHeader.split?_of_lt hshort]
    rfl
  · obtain ⟨reason, hdecode, hfault⟩ := Frame.decode_of_not_accepts haccepts
    refine ⟨reason, ?_, hfault⟩
    rw [ofFrame, hdecode]
    rfl

/-- A list of ids: the counters are checked first, then the payload. -/
theorem mapError_sourceIds (reply : Reply) :
    reply.sourceIds.mapError Refusal.fault =
      if reply.header.returned.toNat > 512 ∨ reply.header.remaining ≠ 0 then
        .error .capacityExceeded
      else if 4 * reply.header.returned.toNat > reply.payload.length then .error .deviceError
      else .ok (Bytes.words (reply.payload.take (4 * reply.header.returned.toNat))) := by
  unfold sourceIds
  by_cases hcounts : reply.header.returned.toNat > 512 ∨ reply.header.remaining ≠ 0
  · rw [if_pos hcounts]
    exact congrArg (Except.mapError Refusal.fault) (if_pos hcounts)
  rw [if_neg hcounts]
  refine (congrArg (Except.mapError Refusal.fault) (if_neg hcounts)).trans ?_
  by_cases hpayload : 4 * reply.header.returned.toNat > reply.payload.length
  · rw [if_pos hpayload, Bytes.take?, if_neg (Nat.not_le_of_gt hpayload)]
    rfl
  · rw [if_neg hpayload, Bytes.take?, if_pos (Nat.le_of_not_gt hpayload)]
    rfl

/-- A descriptor is taken whole, or not at all. -/
theorem mapError_sourceDescriptor (source : UInt32) (reply : Reply) :
    (reply.sourceDescriptor source).mapError Refusal.fault =
      if reply.header.remaining = 0 ∧ reply.header.flags &&& 0xF = 0 ∧
        reply.header.returned.toNat ≤ 1024 ∧ reply.header.returned.toNat ≤ reply.payload.length then
        .ok { type := .ghesv2, bytes := reply.payload.take reply.header.returned.toNat }
      else .error .deviceError := by
  unfold sourceDescriptor
  by_cases hremaining : reply.header.remaining ≠ 0
  · rw [if_neg fun haccepts => hremaining haccepts.1]
    exact congrArg (Except.mapError Refusal.fault) (if_pos hremaining)
  refine (congrArg (Except.mapError Refusal.fault) (if_neg hremaining)).trans ?_
  by_cases hflags : reply.header.flags &&& 0xF ≠ 0
  · have htype : DescriptorType.ofFlags? reply.header.flags = none := if_neg hflags
    rw [htype, if_neg fun haccepts => hflags haccepts.2.1]
    rfl
  have htype : DescriptorType.ofFlags? reply.header.flags = some .ghesv2 :=
    if_pos (Decidable.not_not.1 hflags)
  rw [htype]
  dsimp only
  by_cases hreturned : reply.header.returned.toNat > 1024
  · refine (congrArg (Except.mapError Refusal.fault) (if_pos hreturned)).trans ?_
    rw [if_neg fun haccepts => Nat.not_lt_of_ge haccepts.2.2.1 hreturned]
    rfl
  refine (congrArg (Except.mapError Refusal.fault) (if_neg hreturned)).trans ?_
  by_cases hpayload : reply.header.returned.toNat ≤ reply.payload.length
  · rw [Bytes.take?, if_pos hpayload, if_pos ⟨Decidable.not_not.1 hremaining,
      Decidable.not_not.1 hflags, Nat.le_of_not_gt hreturned, hpayload⟩]
    rfl
  · rw [Bytes.take?, if_neg hpayload, if_neg fun haccepts => hpayload haccepts.2.2.2]
    rfl

end Reply

theorem succeeds_iff {group : UInt16} {service : UInt8} {token : UInt16} {reply : Bytes} :
    Succeeds group service token reply ↔
      (Frame.Accepts (.request group service token) reply ∧ 20 ≤ (reply.word16 6).toNat) ∧
        (reply.word32 8).toInt32 = 0 := by
  have hstatus : (reply.word32 8).toInt32 = 0 ↔ reply.word32 8 = 0 :=
    ⟨fun hzero => congrArg Int32.toUInt32 hzero, fun hzero => congrArg UInt32.toInt32 hzero⟩
  rw [hstatus]
  simp only [Succeeds, Frame.Accepts, Header.request, and_assoc]

theorem mapError_map {ε δ α β : Type} (value : α → β) (fault : ε → δ) (outcome : Except ε α) :
    (value <$> outcome).mapError fault = value <$> outcome.mapError fault := by
  cases outcome with
  | error reason => rfl
  | ok result => rfl

namespace Query

variable {group token : UInt16} {reply : Bytes}

theorem outcome_of_succeeds {query : Query} (hsucceeds : Succeeds group query.service token reply) :
    query.outcome group token reply = (query.read (.read reply)).mapError Refusal.fault := by
  obtain ⟨⟨haccepts, hheader⟩, hstatus⟩ := succeeds_iff.1 hsucceeds
  have hcheck : AgentStatus.check (Reply.read reply).header.status = .ok () := if_pos hstatus
  rw [outcome_of_frame (Reply.ofFrame_of_accepts haccepts hheader), hcheck]
  rfl

theorem outcome_of_not_succeeds {query : Query}
    (hfails : ¬Succeeds group query.service token reply) :
    query.outcome group token reply = .error .deviceError := by
  by_cases haccepts : Frame.Accepts (.request group query.service token) reply ∧
      20 ≤ (reply.word16 6).toNat
  · have hstatus : (Reply.read reply).header.status ≠ 0 := fun hstatus =>
      hfails (succeeds_iff.2 ⟨haccepts, hstatus⟩)
    have hcheck : AgentStatus.check (Reply.read reply).header.status =
        .error (.agentFailed (Reply.read reply).header.status) :=
      if_neg hstatus
    rw [outcome_of_frame (Reply.ofFrame_of_accepts haccepts.1 haccepts.2), hcheck]
    rfl
  · obtain ⟨reason, hframe, hfault⟩ := Reply.ofFrame_of_not_accepts haccepts
    rw [outcome, hframe, ← hfault]
    rfl

/-- Behind a response header, as many payload bytes are there as the data have room for. -/
theorem length_payload_of_succeeds {service : UInt8}
    (hsucceeds : Succeeds group service token reply) :
    (Reply.read reply).payload.length = (reply.word16 6).toNat - 20 := by
  obtain ⟨-, -, -, -, hdata, hheader, -⟩ := hsucceeds
  rw [Reply.read, List.length_take, List.length_drop]
  omega

theorem take_payload {count : Nat} (hcount : count ≤ (reply.word16 6).toNat - 20) :
    (Reply.read reply).payload.take count = (reply.drop 28).take count := by
  rw [Reply.read, List.take_take, Nat.min_eq_left hcount]

/-- What a list of ids comes to: the status, then the counters, then the payload. -/
theorem outcome_sourceIds (group token : UInt16) (reply : Bytes) :
    let returned := (reply.word32 20).toNat
    sourceIds.outcome group token reply =
      if ¬Succeeds group Service.sourceIds token reply then .error .deviceError
      else if returned > 512 ∨ reply.word32 16 ≠ 0 then .error .capacityExceeded
      else if 4 * returned > (reply.word16 6).toNat - 20 then .error .deviceError
      else .ok (.ids ((List.range returned).map fun index => reply.word32 (28 + 4 * index))) := by
  intro returned
  by_cases hsucceeds : Succeeds group Service.sourceIds token reply
  · have hlength := length_payload_of_succeeds hsucceeds
    have hreturned : (Reply.read reply).header.returned.toNat = returned := rfl
    have hremaining : (Reply.read reply).header.remaining = reply.word32 16 := rfl
    rw [if_neg (not_not_intro hsucceeds), outcome_of_succeeds hsucceeds, read, mapError_map,
      Reply.mapError_sourceIds, hlength, hreturned, hremaining]
    by_cases hcounts : returned > 512 ∨ reply.word32 16 ≠ 0
    · rw [if_pos hcounts, if_pos hcounts]
      rfl
    rw [if_neg hcounts, if_neg hcounts]
    by_cases hpayload : 4 * returned > (reply.word16 6).toNat - 20
    · rw [if_pos hpayload, if_pos hpayload]
      rfl
    · have hwords : 4 * returned ≤ (reply.drop 28).length := by
        obtain ⟨-, -, -, -, hdata, hheader, -⟩ := hsucceeds
        rw [List.length_drop]
        omega
      rw [if_neg hpayload, if_neg hpayload, take_payload (Nat.le_of_not_gt hpayload),
        Bytes.words_take hwords]
      simp only [Bytes.word32_drop]
      rfl
  · rw [if_pos hsucceeds, outcome_of_not_succeeds hsucceeds]

/-- What a descriptor comes to: it is taken whole or not at all. -/
theorem outcome_sourceDescriptor (source : UInt32) (group token : UInt16) (reply : Bytes) :
    let returned := (reply.word32 20).toNat
    (sourceDescriptor source).outcome group token reply =
      if Succeeds group Service.sourceDescriptor token reply ∧ reply.word32 16 = 0 ∧
        reply.word32 12 &&& 0xF = 0 ∧ returned ≤ 1024 ∧ returned ≤ (reply.word16 6).toNat - 20 then
        .ok (.descriptor { type := .ghesv2, bytes := (reply.drop 28).take returned })
      else .error .deviceError := by
  intro returned
  by_cases hsucceeds : Succeeds group Service.sourceDescriptor token reply
  · have hlength := length_payload_of_succeeds hsucceeds
    have hreturned : (Reply.read reply).header.returned.toNat = returned := rfl
    have hremaining : (Reply.read reply).header.remaining = reply.word32 16 := rfl
    have hflags : (Reply.read reply).header.flags = reply.word32 12 := rfl
    rw [outcome_of_succeeds hsucceeds, read, mapError_map, Reply.mapError_sourceDescriptor, hlength,
      hreturned, hremaining, hflags]
    by_cases hwhole : reply.word32 16 = 0 ∧ reply.word32 12 &&& 0xF = 0 ∧ returned ≤ 1024 ∧
      returned ≤ (reply.word16 6).toNat - 20
    · rw [if_pos hwhole, if_pos ⟨hsucceeds, hwhole⟩, take_payload hwhole.2.2.2]
      rfl
    · rw [if_neg hwhole, if_neg fun haccepts => hwhole haccepts.2]
      rfl
  · rw [if_neg fun haccepts => hsucceeds haccepts.1, outcome_of_not_succeeds hsucceeds]

end Query

end MessageProxy.Ras
