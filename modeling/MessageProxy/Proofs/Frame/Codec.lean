import MessageProxy.Proofs.Frame.Fields

/-!
The codec of frames in both directions: what is encoded is decoded, whatever stands behind it, and
nothing is decoded that is not encoded as it was.
-/

namespace MessageProxy.Frame

/-- What is read out of a frame is written as it was read. -/
theorem encode_of_accepts {request : Header} {frame : Bytes} (haccepts : Accepts request frame) :
    encode (.read frame) ((frame.drop Header.length).take (frame.word16 6).toNat) =
      .ok (frame.take (Header.length + (frame.word16 6).toNat)) := by
  obtain ⟨hlength, -, -, -, hdata⟩ := haccepts
  have hcount : ((frame.drop Header.length).take (frame.word16 6).toNat).length =
      (frame.word16 6).toNat := by
    rw [List.length_take, List.length_drop, Header.length]
    omega
  have hmax : (frame.word16 6).toNat ≤ maxData := Nat.le_of_lt_succ (frame.word16 6).toNat_lt
  have hword : (frame.word16 6).toNat.toUInt16 = (Header.read frame).dataLength :=
    UInt16.ofNat_toNat
  have hheader : (Header.read frame).encode = frame.take Header.length :=
    Header.encode_of_decode? (Header.decode?_of_le hlength)
  rw [encode_of_le _ (Nat.le_trans (Nat.le_of_eq hcount) hmax), hcount, hword, List.take_add,
    ← hheader]

/-- The codec over the whole format. A header and data make a frame exactly when the length of the
data fits its field. Whatever stands behind such a frame, it is read as the header with that length
and the data where the header names the request's group, service and token, and is a device error
where it does not. Of any bytes at all, those answer a request that begin with a whole header which
names the request's group, service and token, and have as many bytes behind it as it says. What is
read out of these makes the very bytes that were read, and all others are device errors. -/
theorem codec_exact (request : Header) :
    (∀ (header : Header) (data : Bytes),
      (65535 < data.length → encode header data = .error .invalidParameter) ∧
      (data.length ≤ 65535 → data.length.toUInt16.toNat = data.length ∧
        ∃ frame, encode header data = .ok frame ∧ ∀ trailing : Bytes,
          (decode request (frame ++ trailing)).mapError Refusal.fault =
            if header.group = request.group ∧ header.service = request.service ∧
              header.token = request.token then
              .ok ({ header with dataLength := data.length.toUInt16 }, data)
            else .error .deviceError)) ∧
    ∀ frame : Bytes,
      let dataLength := (frame.word16 6).toNat
      let accepted := 8 ≤ frame.length ∧ frame.word16 0 = request.group ∧
        frame.getD 2 0 = request.service ∧ frame.word16 4 = request.token ∧
        8 + dataLength ≤ frame.length
      (accepted → ∃ header data, decode request frame = .ok (header, data) ∧
        header = {
          group := request.group, service := request.service, kind := frame.getD 3 0
          token := request.token, dataLength := frame.word16 6 } ∧
        data = (frame.drop 8).take dataLength ∧
        encode header data = .ok (frame.take (8 + dataLength))) ∧
      (¬accepted → (decode request frame).mapError Refusal.fault = .error .deviceError) := by
  refine ⟨?_, ?_⟩
  · intro header data
    refine ⟨encode_of_lt header, fun hdata => ?_⟩
    have hframe := encode_of_le header hdata
    refine ⟨toNat_dataLength hdata, _, hframe, fun trailing => ?_⟩
    by_cases hanswers : header.answers request = true
    · rw [if_pos (Header.answers_iff.1 hanswers), decode_of_encode_append hanswers hframe]
      rfl
    · rw [if_neg fun hnames => hanswers (Header.answers_iff.2 hnames),
        decode_of_encode_foreign (Bool.eq_false_iff.2 hanswers) hframe]
      rfl
  · intro frame dataLength accepted
    refine ⟨fun haccepts => ?_, fun hrefuses => ?_⟩
    · have hdecode := decode_of_accepts haccepts
      have hencode := encode_of_accepts haccepts
      obtain ⟨-, hgroup, hservice, htoken, -⟩ := haccepts
      refine ⟨_, _, hdecode, ?_, rfl, hencode⟩
      rw [Header.read, hgroup, hservice, htoken]
    · obtain ⟨reason, hdecode, hfault⟩ := decode_of_not_accepts hrefuses
      rw [hdecode, ← hfault]
      rfl

/-- A frame with two bytes of data and two bytes behind it, for the request that has the last of all
tokens and for the one after it; and the same frame without its last byte of data. -/
theorem codec_exact_trailing :
    let header : Header :=
      { group := 11, service := 3, kind := 2, token := 0xFFFF, dataLength := 9 }
    let frame : Bytes := [11, 0, 3, 2, 0xFF, 0xFF, 2, 0, 5, 6]
    encode header [5, 6] = .ok frame ∧
      (decode (.request 11 3 0xFFFF) (frame ++ [7, 8])).mapError Refusal.fault =
        .ok ({ header with dataLength := 2 }, [5, 6]) ∧
      (decode (.request 11 3 0) (frame ++ [7, 8])).mapError Refusal.fault = .error .deviceError ∧
      (decode (.request 11 3 0xFFFF) (frame.take 9)).mapError Refusal.fault =
        .error .deviceError ∧
      encode header (List.replicate 65536 0) = .error .invalidParameter := by
  intro header frame
  have hfits : ([5, 6] : Bytes).length ≤ 65535 := by decide
  have hlong : 65535 < (List.replicate 65536 (0 : UInt8)).length := by
    rw [List.length_replicate]
    decide
  obtain ⟨hcodec, hbytes⟩ := codec_exact (.request 11 3 0xFFFF)
  obtain ⟨-, made, hmade, hdecode⟩ := (hcodec header [5, 6]).2 hfits
  obtain ⟨-, other, hother, hforeign⟩ :=
    ((codec_exact (.request 11 3 0)).1 header [5, 6]).2 hfits
  have hframe : encode header [5, 6] = .ok frame :=
    (encode_of_le header hfits).trans (congrArg Except.ok (by decide))
  obtain rfl : made = frame := Except.ok.inj (hmade.symm.trans hframe)
  obtain rfl : other = frame := Except.ok.inj (hother.symm.trans hframe)
  exact ⟨hframe, hdecode [7, 8], hforeign [7, 8], (hbytes (frame.take 9)).2 (by decide),
    (hcodec header _).1 hlong⟩

end MessageProxy.Frame
