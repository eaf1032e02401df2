import MessageProxy.Refusal

/-!
Frames: a header and as many bytes of data as it says.

`encode` takes the data length from the data. `decode` accepts a frame only as the answer to a
given request, and ignores whatever follows the data.
-/

namespace MessageProxy.Frame

/-- The most data that one frame carries. -/
def maxData : Nat := 65535

/-- The frame of `header` and `data`; the header's own data length is not used. -/
def encode (header : Header) (data : Bytes) : Except Fault Bytes :=
  if data.length ≤ maxData then
    .ok ({ header with dataLength := data.length.toUInt16 }.encode ++ data)
  else .error .invalidParameter

/-- The header and the data of a frame that answers `request`. -/
def decode (request : Header) (frame : Bytes) : Except Refusal (Header × Bytes) :=
  match Header.decode? frame with
  | none => .error .incomplete
  | some header =>
    if header.answers request then
      match Bytes.take? header.dataLength.toNat (frame.drop Header.length) with
      | some data => .ok (header, data)
      | none => .error .incomplete
    else .error (.foreign header request)

theorem encode_of_le (header : Header) {data : Bytes} (hdata : data.length ≤ maxData) :
    encode header data =
      .ok ({ header with dataLength := data.length.toUInt16 }.encode ++ data) :=
  if_pos hdata

/-- Data whose length does not fit its field make no frame. -/
theorem encode_of_lt (header : Header) {data : Bytes} (hdata : maxData < data.length) :
    encode header data = .error .invalidParameter :=
  if_neg (Nat.not_le_of_lt hdata)

theorem toNat_dataLength {data : Bytes} (hdata : data.length ≤ maxData) :
    data.length.toUInt16.toNat = data.length :=
  UInt16.toNat_ofNat_of_lt' (Nat.lt_succ_of_le hdata)

theorem eq_of_encode {header : Header} {data frame : Bytes}
    (hframe : encode header data = .ok frame) :
    data.length ≤ maxData ∧
      frame = { header with dataLength := data.length.toUInt16 }.encode ++ data := by
  unfold encode at hframe
  split at hframe
  · rename_i hdata
    cases hframe
    exact ⟨hdata, rfl⟩
  · cases hframe

theorem length_of_encode {header : Header} {data frame : Bytes}
    (hframe : encode header data = .ok frame) : frame.length = Header.length + data.length := by
  obtain ⟨-, rfl⟩ := eq_of_encode hframe
  exact List.length_append

/-- A request is answered by the frame of any header that answers it, with the data of that frame
and whatever stands behind it. -/
theorem decode_of_encode_append {request header : Header}
    (hanswers : header.answers request = true) {data frame : Bytes}
    (hframe : encode header data = .ok frame) (trailing : Bytes) :
    decode request (frame ++ trailing) =
      .ok ({ header with dataLength := data.length.toUInt16 }, data) := by
  obtain ⟨hdata, rfl⟩ := eq_of_encode hframe
  have hlength := toNat_dataLength hdata
  have hdrop : ({ header with dataLength := data.length.toUInt16 }.encode ++
      (data ++ trailing)).drop Header.length = data ++ trailing :=
    List.drop_left' rfl
  have hsame : { header with dataLength := data.length.toUInt16 }.answers request = true :=
    hanswers
  have htake : Bytes.take? data.length.toUInt16.toNat (data ++ trailing) = some data := by
    rw [Bytes.take?, hlength, if_pos (by rw [List.length_append]; omega), List.take_left]
  rw [List.append_assoc]
  simp only [decode, Header.decode?_encode_append, hsame, if_true, hdrop, htake]

theorem decode_of_encode {request header : Header} (hanswers : header.answers request = true)
    {data frame : Bytes} (hframe : encode header data = .ok frame) :
    decode request frame = .ok ({ header with dataLength := data.length.toUInt16 }, data) := by
  have hdecode := decode_of_encode_append hanswers hframe []
  rwa [List.append_nil] at hdecode

/-- The frame of any other header is recognised as foreign. -/
theorem decode_of_encode_foreign {request header : Header}
    (hforeign : header.answers request = false) {data frame : Bytes}
    (hframe : encode header data = .ok frame) (trailing : Bytes) :
    decode request (frame ++ trailing) =
      .error (.foreign { header with dataLength := data.length.toUInt16 } request) := by
  obtain ⟨-, rfl⟩ := eq_of_encode hframe
  have hsame : { header with dataLength := data.length.toUInt16 }.answers request = false :=
    hforeign
  rw [List.append_assoc]
  simp only [decode, Header.decode?_encode_append, hsame]
  rfl

/-- A frame that is no answer is a device error. -/
theorem fault_of_decode {request : Header} {frame : Bytes} {reason : Refusal}
    (hdecode : decode request frame = .error reason) : reason.fault = .deviceError := by
  unfold decode at hdecode
  cases hheader : Header.decode? frame with
  | none =>
    rw [hheader] at hdecode
    cases hdecode
    rfl
  | some header =>
    simp only [hheader] at hdecode
    by_cases hanswers : header.answers request = true
    · simp only [hanswers, if_true] at hdecode
      cases hdata : Bytes.take? header.dataLength.toNat (frame.drop Header.length) with
      | none =>
        rw [hdata] at hdecode
        cases hdecode
        rfl
      | some data =>
        rw [hdata] at hdecode
        cases hdecode
    · simp only [hanswers] at hdecode
      cases hdecode
      rfl

end MessageProxy.Frame

namespace MessageProxy.AgentStatus

/-- Accepts a status word of zero and refuses every other. -/
def check (status : Int32) : Except Refusal Unit :=
  if status = 0 then .ok () else .error (.agentFailed status)

end MessageProxy.AgentStatus
