import MessageProxy.Frame.Codec
import MessageProxy.Frame.Response

/-!
Where the fields of a frame lie.

A frame that comes from outside may hold any bytes. Which frames answer a request, and what their
fields say, is put here in terms of the bytes at fixed offsets.
-/

namespace MessageProxy

namespace Bytes

/-- The 16-bit word at an offset; bytes that are not there count as zeros. -/
def word16 (bytes : Bytes) (offset : Nat) : UInt16 :=
  toUInt16 (bytes.getD offset 0) (bytes.getD (offset + 1) 0)

/-- The 32-bit word at an offset; bytes that are not there count as zeros. -/
def word32 (bytes : Bytes) (offset : Nat) : UInt32 :=
  toUInt32 (bytes.getD offset 0) (bytes.getD (offset + 1) 0) (bytes.getD (offset + 2) 0)
    (bytes.getD (offset + 3) 0)

theorem getD_drop (bytes : Bytes) (count offset : Nat) :
    (bytes.drop count).getD offset 0 = bytes.getD (count + offset) 0 := by
  rw [List.getD_eq_getElem?_getD, List.getD_eq_getElem?_getD, List.getElem?_drop]

theorem word32_drop (bytes : Bytes) (count offset : Nat) :
    word32 (bytes.drop count) offset = word32 bytes (count + offset) := by
  unfold word32
  rw [getD_drop, getD_drop, getD_drop, getD_drop]
  rfl

theorem getD_take {bytes : Bytes} {count offset : Nat} (hoffset : offset < count) :
    (bytes.take count).getD offset 0 = bytes.getD offset 0 := by
  rw [List.getD_eq_getElem?_getD, List.getD_eq_getElem?_getD, List.getElem?_take_of_lt hoffset]

theorem word32_take {bytes : Bytes} {count offset : Nat} (hoffset : offset + 4 ≤ count) :
    word32 (bytes.take count) offset = word32 bytes offset := by
  unfold word32
  rw [getD_take (by omega), getD_take (by omega), getD_take (by omega), getD_take (by omega)]

/-- The words at the start of bytes of which there are enough. -/
theorem words_take {bytes : Bytes} {count : Nat} (hlength : 4 * count ≤ bytes.length) :
    words (bytes.take (4 * count)) =
      (List.range count).map fun index => bytes.word32 (4 * index) := by
  induction count generalizing bytes with
  | zero => rfl
  | succ count ih =>
    match bytes, hlength with
    | b0 :: b1 :: b2 :: b3 :: rest, hlength =>
      have hrest := ih (Nat.le_of_add_le_add_right hlength)
      rw [List.range_succ_eq_map, List.map_cons, List.map_map]
      exact congrArg (toUInt32 b0 b1 b2 b3 :: ·) hrest

end Bytes

/-- The header at the start of a frame, field by field. -/
def Header.read (frame : Bytes) : Header where
  group := frame.word16 0
  service := frame.getD 2 0
  kind := frame.getD 3 0
  token := frame.word16 4
  dataLength := frame.word16 6

theorem Header.dataLength_read (frame : Bytes) : (Header.read frame).dataLength = frame.word16 6 :=
  rfl

theorem Header.decode?_of_le {frame : Bytes} (hlength : length ≤ frame.length) :
    decode? frame = some (.read frame) := by
  match frame, hlength with
  | _ :: _ :: _ :: _ :: _ :: _ :: _ :: _ :: _, _ => rfl

theorem Header.decode?_of_lt {frame : Bytes} (hlength : frame.length < length) :
    decode? frame = none := by
  cases hheader : decode? frame with
  | none => rfl
  | some header => exact absurd (length_le_of_decode? hheader) (Nat.not_le_of_lt hlength)

/-- The header at the start of a response body, field by field. -/
def ResponseHeader.read (body : Bytes) : ResponseHeader where
  status := (body.word32 0).toInt32
  flags := body.word32 4
  remaining := body.word32 8
  returned := body.word32 12
  function := body.word32 16

theorem ResponseHeader.split?_of_le {body : Bytes} (hlength : length ≤ body.length) :
    split? body = some (.read body, body.drop length) := by
  match body, hlength with
  | _ :: _ :: _ :: _ :: _ :: _ :: _ :: _ :: _ :: _ :: _ :: _ :: rest, hlength =>
    have hrest : 8 ≤ rest.length := by
      simp only [length, List.length_cons] at hlength
      omega
    match rest, hrest with
    | _ :: _ :: _ :: _ :: _ :: _ :: _ :: _ :: _, _ => rfl

theorem ResponseHeader.split?_of_lt {body : Bytes} (hlength : body.length < length) :
    split? body = none := by
  cases hsplit : split? body with
  | none => rfl
  | some parts =>
    have hbody := append_of_split? hsplit
    rw [hbody, List.length_append, length_encode] at hlength
    omega

namespace Frame

/-- The frame answers a request: its header is whole and names the request's group, service and
token, and the data that it announces are there. -/
def Accepts (request : Header) (frame : Bytes) : Prop :=
  8 ≤ frame.length ∧ frame.word16 0 = request.group ∧ frame.getD 2 0 = request.service ∧
    frame.word16 4 = request.token ∧ 8 + (frame.word16 6).toNat ≤ frame.length

theorem decode_of_accepts {request : Header} {frame : Bytes} (haccepts : Accepts request frame) :
    decode request frame =
      .ok (.read frame, (frame.drop Header.length).take (frame.word16 6).toNat) := by
  obtain ⟨hlength, hgroup, hservice, htoken, hdata⟩ := haccepts
  have hanswers : (Header.read frame).answers request = true := by
    simp only [Header.answers, Header.read, hgroup, hservice, htoken, decide_true, Bool.and_self]
  have htake : Bytes.take? (frame.word16 6).toNat (frame.drop Header.length) =
      some ((frame.drop Header.length).take (frame.word16 6).toNat) := by
    refine if_pos ?_
    rw [List.length_drop, Header.length]
    omega
  rw [decode, Header.decode?_of_le hlength]
  simp only [hanswers, if_true, Header.dataLength_read, htake]

theorem accepts_of_decode {request : Header} {frame : Bytes} {parts : Header × Bytes}
    (hdecode : decode request frame = .ok parts) : Accepts request frame := by
  unfold decode at hdecode
  by_cases hlength : 8 ≤ frame.length
  · rw [Header.decode?_of_le hlength] at hdecode
    by_cases hanswers : (Header.read frame).answers request = true
    · have hnames := hanswers
      simp only [Header.answers, Bool.and_eq_true, decide_eq_true_eq] at hnames
      obtain ⟨⟨hgroup, hservice⟩, htoken⟩ := hnames
      refine ⟨hlength, hgroup, hservice, htoken, Nat.le_of_not_lt fun hdata => ?_⟩
      have htake : Bytes.take? (frame.word16 6).toNat (frame.drop Header.length) = none := by
        refine if_neg ?_
        rw [List.length_drop, Header.length]
        omega
      simp only [hanswers, if_true, Header.dataLength_read, htake] at hdecode
      cases hdecode
    · simp only [hanswers] at hdecode
      cases hdecode
  · rw [Header.decode?_of_lt (Nat.lt_of_not_le hlength)] at hdecode
    cases hdecode

/-- Every other frame is refused. -/
theorem decode_of_not_accepts {request : Header} {frame : Bytes}
    (hrefuses : ¬Accepts request frame) :
    ∃ reason, decode request frame = .error reason ∧ reason.fault = .deviceError := by
  cases hdecode : decode request frame with
  | error reason => exact ⟨reason, rfl, fault_of_decode hdecode⟩
  | ok parts => exact absurd (accepts_of_decode hdecode) hrefuses

end Frame

end MessageProxy
