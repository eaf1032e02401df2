import Mathlib.Algebra.Group.Nat.Defs
import MessageProxy.Proofs.Delivery

/-!
What an exchange takes from a capability that it does not trust.

The capability may fail in any way, or leave anything in the buffer and say that any length is in
use. What the exchange makes of that is a function of the two: `opened`.
-/

namespace MessageProxy

namespace Bytes

/-- The low digits of a number are those of a word that holds it. -/
theorem digit_toUInt64 (value : Nat) {index : Nat} (hindex : index < 8) :
    digit index value.toUInt64.toNat = UInt8.ofNat (value / 256 ^ index) := by
  have hsplit : UInt64.size = 256 ^ index * 256 ^ (8 - index) := by
    rw [← Nat.pow_add, Nat.add_sub_cancel' (Nat.le_of_lt hindex)]
  have hdvd : 256 ∣ 256 ^ (8 - index) := by
    refine ⟨256 ^ (7 - index), ?_⟩
    rw [← Nat.pow_succ', Nat.succ_sub (by omega)]
  have hword : value.toUInt64.toNat = value % UInt64.size := UInt64.toNat_ofNat'
  apply UInt8.toNat_inj.1
  -- what the word drops is a multiple of what the digit is counted up to
  rw [digit, hword, hsplit]
  change (value % (256 ^ index * 256 ^ (8 - index)) / 256 ^ index) % 256 = _ % 256
  rw [Nat.mod_mul_right_div_self, Nat.mod_mod_of_dvd _ hdvd]

/-- The bytes of the word that holds a number, as far as it does. -/
theorem ofUInt64_toUInt64 (value : Nat) :
    ofUInt64 value.toUInt64 =
      (List.range 8).map fun index => UInt8.ofNat (value / 256 ^ index) := by
  have hdigits : ofUInt64 value.toUInt64 =
      (List.range 8).map fun index => digit index value.toUInt64.toNat := rfl
  rw [hdigits]
  exact List.map_congr_left fun index hindex => digit_toUInt64 value (List.mem_range.1 hindex)

theorem length_overwrite_take (written bytes : Bytes) :
    (overwrite (written.take bytes.length) bytes).length = bytes.length := by
  rw [overwrite, List.length_append, List.length_drop, List.length_take]
  omega

end Bytes

namespace Envelope

theorem wrap_eq (tag : Guid) (request : Bytes) (capacity : Nat) :
    wrap tag request capacity =
      tag.toList ++ (List.range 8).map (fun index => UInt8.ofNat (request.length / 256 ^ index)) ++
        request ++ List.replicate (max request.length capacity - request.length) 0 := by
  have htake : request.take (max request.length capacity) = request :=
    List.take_of_length_le (Nat.le_max_left ..)
  rw [wrap, header, Bytes.ofUInt64_toUInt64, Bytes.zeroExtend, htake, ← List.append_assoc]

theorem length_drop_take {buffer : Bytes} {length : UInt64}
    (hbounds : ¬(length.toNat < headerLength ∨ length.toNat > buffer.length)) :
    ((buffer.take length.toNat).drop headerLength).length = length.toNat - headerLength := by
  rw [List.length_drop, List.length_take]
  omega

/-- What comes of an envelope that is back: the bytes in use behind its header, if the length in use
covers the header and not more than the buffer, and then if there is room for them. -/
def opened (capacity : Nat) (buffer : Bytes) (length : UInt64) : Except Fault Bytes :=
  if length.toNat < headerLength ∨ length.toNat > buffer.length then .error .deviceError
  else if length.toNat - headerLength > capacity then .error .capacityExceeded
  else .ok ((buffer.take length.toNat).drop headerLength)

theorem opened_of_unwrap {buffer reply : Bytes} {length : UInt64}
    (hunwrap : unwrap buffer length = .ok reply) (capacity : Nat) :
    opened capacity buffer length =
      if reply.length > capacity then .error .capacityExceeded else .ok reply := by
  unfold unwrap at hunwrap
  split at hunwrap
  · cases hunwrap
  · rename_i hbounds
    obtain rfl := Except.ok.inj hunwrap
    rw [opened, if_neg hbounds, length_drop_take hbounds]

theorem opened_of_unwrap_error {buffer : Bytes} {length : UInt64} {reason : Refusal}
    (hunwrap : unwrap buffer length = .error reason) (capacity : Nat) :
    opened capacity buffer length = .error reason.fault := by
  unfold unwrap at hunwrap
  split at hunwrap
  · rename_i hbounds
    obtain rfl := Except.error.inj hunwrap
    exact if_pos hbounds
  · cases hunwrap

/-- What a caller with a buffer of its own finds there. -/
theorem deliverTo_opened (caller buffer : Bytes) (length : UInt64) :
    Endpoint.deliverTo caller (opened caller.length buffer length) =
      if length.toNat < headerLength ∨ length.toNat > buffer.length then
        (.error .deviceError, caller)
      else if length.toNat - headerLength > caller.length then (.error .capacityExceeded, caller)
      else (.ok (length.toNat - headerLength),
        (buffer.take length.toNat).drop headerLength ++
          caller.drop (length.toNat - headerLength)) := by
  unfold opened
  by_cases hbounds : length.toNat < headerLength ∨ length.toNat > buffer.length
  · rw [if_pos hbounds, if_pos hbounds]
    rfl
  rw [if_neg hbounds, if_neg hbounds]
  by_cases hcapacity : length.toNat - headerLength > caller.length
  · rw [if_pos hcapacity, if_pos hcapacity]
    rfl
  · rw [if_neg hcapacity, if_neg hcapacity, Endpoint.deliverTo, Bytes.overwrite,
      length_drop_take hbounds]

end Envelope

variable {σ : Type}

/-- The world after an envelope has been given away. -/
def World.given (communicate : Communicate σ) (buffer : Bytes) (length : UInt64)
    (world : World σ) : World σ :=
  (World.communicate communicate buffer length world).2

@[simp]
theorem World.deeds_given (communicate : Communicate σ) (buffer : Bytes) (length : UInt64)
    (world : World σ) :
    (world.given communicate buffer length).deeds =
      world.deeds ++ [.communicated buffer length] :=
  deeds_record world rfl

namespace Delivery

open Envelope

/-- The request goes out in an envelope with room for the reply, which is given away once, and the
buffer that comes back and the length in use decide. -/
theorem run_exchangeEnveloped_opened (communicate : Communicate σ) (tag : Guid) (request : Bytes)
    (capacity : Nat) (endpoint : Endpoint σ) :
    let sent := wrap tag request capacity
    let inUse := (headerLength + request.length).toUInt64
    let back := World.communicate communicate sent inUse endpoint.world
    ∃ world, (exchangeEnveloped communicate tag request capacity).run endpoint =
        (back.1.bind fun (buffer, length) => opened capacity buffer length,
          { endpoint with world }) ∧
      (endpoint.world.given communicate sent inUse).Matches world := by
  intro sent inUse back
  have hgiven := World.Matches.refl (endpoint.world.given communicate sent inUse)
  have hback : World.communicate communicate sent inUse endpoint.world =
      (back.1, endpoint.world.given communicate sent inUse) := rfl
  unfold exchangeEnveloped
  rw [run_bind, Endpoint.run_lift_world, hback]
  rcases back.1 with fault | ⟨buffer, length⟩
  · exact ⟨_, rfl, hgiven⟩
  dsimp only [Except.bind]
  rw [run_bind]
  cases hunwrap : unwrap buffer length with
  | error reason =>
    rw [opened_of_unwrap_error hunwrap]
    exact ⟨_, rfl, hgiven.noted _⟩
  | ok reply =>
    have haccept : (accept (.ok reply) : Action σ Bytes) = pure reply := rfl
    rw [opened_of_unwrap hunwrap, haccept, run_pure]
    by_cases hcapacity : reply.length > capacity
    · simp only [if_pos hcapacity]
      exact ⟨_, rfl, hgiven⟩
    · simp only [if_neg hcapacity]
      exact ⟨_, rfl, hgiven⟩

end Delivery

end MessageProxy
