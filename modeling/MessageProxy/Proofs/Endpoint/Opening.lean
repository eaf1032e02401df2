import MessageProxy.Peer
import MessageProxy.Proofs.Endpoint.Untrusted

/-!
Opening a channel with firmware that may answer anything.

The standard attributes are read in one call, and the memory that the firmware leaves says what kind
of channel it is.
-/

namespace MessageProxy

/-- The channel that standard attributes at the start of a block describe. -/
def ChannelInfo.inMemory (memory : Memory) (address : UInt64) : ChannelInfo where
  protocolId := memory.word address 0
  protocolVersion := memory.word address 1
  maxMessageLength := memory.word address 2
  sendTimeout := memory.word address 3
  completionTimeout := memory.word address 4
  capability := .ofBits (memory.word address 5)
  eventId := memory.word address 6

/-- Bits without a meaning do not matter for the ability to answer requests. -/
theorem ChannelInfo.isRequestChannel_iff {info : ChannelInfo} {bits : UInt32}
    (hcapability : info.capability = .ofBits bits) :
    info.isRequestChannel = true ↔ info.protocolId = 0 ∧ bits &&& 8 = 8 := by
  have hdefined : Capability.defined &&& 8 = 8 := by decide
  unfold isRequestChannel
  rw [Bool.and_eq_true, decide_eq_true_eq]
  refine and_congr_right fun _ => ?_
  unfold Capability.contains
  rw [decide_eq_true_eq, hcapability]
  change bits &&& Capability.defined &&& 8 = 8 ↔ _
  rw [UInt32.and_assoc, hdefined]

/-- A block of all standard attributes is never too short. -/
theorem ChannelInfo.isSome_ofAttributes? {values : List UInt32}
    (hlength : Attribute.standardCount.toNat ≤ values.length) :
    (ofAttributes? values).isSome = true := by
  unfold ofAttributes?
  rw [if_neg (Nat.not_lt_of_le hlength)]
  match values, hlength with
  | _ :: _ :: _ :: _ :: _ :: _ :: _ :: _, _ => rfl

namespace Endpoint

variable {σ : Type} {platform : Platform σ} {endpoint : Endpoint σ} {buffer : SharedBuffer}

/-- When the firmware has answered, the values are the words that it has left. -/
theorem run_readAttributes_of_eq (hbuffer : endpoint.buffer = some buffer) {channel : ChannelId}
    {first count : UInt32} (hcount : count ≠ 0) (hsize : 4 * count.toNat ≤ buffer.size.toNat)
    (hanswer : (endpoint.world.answer platform (.readAttributes channel first count)).error = 0) :
    let left := endpoint.world.called platform (.readAttributes channel first count)
    (readAttributes platform channel first count).run endpoint =
      (.ok ((List.range count.toNat).map (left.memory.word buffer.region.base)),
        { endpoint with world := left }) := by
  intro left
  have hchecks : ¬(count = 0 ∨ 4 * count.toNat > buffer.size.toNat) := by
    simp only [hcount, false_or]
    omega
  have hwithin : 4 * ((0 : UInt32).toNat + count.toNat) ≤ buffer.size.toNat := by
    rwa [UInt32.toNat_zero, Nat.zero_add]
  rw [readAttributes, run_withBuffer hbuffer, if_neg hchecks, run_bind, run_command_of_eq hanswer]
  dsimp only
  rw [run_readWords_words buffer 0 hcount, if_pos hwithin, UInt32.toNat_zero,
    ← List.range_eq_range']

/-- A buffer without room for the values is not read, and the firmware is not called. -/
theorem run_readAttributes_of_lt (hbuffer : endpoint.buffer = some buffer) {count : UInt32}
    (hsize : buffer.size.toNat < 4 * count.toNat) (channel : ChannelId) (first : UInt32) :
    (readAttributes platform channel first count).run endpoint =
      (.error .invalidParameter, endpoint) := by
  rw [readAttributes, run_withBuffer hbuffer, if_pos (.inr hsize), run_bind, run_throw]

/-- Whatever the firmware does, values are as many as were asked for. -/
theorem length_of_readAttributes {channel : ChannelId} {first count : UInt32}
    {values : List UInt32}
    (hread : ((readAttributes platform channel first count).run endpoint).1 = .ok values) :
    values.length = count.toNat := by
  cases hbuffer : endpoint.buffer with
  | none =>
    rw [readAttributes, run_withBuffer_none hbuffer] at hread
    cases hread
  | some buffer =>
    by_cases hchecks : count = 0 ∨ 4 * count.toNat > buffer.size.toNat
    · rw [readAttributes, run_withBuffer hbuffer, if_pos hchecks, run_bind, run_throw] at hread
      cases hread
    obtain ⟨hcount, hsize⟩ := not_or.1 hchecks
    have hroom := Nat.le_of_not_lt hsize
    by_cases hanswer :
        (endpoint.world.answer platform (.readAttributes channel first count)).error = 0
    · rw [run_readAttributes_of_eq hbuffer hcount hroom hanswer] at hread
      cases hread
      rw [List.length_map, List.length_range]
    · rw [run_readAttributes_of_ne hbuffer hcount hroom hanswer] at hread
      cases hread

/-- Without a buffer, or with one that has no room for the values, nothing is read. -/
theorem run_readAttributes_of_forall_lt {count : UInt32}
    (hsize : ∀ buffer, endpoint.buffer = some buffer → buffer.size.toNat < 4 * count.toNat)
    (channel : ChannelId) (first : UInt32) :
    ∃ fault, (readAttributes platform channel first count).run endpoint =
      (.error fault, endpoint) := by
  cases hbuffer : endpoint.buffer with
  | none => exact ⟨_, run_withBuffer_none hbuffer _ _⟩
  | some buffer =>
    exact ⟨_, run_readAttributes_of_lt hbuffer (hsize buffer hbuffer) channel first⟩

section Steps

variable {channel : ChannelId} {middle : Endpoint σ} {info : ChannelInfo} {fault : Fault}

/-- A channel whose standard attributes have been read is open. -/
theorem run_openChannel_of_read {values : List UInt32}
    (hread : (readAttributes platform channel 0 Attribute.standardCount).run endpoint =
      (.ok values, middle))
    (hinfo : ChannelInfo.ofAttributes? values = some info) :
    (openChannel platform channel).run endpoint =
      (.ok info, { middle with world := middle.world.noted (.opened channel info) }) := by
  rw [openChannel, run_bind, hread]
  dsimp only
  rw [hinfo, run_bind, run_note]
  rfl

/-- A channel is not open if its standard attributes cannot be read. -/
theorem run_openChannel_of_error
    (hread : (readAttributes platform channel 0 Attribute.standardCount).run endpoint =
      (.error fault, middle)) :
    (openChannel platform channel).run endpoint = (.error fault, middle) := by
  rw [openChannel, run_bind, hread]

/-- A channel that is open is one for requests, or it is refused. -/
theorem run_openRequestChannel_of_open
    (hopen : (openChannel platform channel).run endpoint = (.ok info, middle)) :
    (openRequestChannel platform channel).run endpoint =
      if info.isRequestChannel then (.ok info, middle)
      else (.error .unsupported, { middle with
        world := middle.world.noted (.refused (.notARequestChannel channel info)) }) := by
  rw [openRequestChannel, run_bind, hopen]
  dsimp only
  by_cases hrequests : info.isRequestChannel = true
  · rw [if_pos hrequests, if_pos hrequests, run_pure]
  · rw [if_neg hrequests, if_neg hrequests, run_bind, run_refuse]
    rfl

theorem run_openRequestChannel_of_error
    (hopen : (openChannel platform channel).run endpoint = (.error fault, middle)) :
    (openRequestChannel platform channel).run endpoint = (.error fault, middle) := by
  rw [openRequestChannel, run_bind, hopen]

end Steps

/-- When the firmware has answered, the channel is what the memory describes. -/
theorem run_openChannel_of_eq (hbuffer : endpoint.buffer = some buffer) {channel : ChannelId}
    (hsize : 48 ≤ buffer.size.toNat)
    (hanswer : (endpoint.world.answer platform
      (.readAttributes channel 0 Attribute.standardCount)).error = 0) :
    let left := endpoint.world.called platform (.readAttributes channel 0 Attribute.standardCount)
    let info := ChannelInfo.inMemory left.memory buffer.region.base
    (openChannel platform channel).run endpoint =
      (.ok info, { endpoint with world := left.noted (.opened channel info) }) := by
  intro left info
  have hinfo : ChannelInfo.ofAttributes? ((List.range Attribute.standardCount.toNat).map
      (left.memory.word buffer.region.base)) = some info :=
    rfl
  have hroom : 4 * Attribute.standardCount.toNat ≤ buffer.size.toNat := hsize
  exact run_openChannel_of_read (run_readAttributes_of_eq hbuffer (by decide) hroom hanswer) hinfo

/-- Opening a channel for requests makes one call, and succeeds exactly when the firmware answers
and leaves the attributes of such a channel. -/
theorem run_openRequestChannel (platform : Platform σ) (hbuffer : endpoint.buffer = some buffer)
    (hsize : 48 ≤ buffer.size.toNat) (channel : ChannelId) :
    let call := Call.readAttributes channel 0 Attribute.standardCount
    let left := endpoint.world.called platform call
    ∃ outcome world, (openRequestChannel platform channel).run endpoint =
        (outcome, { endpoint with world }) ∧
      ((∃ info, outcome = .ok info) ↔ (endpoint.world.answer platform call).error = 0 ∧
        left.memory.word buffer.region.base 0 = 0 ∧
        left.memory.word buffer.region.base 5 &&& 8 = 8) ∧
      left.Matches world := by
  intro call left
  have hcalled := World.Matches.refl left
  have hrequests : (ChannelInfo.inMemory left.memory buffer.region.base).isRequestChannel = true ↔
      left.memory.word buffer.region.base 0 = 0 ∧
        left.memory.word buffer.region.base 5 &&& 8 = 8 :=
    ChannelInfo.isRequestChannel_iff rfl
  by_cases hanswer : (endpoint.world.answer platform call).error = 0
  · rw [run_openRequestChannel_of_open (run_openChannel_of_eq hbuffer hsize hanswer)]
    by_cases hinfo : (ChannelInfo.inMemory left.memory buffer.region.base).isRequestChannel = true
    · rw [if_pos hinfo]
      exact ⟨_, _, rfl, ⟨fun _ => ⟨hanswer, hrequests.1 hinfo⟩, fun _ => ⟨_, rfl⟩⟩,
        hcalled.noted _⟩
    · rw [if_neg hinfo]
      exact ⟨_, _, rfl, ⟨by rintro ⟨_, ⟨⟩⟩, fun hopens => absurd (hrequests.2 hopens.2) hinfo⟩,
        (hcalled.noted _).noted _⟩
  · have hroom : 4 * Attribute.standardCount.toNat ≤ buffer.size.toNat := hsize
    rw [run_openRequestChannel_of_error (run_openChannel_of_error
      (run_readAttributes_of_ne hbuffer (by decide) hroom hanswer))]
    exact ⟨_, _, rfl, ⟨by rintro ⟨_, ⟨⟩⟩, fun hopens => absurd hopens.1 hanswer⟩, hcalled⟩

/-- Without a buffer that has room for the standard attributes, opening a channel does nothing. -/
theorem run_openRequestChannel_of_forall_lt (platform : Platform σ)
    (hsize : ∀ buffer, endpoint.buffer = some buffer → buffer.size.toNat < 48)
    (channel : ChannelId) :
    ∃ fault, (openRequestChannel platform channel).run endpoint = (.error fault, endpoint) := by
  obtain ⟨fault, hread⟩ : ∃ fault,
      (readAttributes platform channel 0 Attribute.standardCount).run endpoint =
        (.error fault, endpoint) :=
    run_readAttributes_of_forall_lt hsize channel 0
  exact ⟨fault, run_openRequestChannel_of_error (run_openChannel_of_error hread)⟩

end Endpoint

end MessageProxy
