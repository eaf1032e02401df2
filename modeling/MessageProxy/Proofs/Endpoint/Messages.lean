import MessageProxy.Endpoint.Attributes
import MessageProxy.Endpoint.Messages
import MessageProxy.Proofs.Endpoint.Effect

/-!
What sending a message and writing attributes do, as equations about their runs.
-/

namespace MessageProxy.Endpoint

variable {σ : Type} {platform : Platform σ} {endpoint : Endpoint σ} {buffer : SharedBuffer}
  {request : Bytes}

theorem run_stage_of_le (hrequest : buffer.size.toNat ≤ request.length) :
    (stage buffer request : Action σ Unit).run endpoint = (.error .invalidParameter, endpoint) := by
  unfold stage
  rw [if_pos hrequest]
  rfl

theorem run_stage_of_lt (hrequest : request.length < buffer.size.toNat)
    (hroom : request.length ≤ buffer.region.length.toNat) :
    (stage buffer request : Action σ Unit).run endpoint =
      (.ok (), { endpoint with world := endpoint.world.stored buffer.region request }) := by
  have hsmall : ¬request.length ≥ buffer.size.toNat := by omega
  have hcopy : ¬request.length > buffer.region.length.toNat := by omega
  unfold stage
  rw [if_neg hsmall]
  exact (run_write buffer request endpoint).trans (if_neg hcopy)

/-- What the region has no room for is not staged, whatever the size that the firmware asked for. -/
theorem run_stage_of_gt (hroom : request.length > buffer.region.length.toNat) :
    (stage buffer request : Action σ Unit).run endpoint = (.error .invalidParameter, endpoint) := by
  unfold stage
  split
  · rfl
  · exact (run_write buffer request endpoint).trans (if_pos hroom)

/-- A request that is not smaller than the shared memory fails, and changes nothing. -/
theorem run_send_of_le (hbuffer : endpoint.buffer = some buffer)
    (hrequest : buffer.size.toNat ≤ request.length) (channel : ChannelId) (message : UInt32)
    (capacity : Nat) :
    (send platform channel message request capacity).run endpoint =
      (.error .invalidParameter, endpoint) := by
  rw [send, run_withBuffer hbuffer, run_bind, run_stage_of_le hrequest]

theorem run_send_of_gt (hbuffer : endpoint.buffer = some buffer)
    (hroom : request.length > buffer.region.length.toNat) (channel : ChannelId) (message : UInt32)
    (capacity : Nat) :
    (send platform channel message request capacity).run endpoint =
      (.error .invalidParameter, endpoint) := by
  rw [send, run_withBuffer hbuffer, run_bind, run_stage_of_gt hroom]

theorem run_post_of_le (hbuffer : endpoint.buffer = some buffer)
    (hrequest : buffer.size.toNat ≤ request.length) (channel : ChannelId) (message : UInt32) :
    (post platform channel message request).run endpoint =
      (.error .invalidParameter, endpoint) := by
  rw [post, run_withBuffer hbuffer, run_bind, run_stage_of_le hrequest]

/-- A smaller request is written to the buffer before the firmware is called; what it answers
decides what is read from there. -/
theorem run_send_of_lt (hbuffer : endpoint.buffer = some buffer)
    (hrequest : request.length < buffer.size.toNat)
    (hroom : request.length ≤ buffer.region.length.toNat) (channel : ChannelId) (message : UInt32)
    (capacity : Nat) :
    (send platform channel message request capacity).run endpoint =
      let staged := endpoint.world.stored buffer.region request
      let called := staged.called platform (.send channel message request.length)
      match (staged.answer platform (.send channel message request.length)).toExcept with
      | .error status => (.error (.ofStatus status),
          { endpoint with world := called.noted (.sendFailed message channel status) })
      | .ok length =>
        if length = 0 then (.ok [], { endpoint with world := called })
        else if length > buffer.size then
          (.error (Refusal.responseOverflow length).fault,
            { endpoint with world := called.noted (.refused (.responseOverflow length)) })
        else if length.toNat > capacity then
          (.error .capacityExceeded, { endpoint with world := called })
        else if length.toNat > buffer.region.length.toNat then
          (.error .deviceError, { endpoint with world := called })
        else (.ok (called.memory.fetch buffer.region.base length.toNat),
          { endpoint with world := called.noted (.answered message channel length) }) := by
  rw [send, run_withBuffer hbuffer, run_bind, run_stage_of_lt hrequest hroom]
  simp only [run_bind, run_lift_world, run_request]
  cases ((endpoint.world.stored buffer.region request).answer platform
    (.send channel message request.length)).toExcept with
  | error status => rfl
  | ok length =>
    by_cases hzero : length = 0
    · simp only [if_pos hzero, run_pure]
    · by_cases hsize : length > buffer.size
      · simp only [if_neg hzero, if_pos hsize, run_bind, run_refuse]
      · by_cases hcapacity : length.toNat > capacity
        · simp only [if_neg hzero, if_neg hsize, if_pos hcapacity, run_bind, run_throw]
        · by_cases hregion : length.toNat > buffer.region.length.toNat
          · simp only [if_neg hzero, if_neg hsize, if_neg hcapacity, if_pos hregion, run_bind,
              run_read]
          · simp only [if_neg hzero, if_neg hsize, if_neg hcapacity, if_neg hregion, run_bind,
              run_read, run_note, run_pure]

/-- A message that is sent leaves the firmware as its one call left it. -/
theorem state_send_of_lt (hbuffer : endpoint.buffer = some buffer)
    (hrequest : request.length < buffer.size.toNat)
    (hroom : request.length ≤ buffer.region.length.toNat) (channel : ChannelId) (message : UInt32)
    (capacity : Nat) :
    ((send platform channel message request capacity).run endpoint).2.world.state =
      ((endpoint.world.stored buffer.region request).called platform
        (.send channel message request.length)).state := by
  rw [run_send_of_lt hbuffer hrequest hroom]
  dsimp only
  split
  · rfl
  · repeat' split
    all_goals rfl

theorem run_post_of_lt (hbuffer : endpoint.buffer = some buffer)
    (hrequest : request.length < buffer.size.toNat)
    (hroom : request.length ≤ buffer.region.length.toNat) (channel : ChannelId)
    (message : UInt32) :
    (post platform channel message request).run endpoint =
      let staged := endpoint.world.stored buffer.region request
      let call := Call.post channel message request.length
      (((staged.answer platform call).toExcept.map fun _ => ()).mapError .ofStatus,
        { endpoint with world := staged.called platform call }) := by
  rw [post, run_withBuffer hbuffer, run_bind, run_stage_of_lt hrequest hroom]
  simp only [run_lift_supervisor, run_command]

/-- No value at all, and values that the shared memory has no room for, fail and change nothing. -/
theorem run_writeAttributes_of_lt (hbuffer : endpoint.buffer = some buffer) {values : List UInt32}
    (hvalues : values = [] ∨ buffer.size.toNat < 4 * values.length) (channel : ChannelId)
    (first : UInt32) :
    (writeAttributes platform channel first values).run endpoint =
      (.error .invalidParameter, endpoint) := by
  rw [writeAttributes, run_withBuffer hbuffer, if_pos (hvalues.imp_left List.isEmpty_iff.2)]
  rfl

/-- Other values are written to the buffer before the firmware is called. -/
theorem run_writeAttributes_of_le (hbuffer : endpoint.buffer = some buffer) {values : List UInt32}
    (hvalues : values ≠ []) (hsize : 4 * values.length ≤ buffer.size.toNat)
    (hroom : 4 * values.length ≤ buffer.region.length.toNat) (channel : ChannelId)
    (first : UInt32) :
    (writeAttributes platform channel first values).run endpoint =
      (liftM (Supervisor.command platform (.writeAttributes channel first values.length)) :
        Action σ Unit).run
          { endpoint with
            world := endpoint.world.stored buffer.region (Bytes.ofWords values) } := by
  have hchecks : ¬(values.isEmpty = true ∨ 4 * values.length > buffer.size.toNat) := by
    rintro (hempty | hlarge)
    · exact hvalues (List.isEmpty_iff.1 hempty)
    · omega
  have hcopy : ¬(Bytes.ofWords values).length > buffer.region.length.toNat := by
    rw [Bytes.length_ofWords]
    omega
  rw [writeAttributes, run_withBuffer hbuffer, if_neg hchecks, run_bind, run_write, if_neg hcopy]

end MessageProxy.Endpoint
