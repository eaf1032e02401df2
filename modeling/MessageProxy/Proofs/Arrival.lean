import MessageProxy.Proofs.Envelope

/-!
Replies of any length that arrive for a request.

A peer may answer with more bytes than the caller has room for. What the caller gets depends on the
way: a channel tells the length of a reply that the shared memory holds whole, while an envelope has
no more room than the caller.
-/

namespace MessageProxy

variable {σ : Type}

namespace Envelope

/-- A buffer comes back with as much of a reply as fits, whatever is in front, and is said to hold
all of it. -/
structure Announces (reply buffer : Bytes) (length : UInt64) : Prop where
  start : ∃ front, front.length = headerLength ∧ (front ++ reply).take buffer.length <+: buffer
  inUse : length.toNat = headerLength + reply.length

theorem Announces.returns {reply buffer : Bytes} {length : UInt64}
    (hannounces : Announces reply buffer length)
    (hroom : headerLength + reply.length ≤ buffer.length) : Returns reply buffer length := by
  obtain ⟨⟨front, hfront, hprefix⟩, hinUse⟩ := hannounces
  have hwhole : (front ++ reply).take buffer.length = front ++ reply := by
    rw [List.take_of_length_le]
    rw [List.length_append, hfront]
    exact hroom
  rw [hwhole] at hprefix
  exact ⟨⟨front, hfront, hprefix⟩, hinUse⟩

theorem announces_of_unwrap {reply buffer : Bytes} {length : UInt64}
    (hunwrap : unwrap buffer length = .ok reply) : Announces reply buffer length := by
  unfold unwrap at hunwrap
  split at hunwrap
  · cases hunwrap
  · rename_i hbounds
    obtain rfl := Except.ok.inj hunwrap
    refine ⟨⟨(buffer.take length.toNat).take headerLength, ?_, ?_⟩, ?_⟩
    · rw [List.length_take, List.length_take]
      omega
    · rw [List.take_append_drop]
      exact (List.take_prefix ..).trans (List.take_prefix ..)
    · rw [List.length_drop, List.length_take]
      omega

end Envelope

/-- The buffer that comes back is as long as the one that was given away. -/
theorem World.length_of_communicate {communicate : Communicate σ} {buffer given : Bytes}
    {length inUse : UInt64} {before after : World σ}
    (hcommunicate : World.communicate communicate buffer length before =
      (.ok (given, inUse), after)) : given.length = buffer.length := by
  have hgiven := congrArg Prod.fst hcommunicate
  unfold World.communicate at hgiven
  dsimp only at hgiven
  cases houtcome : (communicate buffer length before.state).1 with
  | error fault =>
    rw [houtcome] at hgiven
    cases hgiven
  | ok written =>
    rw [houtcome] at hgiven
    cases hgiven
    exact Bytes.length_overwrite_take ..

namespace Delivery

/-- A reply to a request arrives: the firmware answers the message with the reply's length and
leaves the reply in the shared memory, which has room for the request and for the reply; or the
envelope comes back with the reply. -/
inductive Arrives (platform : Platform σ) (service : UInt8) (request : Bytes) (capacity : Nat)
    (endpoint : Endpoint σ) (reply : Bytes) : Delivery σ → Prop where
  | passThrough {channel : ChannelId} {buffer : SharedBuffer}
      (hbuffer : endpoint.buffer = some buffer) (hrequest : request.length < buffer.size.toNat)
      (hreply : reply.length ≤ buffer.size.toNat)
      (hregion : max request.length reply.length ≤ buffer.region.length.toNat)
      (hanswer : (endpoint.world.stored buffer.region request).answer platform
        (.send channel service.toUInt32 request.length) = .success reply.length.toUInt64)
      (hleft : ((endpoint.world.stored buffer.region request).called platform
        (.send channel service.toUInt32 request.length)).memory.fetch buffer.region.base
          reply.length = reply) :
      Arrives platform service request capacity endpoint reply (.passThrough channel)
  | enveloped {communicate : Communicate σ} {tag : Guid} {buffer : Bytes} {inUse : UInt64}
      {world : World σ}
      (hcommunicate : World.communicate communicate (Envelope.wrap tag request capacity)
        (Envelope.headerLength + request.length).toUInt64 endpoint.world =
          (.ok (buffer, inUse), world))
      (hannounces : Envelope.Announces reply buffer inUse) :
      Arrives platform service request capacity endpoint reply (.enveloped communicate tag)

/-- How a reply fails that is longer than the caller has room for: a channel knows that the caller
is at fault, and an envelope that says it holds more than it can is broken. -/
def overflow : Delivery σ → Fault
  | passThrough _ => .capacityExceeded
  | enveloped .. => .deviceError

variable {platform : Platform σ} {service : UInt8} {request reply : Bytes} {capacity : Nat}
  {endpoint : Endpoint σ}

theorem send_of_arrives {channel : ChannelId}
    (harrives : Arrives platform service request capacity endpoint reply (.passThrough channel)) :
    ((Endpoint.send platform channel service.toUInt32 request capacity).run endpoint).1 =
      if reply.length > capacity then .error .capacityExceeded else .ok reply := by
  cases harrives with
  | @passThrough _ buffer hbuffer hrequest hreply hregion hanswer hleft =>
    have hlength : reply.length.toUInt64.toNat = reply.length := Remote.toNat_toUInt64_of_le hreply
    have hsmall : ¬reply.length.toUInt64 > buffer.size := Remote.not_gt_of_le hreply
    have htold : (Return.success reply.length.toUInt64).toExcept = .ok reply.length.toUInt64 := rfl
    rw [Endpoint.run_send_of_lt hbuffer hrequest (Nat.le_trans (Nat.le_max_left ..) hregion)]
    simp only [hanswer, htold]
    by_cases hempty : reply = []
    · subst hempty
      rfl
    have hzero : ¬reply.length.toUInt64 = 0 := by
      intro hzero
      rw [hzero] at hlength
      exact hempty (List.length_eq_zero_iff.1 hlength.symm)
    simp only [if_neg hzero, if_neg hsmall, hlength]
    by_cases hcapacity : reply.length > capacity
    · simp only [if_pos hcapacity]
    · have hroom : ¬reply.length > buffer.region.length.toNat :=
        Nat.not_lt_of_ge (Nat.le_trans (Nat.le_max_right ..) hregion)
      simp only [if_neg hcapacity, if_neg hroom, hleft]

theorem exchangeEnveloped_of_arrives {communicate : Communicate σ} {tag : Guid}
    (harrives : Arrives platform service request capacity endpoint reply
      (.enveloped communicate tag)) (hrequest : request.length ≤ capacity) :
    ((exchangeEnveloped communicate tag request capacity).run endpoint).1 =
      if reply.length > capacity then .error .deviceError else .ok reply := by
  cases harrives with
  | @enveloped _ _ buffer inUse world hcommunicate hannounces =>
    have hlength : buffer.length = Envelope.headerLength + capacity := by
      rw [World.length_of_communicate hcommunicate, Envelope.length_wrap, Nat.max_eq_right hrequest]
    obtain ⟨_, hrun, -⟩ := run_exchangeEnveloped_opened communicate tag request capacity endpoint
    rw [hrun, hcommunicate]
    change Envelope.opened capacity buffer inUse = _
    by_cases hcapacity : reply.length > capacity
    · have hbounds : inUse.toNat < Envelope.headerLength ∨ inUse.toNat > buffer.length := by
        rw [hannounces.inUse]
        omega
      rw [Envelope.opened, if_pos hbounds, if_pos hcapacity]
    · have hreturns := hannounces.returns (by omega)
      rw [Envelope.opened_of_unwrap (Envelope.unwrap_of_returns hreturns), if_neg hcapacity,
        if_neg hcapacity]

/-- What a caller with room for its own request gets of a reply that arrives. -/
theorem exchange_of_arrives {delivery : Delivery σ}
    (harrives : Arrives platform service request capacity endpoint reply delivery)
    (hrequest : request.length ≤ capacity) :
    ((delivery.exchange platform service request capacity).run endpoint).1 =
      if reply.length > capacity then .error delivery.overflow else .ok reply := by
  cases delivery with
  | passThrough channel => exact send_of_arrives harrives
  | enveloped communicate tag => exact exchangeEnveloped_of_arrives harrives hrequest

/-- The bytes of which the firmware tells the number arrive. -/
theorem arrives_of_success {channel : ChannelId} {buffer : SharedBuffer}
    (hbuffer : endpoint.buffer = some buffer) (hrequest : request.length < buffer.size.toNat)
    (hstaged : request.length ≤ buffer.region.length.toNat) {length : UInt64}
    (hsize : length.toNat ≤ buffer.size.toNat) (hregion : length.toNat ≤ buffer.region.length.toNat)
    (hanswer : (endpoint.world.stored buffer.region request).answer platform
      (.send channel service.toUInt32 request.length) = .success length) :
    Arrives platform service request capacity endpoint
      (((endpoint.world.stored buffer.region request).called platform
        (.send channel service.toUInt32 request.length)).memory.fetch buffer.region.base
          length.toNat) (.passThrough channel) := by
  refine .passThrough hbuffer hrequest ?_ ?_ ?_ ?_
  · rw [Memory.length_fetch]
    exact hsize
  · rw [Memory.length_fetch]
    exact Nat.max_le.2 ⟨hstaged, hregion⟩
  · rw [Memory.length_fetch, hanswer]
    exact congrArg Return.success UInt64.ofNat_toNat.symm
  · rw [Memory.length_fetch]

/-- A response that the caller gets has arrived. -/
theorem arrives_of_send {channel : ChannelId}
    (hsend : ((Endpoint.send platform channel service.toUInt32 request capacity).run endpoint).1 =
      .ok reply) :
    Arrives platform service request capacity endpoint reply (.passThrough channel) := by
  cases hbuffer : endpoint.buffer with
  | none =>
    rw [Endpoint.send, Endpoint.run_withBuffer_none hbuffer] at hsend
    cases hsend
  | some buffer =>
    by_cases hrequest : buffer.size.toNat ≤ request.length
    · rw [Endpoint.run_send_of_le hbuffer hrequest] at hsend
      cases hsend
    by_cases hstaged : request.length > buffer.region.length.toNat
    · rw [Endpoint.run_send_of_gt hbuffer hstaged] at hsend
      cases hsend
    have hsmall : request.length < buffer.size.toNat := Nat.lt_of_not_le hrequest
    have hroom : request.length ≤ buffer.region.length.toNat := Nat.le_of_not_gt hstaged
    rw [Endpoint.run_send_of_lt hbuffer hsmall hroom] at hsend
    cases htold : ((endpoint.world.stored buffer.region request).answer platform
      (.send channel service.toUInt32 request.length)).toExcept with
    | error status =>
      simp only [htold] at hsend
      cases hsend
    | ok length =>
      have hanswer := Return.eq_success_of_toExcept htold
      simp only [htold] at hsend
      -- the checks of the answer, of which the reply has passed every one
      by_cases hzero : length = 0
      · simp only [if_pos hzero] at hsend
        cases hsend
        subst hzero
        exact arrives_of_success hbuffer hsmall hroom (Nat.zero_le _) (Nat.zero_le _) hanswer
      by_cases hlarge : length > buffer.size
      · simp only [if_neg hzero, if_pos hlarge] at hsend
        cases hsend
      by_cases hcapacity : length.toNat > capacity
      · simp only [if_neg hzero, if_neg hlarge, if_pos hcapacity] at hsend
        cases hsend
      by_cases hregion : length.toNat > buffer.region.length.toNat
      · simp only [if_neg hzero, if_neg hlarge, if_neg hcapacity, if_pos hregion] at hsend
        cases hsend
      simp only [if_neg hzero, if_neg hlarge, if_neg hcapacity, if_neg hregion] at hsend
      obtain rfl := Except.ok.inj hsend
      rw [gt_iff_lt, UInt64.lt_iff_toNat_lt] at hlarge
      exact arrives_of_success hbuffer hsmall hroom (Nat.le_of_not_lt hlarge)
        (Nat.le_of_not_gt hregion) hanswer

/-- A reply that is taken out of an envelope has arrived in it. -/
theorem arrives_of_exchangeEnveloped {communicate : Communicate σ} {tag : Guid}
    (hexchange : ((exchangeEnveloped communicate tag request capacity).run endpoint).1 =
      .ok reply) :
    Arrives platform service request capacity endpoint reply (.enveloped communicate tag) := by
  obtain ⟨_, hrun, -⟩ := run_exchangeEnveloped_opened communicate tag request capacity endpoint
  rw [hrun] at hexchange
  rcases hcommunicate : World.communicate communicate (Envelope.wrap tag request capacity)
    (Envelope.headerLength + request.length).toUInt64 endpoint.world with
      ⟨fault | ⟨buffer, inUse⟩, world⟩
  · rw [hcommunicate] at hexchange
    cases hexchange
  · rw [hcommunicate] at hexchange
    cases hunwrap : Envelope.unwrap buffer inUse with
    | error reason =>
      cases (Envelope.opened_of_unwrap_error hunwrap capacity).symm.trans hexchange
    | ok inside =>
      have hopened := (Envelope.opened_of_unwrap hunwrap capacity).symm.trans hexchange
      by_cases hcapacity : inside.length > capacity
      · rw [if_pos hcapacity] at hopened
        cases hopened
      · rw [if_neg hcapacity] at hopened
        obtain rfl := Except.ok.inj hopened
        exact .enveloped hcommunicate (Envelope.announces_of_unwrap hunwrap)

/-- What a caller gets are the replies that arrive and for which it has room. -/
theorem exchange_eq_ok_iff {delivery : Delivery σ} (hrequest : request.length ≤ capacity) :
    ((delivery.exchange platform service request capacity).run endpoint).1 = .ok reply ↔
      Arrives platform service request capacity endpoint reply delivery ∧
        reply.length ≤ capacity := by
  constructor
  · intro hexchange
    have harrives : Arrives platform service request capacity endpoint reply delivery := by
      cases delivery with
      | passThrough channel => exact arrives_of_send hexchange
      | enveloped communicate tag => exact arrives_of_exchangeEnveloped hexchange
    refine ⟨harrives, Nat.le_of_not_gt fun hlong => ?_⟩
    rw [exchange_of_arrives harrives hrequest, if_pos hlong] at hexchange
    cases hexchange
  · rintro ⟨harrives, hcapacity⟩
    rw [exchange_of_arrives harrives hrequest, if_neg (Nat.not_lt_of_ge hcapacity)]

/-- Whatever its length, what a function makes of the request arrives in an envelope. -/
theorem arrives_putting (answer : Bytes → Bytes) (tag : Guid)
    (hrequest : Envelope.headerLength + request.length < UInt64.size)
    (hanswer : Envelope.headerLength + (answer request).length < UInt64.size) :
    Arrives platform service request capacity endpoint (answer request)
      (.enveloped (putting answer) tag) := by
  let given := Envelope.wrap tag request capacity
  let returned := given.take Envelope.headerLength ++ answer request
  have hread := (Envelope.carries_wrap tag request capacity hrequest).read
  have hgiven : (World.communicate (putting answer) given
      (Envelope.headerLength + request.length).toUInt64 endpoint.world).1 =
        .ok (Bytes.overwrite (returned.take given.length) given,
          (Envelope.headerLength + (answer request).length).toUInt64) := by
    unfold World.communicate putting
    dsimp only
    rw [hread]
    rfl
  have hfront : (given.take Envelope.headerLength).length = Envelope.headerLength := by
    rw [List.length_take, Envelope.length_wrap]
    omega
  refine .enveloped (Prod.ext hgiven rfl) ⟨⟨_, hfront, ?_⟩, UInt64.toNat_ofNat_of_lt' hanswer⟩
  rw [World.length_of_communicate (Prod.ext hgiven rfl)]
  exact List.prefix_append ..

end Delivery

namespace Remote

variable {κ α : Type} {setup : Setup κ} {endpoint : Endpoint (State κ × α)} {buffer : SharedBuffer}

/-- What the handler of a channel answers arrives if the shared memory has room for it. -/
theorem arrives_of_handler (allocate : UInt64 → α → Option Region × α)
    (release : Region → α → α) (hconnected : Connected setup buffer endpoint)
    (hreported : setup.reportedLength = none) {channel : ChannelId} {entry : Channel κ}
    {handler : Handler κ} (hchannel : setup.channel? channel.raw = some entry)
    (hhandler : entry.handler = some handler) {service : UInt8} {request reply : Bytes}
    (hrequest : request.length < setup.size.toNat) (hreply : reply.length ≤ setup.size.toNat)
    (hanswer : (handler service.toUInt32 request endpoint.world.state.1.agents).1 = .ok reply)
    (capacity : Nat) :
    (Delivery.passThrough channel).Arrives (platform setup allocate release) service request
      capacity endpoint reply := by
  have hsize := hconnected.fits.size
  have hreplied : (Remote.reply setup channel.raw service.toUInt32 request
      endpoint.world.state.1.agents).1 = .ok reply := by
    rw [reply_of_handler hchannel hhandler]
    exact hanswer
  have hreact := run_react_staged hconnected hrequest channel service.toUInt32
  simp only [hreplied, if_neg (Nat.not_lt_of_ge hreply), hreported] at hreact
  refine .passThrough hconnected.holds (hsize ▸ hrequest) (hsize ▸ hreply) ?_ ?_ ?_
  · exact Nat.max_le.2 ⟨hconnected.fits.le_length (Nat.le_of_lt hrequest),
      hconnected.fits.le_length hreply⟩
  · rw [answer_platform, hreact]
    rfl
  · rw [memory_called, hreact]
    exact Memory.fetch_store _ _ _

end Remote

end MessageProxy
