import MessageProxy.Delivery
import MessageProxy.Proofs.Remote.Exchange

/-!
Delivering a request to an agent that answers it, through a channel of a remote or in an envelope.
-/

namespace MessageProxy

namespace Envelope

theorem length_header (tag : Guid) (length : UInt64) :
    (header tag length).length = headerLength := by
  rw [header, List.length_append, Vector.length_toList]
  rfl

theorem length_wrap (tag : Guid) (request : Bytes) (capacity : Nat) :
    (wrap tag request capacity).length = headerLength + max request.length capacity := by
  have hzeros : (Bytes.zeroExtend (max request.length capacity) request).length =
      max request.length capacity := by
    simp only [Bytes.zeroExtend, List.length_append, List.length_take, List.length_replicate]
    omega
  rw [wrap, List.length_append, length_header, hzeros]

/-- A buffer, of which `length` bytes are in use, goes out with a request. -/
structure Carries (tag : Guid) (request buffer : Bytes) (length : UInt64) : Prop where
  start : header tag request.length.toUInt64 ++ request <+: buffer
  inUse : length.toNat = headerLength + request.length

/-- A buffer, of which `length` bytes are in use, comes back with a reply, whatever is in front. -/
structure Returns (reply buffer : Bytes) (length : UInt64) : Prop where
  start : ∃ front, front.length = headerLength ∧ front ++ reply <+: buffer
  inUse : length.toNat = headerLength + reply.length

theorem carries_wrap (tag : Guid) (request : Bytes) (capacity : Nat)
    (hlength : headerLength + request.length < UInt64.size) :
    Carries tag request (wrap tag request capacity)
      (headerLength + request.length).toUInt64 where
  start := by
    have htake : request.take (max request.length capacity) = request :=
      List.take_of_length_le (Nat.le_max_left ..)
    rw [wrap, Bytes.zeroExtend, htake]
    exact ⟨List.replicate _ 0, List.append_assoc ..⟩
  inUse := UInt64.toNat_ofNat_of_lt' hlength

/-- The request is read behind the header. -/
theorem Carries.read {tag : Guid} {request buffer : Bytes} {length : UInt64}
    (hcarries : Carries tag request buffer length) :
    (buffer.take length.toNat).drop headerLength = request := by
  obtain ⟨hstart, hinUse⟩ := hcarries
  have hwhole : (header tag request.length.toUInt64 ++ request).length = length.toNat := by
    rw [List.length_append, length_header, hinUse]
  rw [← hwhole, ← List.prefix_iff_eq_take.1 hstart]
  exact List.drop_left' (length_header ..)

theorem unwrap_of_returns {reply buffer : Bytes} {length : UInt64}
    (hreturns : Returns reply buffer length) : unwrap buffer length = .ok reply := by
  obtain ⟨⟨front, hfront, hprefix⟩, hinUse⟩ := hreturns
  have hwhole : (front ++ reply).length = length.toNat := by
    rw [List.length_append, hfront, hinUse]
  have htake : buffer.take length.toNat = front ++ reply := by
    rw [← hwhole]
    exact (List.prefix_iff_eq_take.1 hprefix).symm
  have hbounds : ¬(length.toNat < headerLength ∨ length.toNat > buffer.length) := by
    have hlength := hprefix.length_le
    omega
  rw [unwrap, if_neg hbounds, htake, List.drop_left' hfront]

end Envelope

namespace Delivery

open Envelope

variable {σ : Type}

theorem eq_of_channel? {delivery : Option (Delivery σ)} {channel : ChannelId}
    (hchannel : delivery.bind channel? = some channel) :
    delivery = some (.passThrough channel) := by
  match delivery with
  | some (.passThrough _) =>
    cases hchannel
    rfl

/-- An exchange in an envelope whose buffer comes back with a reply. -/
theorem run_exchangeEnveloped {communicate : Communicate σ} {tag : Guid} {request reply : Bytes}
    {capacity : Nat} {endpoint : Endpoint σ} {buffer : Bytes} {inUse : UInt64} {world : World σ}
    (hcommunicate : World.communicate communicate (wrap tag request capacity)
      (headerLength + request.length).toUInt64 endpoint.world = (.ok (buffer, inUse), world))
    (hreturns : Returns reply buffer inUse) (hcapacity : reply.length ≤ capacity) :
    (exchangeEnveloped communicate tag request capacity).run endpoint =
      (.ok reply, { endpoint with world }) := by
  have haccept : (accept (unwrap buffer inUse) : Action σ Bytes) = pure reply := by
    rw [unwrap_of_returns hreturns]
    rfl
  have hroom : ¬reply.length > capacity := Nat.not_lt_of_ge hcapacity
  unfold exchangeEnveloped
  simp only [run_bind, Endpoint.run_lift_world, hcommunicate, haccept, run_pure, if_neg hroom]

/-- Given an envelope with the request, the capability puts one of the `replies` where the request
was, if there is room for it. -/
def Conveys (communicate : Communicate σ) (tag : Guid) (request : Bytes) (replies : Bytes → Prop) :
    Prop :=
  ∀ buffer length state, Carries tag request buffer length → buffer.length < UInt64.size →
    ∃ reply, replies reply ∧ (headerLength + reply.length ≤ buffer.length →
      ∃ written inUse after, communicate buffer length state = (.ok (written, inUse), after) ∧
        Returns reply (Bytes.overwrite (written.take buffer.length) buffer) inUse)

theorem Conveys.mono {communicate : Communicate σ} {tag : Guid} {request : Bytes}
    {replies others : Bytes → Prop} (hconveys : Conveys communicate tag request replies)
    (hreplies : ∀ reply, replies reply → others reply) :
    Conveys communicate tag request others := by
  intro buffer length state hcarries hlength
  obtain ⟨reply, hreply, hputs⟩ := hconveys buffer length state hcarries hlength
  exact ⟨reply, hreplies reply hreply, hputs⟩

/-- The capability that puts what a function makes of the request where the request was. -/
def putting (answer : Bytes → Bytes) : Communicate σ := fun buffer length state =>
  let reply := answer ((buffer.take length.toNat).drop headerLength)
  (.ok (buffer.take headerLength ++ reply, (headerLength + reply.length).toUInt64), state)

theorem conveys_putting (answer : Bytes → Bytes) (tag : Guid) (request : Bytes) :
    Conveys (putting answer : Communicate σ) tag request (· = answer request) := by
  intro buffer length state hcarries hlength
  refine ⟨answer request, rfl, fun hroom => ⟨_, _, state, rfl, ?_⟩⟩
  rw [hcarries.read]
  have hfront : (buffer.take headerLength).length = headerLength :=
    List.length_take_of_le (by omega)
  have hword : headerLength + (answer request).length < UInt64.size :=
    Nat.lt_of_le_of_lt hroom hlength
  refine ⟨⟨buffer.take headerLength, hfront, ?_⟩, UInt64.toNat_ofNat_of_lt' hword⟩
  have hwritten : (buffer.take headerLength ++ answer request).take buffer.length =
      buffer.take headerLength ++ answer request :=
    List.take_of_length_le (by rw [List.length_append, hfront]; exact hroom)
  rw [hwritten]
  exact List.prefix_append ..

theorem exchange_enveloped {communicate : Communicate σ} {tag : Guid} {request : Bytes}
    {replies : Bytes → Prop} (hconveys : Conveys communicate tag request replies) {capacity : Nat}
    (hrequest : headerLength + max request.length capacity < UInt64.size)
    (hreplies : ∀ reply, replies reply → reply.length ≤ capacity) (platform : Platform σ)
    (service : UInt8) (endpoint : Endpoint σ) :
    ∃ reply next, replies reply ∧
      ((enveloped communicate tag).exchange platform service request capacity).run endpoint =
        (.ok reply, next) := by
  have hcarries := carries_wrap tag request capacity (by omega)
  have hlength := length_wrap tag request capacity
  obtain ⟨reply, hreply, hputs⟩ := hconveys _ _ endpoint.world.state hcarries (by omega)
  have hcapacity := hreplies reply hreply
  obtain ⟨written, inUse, after, hcommunicate, hreturns⟩ := hputs (by omega)
  have hgiven : (World.communicate communicate (wrap tag request capacity)
      (headerLength + request.length).toUInt64 endpoint.world).1 =
        .ok (Bytes.overwrite (written.take (wrap tag request capacity).length)
          (wrap tag request capacity), inUse) := by
    unfold World.communicate
    rw [hcommunicate]
    rfl
  exact ⟨reply, _, hreply, run_exchangeEnveloped (Prod.ext hgiven rfl) hreturns hcapacity⟩

theorem exchange_putting (answer : Bytes → Bytes) (tag : Guid) {request : Bytes} {capacity : Nat}
    (hrequest : headerLength + max request.length capacity < UInt64.size)
    (hanswer : (answer request).length ≤ capacity) (platform : Platform σ) (service : UInt8)
    (endpoint : Endpoint σ) :
    (((enveloped (putting answer) tag).exchange platform service request capacity).run endpoint).1 =
      .ok (answer request) := by
  obtain ⟨_, next, rfl, hexchange⟩ := exchange_enveloped (conveys_putting answer tag request)
    hrequest (fun _ hreply => hreply ▸ hanswer) platform service endpoint
  rw [hexchange]

end Delivery

namespace Remote

variable {κ α : Type} {setup : Setup κ} {endpoint : Endpoint (State κ × α)} {buffer : SharedBuffer}

/-- Whatever it remembers, the handler answers the message with one of the `replies`. -/
def Gives (handler : Handler κ) (message : UInt32) (request : Bytes) (replies : Bytes → Prop) :
    Prop :=
  ∀ agents, ∃ reply after, handler message request agents = (.ok reply, after) ∧ replies reply

theorem Gives.mono {handler : Handler κ} {message : UInt32} {request : Bytes}
    {replies others : Bytes → Prop} (hgives : Gives handler message request replies)
    (hreplies : ∀ reply, replies reply → others reply) : Gives handler message request others := by
  intro agents
  obtain ⟨reply, after, hanswer, hreply⟩ := hgives agents
  exact ⟨reply, after, hanswer, hreplies reply hreply⟩

/-- The handler that answers with what a function makes of the message, and remembers nothing. -/
def answering (answer : Bytes → Bytes) : Handler κ :=
  fun _ request agents => (.ok (answer request), agents)

theorem gives_answering (answer : Bytes → Bytes) (message : UInt32) (request : Bytes) :
    Gives (answering answer : Handler κ) message request (· = answer request) :=
  fun agents => ⟨answer request, agents, rfl, rfl⟩

theorem exchange_passThrough (allocate : UInt64 → α → Option Region × α)
    (release : Region → α → α) (hconnected : Connected setup buffer endpoint)
    (hreported : setup.reportedLength = none) {channel : ChannelId} {entry : Channel κ}
    {handler : Handler κ} (hchannel : setup.channel? channel.raw = some entry)
    (hhandler : entry.handler = some handler) {service : UInt8} {request : Bytes}
    {replies : Bytes → Prop} (hgives : Gives handler service.toUInt32 request replies)
    (hrequest : request.length < setup.size.toNat) {capacity : Nat}
    (hreplies : ∀ reply, replies reply →
      reply.length ≤ setup.size.toNat ∧ reply.length ≤ capacity) :
    ∃ reply next, replies reply ∧
      ((Delivery.passThrough channel).exchange (platform setup allocate release) service request
        capacity).run endpoint = (.ok reply, next) ∧
      Connected setup buffer next := by
  obtain ⟨reply, after, hanswer, hreply⟩ := hgives endpoint.world.state.1.agents
  obtain ⟨hsize, hcapacity⟩ := hreplies reply hreply
  obtain ⟨next, hsend, hheard⟩ := send_answered allocate release hconnected hreported hrequest
    ((reply_of_handler hchannel hhandler _ _ _).trans hanswer) hsize hcapacity
  exact ⟨reply, next, hreply, hsend, hheard.connected⟩

end Remote

end MessageProxy
