import MessageProxy.Proofs.Endpoint.Progress
import MessageProxy.Proofs.Endpoint.Untrusted
import MessageProxy.Proofs.Envelope
import MessageProxy.Proofs.Ras.Kept
import MessageProxy.Proofs.Ras.Session

/-!
A session whose requests go in envelopes: what it makes of what comes back, and that it leaves the
message proxy alone.
-/

namespace MessageProxy

variable {σ : Type} {platform : Platform σ}

/-- No call has been made since the start, and the buffer of the endpoint and the memory are as they
were. -/
structure Endpoint.Spares (start endpoint : Endpoint σ) : Prop where
  buffer_eq : endpoint.buffer = start.buffer
  memory_eq : endpoint.world.memory = start.world.memory
  calls_eq : endpoint.world.calls = start.world.calls

namespace Endpoint.Spares

variable {start : Endpoint σ}

theorem refl (endpoint : Endpoint σ) : Spares endpoint endpoint :=
  ⟨rfl, rfl, rfl⟩

theorem trans {middle last : Endpoint σ} (hfirst : Spares start middle)
    (hsecond : Spares middle last) : Spares start last :=
  ⟨hsecond.buffer_eq.trans hfirst.buffer_eq, hsecond.memory_eq.trans hfirst.memory_eq,
    hsecond.calls_eq.trans hfirst.calls_eq⟩

theorem keeps_noted (endpoint : Endpoint σ) (notice : Notice) (hspares : Spares start endpoint) :
    Spares start { endpoint with world := endpoint.world.noted notice } := by
  have hlogged : endpoint.world.Matches (endpoint.world.noted notice) :=
    (World.Matches.refl _).noted notice
  exact ⟨hspares.buffer_eq, hspares.memory_eq, hlogged.calls_eq.trans hspares.calls_eq⟩

/-- Giving an envelope away is no call. -/
theorem keeps_exchangeEnveloped (communicate : Communicate σ) (tag : Guid) (request : Bytes)
    (capacity : Nat) :
    Keeps (Spares start) (Delivery.exchangeEnveloped communicate tag request capacity) := by
  intro endpoint hspares
  obtain ⟨world, hrun, hmatches⟩ :=
    Delivery.run_exchangeEnveloped_opened communicate tag request capacity endpoint
  rw [hrun]
  refine ⟨hspares.buffer_eq, hmatches.memory_eq.trans hspares.memory_eq, ?_⟩
  rw [World.calls_of_deeds (hmatches.deeds_eq.trans (World.deeds_given _ _ _ _))]
  exact (List.append_nil _).trans hspares.calls_eq

end Endpoint.Spares

namespace Ras

open Endpoint (Spares)

variable {config : Config} {communicate : Option (Communicate σ)} {start : Endpoint σ}

theorem spares_establish {client : Client σ} (hsound : Sound config communicate client)
    (henveloped : config.passThrough = false) (budget : Nat) {endpoint : Endpoint σ}
    (hspares : Spares start endpoint) :
    Spares start (conduct (Client.establish platform budget) client endpoint).2 := by
  have hstanding := hsound.standing
  rw [Client.establish, conduct_bind, conduct_get]
  dsimp only
  cases hstage : client.stage with
  | ready => exact hspares
  | channelOpen channel => exact absurd hstage (hsound.ne_channelOpen channel)
  | channelResolved channel =>
    rw [hstage] at hstanding
    generalize client.delivery = delivery at hstanding
    cases hstanding with
    | resolved hpass =>
      -- only a client that sends straight to a channel looks for one
      rw [henveloped] at hpass
      cases hpass
  | uninitialized =>
    dsimp only
    rw [hsound.config_eq, henveloped, if_neg Bool.false_ne_true]
    cases client.communicate with
    | none => exact Client.keeps_refuse Spares.keeps_noted _ _ _ hspares
    | some give =>
      have hfinish : KeepsEndpoint (Spares start)
          (Client.finish (.enveloped give config.envelope)) :=
        Client.keeps_finish Spares.keeps_noted _
      exact KeepsEndpoint.bind hfinish (fun _ => .pure _) _ _ hspares

theorem spares_query {client : Client σ} (hsound : Sound config communicate client)
    (henveloped : config.passThrough = false) (query : Query) {endpoint : Endpoint σ}
    (hspares : Spares start endpoint) :
    Spares start (conduct (query.move.perform platform) client endpoint).2 := by
  refine Client.keeps_query Spares.keeps_noted ?_ query hspares
  intro delivery hdelivery service request capacity
  have hstanding := hsound.standing
  rw [hdelivery] at hstanding
  generalize client.stage = stage at hstanding
  cases hstanding with
  | passThrough hpass =>
    rw [henveloped] at hpass
    cases hpass
  | enveloped => exact Spares.keeps_exchangeEnveloped _ _ _ _

/-- What a session does with envelopes spares its endpoint. -/
theorem spares_after {session : Session σ} (hsound : Sound config communicate session.client)
    (henveloped : config.passThrough = false) {move : Move σ}
    (hmove : ∀ change, move ≠ .disturb change) :
    Spares session.endpoint (session.after platform move).endpoint := by
  have hspares := Spares.refl session.endpoint
  cases move with
  | establish budget =>
    rw [Session.after, conduct_establish]
    exact spares_establish hsound henveloped budget hspares
  | sourceCount => exact spares_query hsound henveloped .sourceCount hspares
  | sourceIds => exact spares_query hsound henveloped .sourceIds hspares
  | sourceDescriptor source =>
    exact spares_query hsound henveloped (.sourceDescriptor source) hspares
  | disturb change => exact absurd rfl (hmove change)

theorem spares_afterAll {session : Session σ} (hsound : Sound config communicate session.client)
    (henveloped : config.passThrough = false) {moves : List (Move σ)}
    (hmoves : ∀ change, .disturb change ∉ moves) :
    Spares session.endpoint (session.afterAll platform moves).endpoint := by
  induction moves generalizing session with
  | nil => exact .refl _
  | cons move rest ih =>
    have hfirst : Spares session.endpoint (session.after platform move).endpoint :=
      spares_after hsound henveloped fun change hchange =>
        hmoves change (hchange ▸ List.mem_cons_self ..)
    exact hfirst.trans (ih (stepped platform hsound move).sound fun change hchange =>
      hmoves change (List.mem_cons_of_mem _ hchange))

/-- Exchanges in envelopes, whatever the capability does. It is called once, and nothing else is
done, with a buffer that holds the tag, the length of the request as a 64-bit word, the request,
and zeros for the rest of the longer of the request and the caller's buffer; all up to the end of
the request is in use. A fault is passed on. A length that does not cover the header or is more than
the buffer is a device error; a reply longer than the caller's buffer exceeds it; and otherwise the
reply is copied to its start. A failure leaves it as it was.

A session that is configured for envelopes makes no call, whatever the capability does: neither in
any of its moves, when others use the endpoint as well, nor in a whole run of its own. -/
theorem envelopes_checked (platform : Platform σ) :
    (∀ (communicate : Communicate σ) (tag : Guid) (service : UInt8) (request caller : Bytes)
        (endpoint : Endpoint σ),
      let room := max request.length caller.length
      let sent := tag.toList ++
        (List.range 8).map (fun index => UInt8.ofNat (request.length / 256 ^ index)) ++ request ++
        List.replicate (room - request.length) 0
      let inUse := (24 + request.length).toUInt64
      let back := communicate sent inUse endpoint.world.state
      let result := ((Delivery.enveloped communicate tag).exchange platform service request
        caller.length).run endpoint
      sent.length = 24 + room ∧
      (24 + request.length < 2 ^ 64 → inUse.toNat = 24 + request.length) ∧
      result.2.world.deeds = endpoint.world.deeds ++ [.communicated sent inUse] ∧
      result.2.world.state = back.2 ∧
      Endpoint.deliverTo caller result.1 = match back.1 with
        | .error fault => (.error fault, caller)
        | .ok (written, length) =>
          let left := Bytes.overwrite (written.take sent.length) sent
          if length.toNat < 24 ∨ length.toNat > 24 + room then (.error .deviceError, caller)
          else if length.toNat - 24 > caller.length then (.error .capacityExceeded, caller)
          else (.ok (length.toNat - 24),
            (left.take length.toNat).drop 24 ++ caller.drop (length.toNat - 24))) ∧
    ∀ (config : Config) (communicate : Option (Communicate σ)) (endpoint : Endpoint σ)
        (moves : List (Move σ)), config.passThrough = false →
      let start : Session σ := { client := .ofConfig config communicate, endpoint }
      let now := start.afterAll platform moves
      (∀ move : Move σ, (∀ change, move ≠ .disturb change) →
        now.endpoint.Spares (now.after platform move).endpoint) ∧
      ((∀ change, .disturb change ∉ moves) → endpoint.Spares now.endpoint) := by
  refine ⟨?_, ?_⟩
  · intro communicate tag service request caller endpoint room sent inUse back result
    have hsent : Envelope.wrap tag request caller.length = sent :=
      Envelope.wrap_eq tag request caller.length
    have hlength : sent.length = 24 + room := by
      rw [← hsent, Envelope.length_wrap, Envelope.headerLength]
    obtain ⟨world, hrun, hmatches⟩ :=
      Delivery.run_exchangeEnveloped_opened communicate tag request caller.length endpoint
    rw [hsent] at hrun hmatches
    have hresult : result = ((back.1.map fun answer =>
        (Bytes.overwrite (answer.1.take sent.length) sent, answer.2)).bind fun answer =>
          Envelope.opened caller.length answer.1 answer.2, { endpoint with world }) := hrun
    rw [hresult]
    refine ⟨hlength, fun hfits => UInt64.toNat_ofNat_of_lt' hfits, ?_, hmatches.state_eq, ?_⟩
    · exact hmatches.deeds_eq.trans (World.deeds_given ..)
    · rcases hback : back.1 with fault | ⟨written, length⟩
      · rfl
      · refine (Envelope.deliverTo_opened ..).trans ?_
        rw [Bytes.length_overwrite_take, hlength]
        rfl
  · intro config communicate endpoint moves henveloped start now
    have hstart : Sound config communicate start.client := .ofConfig config communicate
    refine ⟨fun move hmove => ?_, fun hmoves => ?_⟩
    · have hnow : Sound config communicate now.client := sound_afterAll platform hstart moves
      exact spares_after hnow henveloped hmove
    · exact spares_afterAll hstart henveloped hmoves

/-- A capability that puts three bytes behind the header of an envelope and says that some length is
in use, for a request of four bytes; and a session over the first of these. -/
theorem envelopes_checked_answering :
    let platform := Platform.leaving 64 (.success 0) []
    let endpoint : Endpoint Heap := { buffer := none, world := .fresh Heap.fresh }
    let answering (length : UInt64) : Communicate Heap := fun buffer _ heap =>
      (.ok (buffer.take 24 ++ [9, 8, 7], length), heap)
    let received (length : UInt64) (caller : Bytes) :=
      Endpoint.deliverTo caller (((Delivery.enveloped (answering length) (.replicate 16 5)).exchange
        platform 3 [1, 2, 3, 4] caller.length).run endpoint).1
    let start : Session Heap :=
      { client := .ofConfig { source := .probe, group := 11, passThrough := false }
          (some (answering 23))
        endpoint }
    let now := start.afterAll platform [.establish 1, .sourceCount, .sourceDescriptor 7]
    received 23 [0, 0, 0] = (.error .deviceError, [0, 0, 0]) ∧
      received 29 [0, 0, 0] = (.error .deviceError, [0, 0, 0]) ∧
      received 27 [0, 0] = (.error .capacityExceeded, [0, 0]) ∧
      received 26 [0, 0, 6] = (.ok 2, [9, 8, 6]) ∧
      now.client.stage = .ready ∧ endpoint.Spares now.endpoint := by
  intro platform endpoint answering received start now
  obtain ⟨hexchange, hsession⟩ := envelopes_checked platform
  have hreceived := fun length caller =>
    (hexchange (answering length) (.replicate 16 5) 3 [1, 2, 3, 4] caller endpoint).2.2.2.2
  refine ⟨(hreceived 23 [0, 0, 0]).trans ?_, (hreceived 29 [0, 0, 0]).trans ?_,
    (hreceived 27 [0, 0]).trans ?_, (hreceived 26 [0, 0, 6]).trans ?_, ?_, ?_⟩
  · rfl
  · rfl
  · rfl
  · rfl
  · rfl
  · exact (hsession start.client.config start.client.communicate endpoint _ rfl).2 (by simp)

end Ras

end MessageProxy
