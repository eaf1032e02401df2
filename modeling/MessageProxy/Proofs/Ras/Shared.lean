import MessageProxy.Proofs.Ras.Kept
import MessageProxy.Proofs.Ras.Session
import MessageProxy.Proofs.Remote.Connection

/-!
A session on an endpoint that others use as well: as long as its requests go through a channel, all
that it does to the endpoint is to log and to carry out operations.
-/

namespace MessageProxy

variable {σ α β : Type} {platform : Platform σ}

/-- The endpoints to which logging and operations lead. -/
inductive Endpoint.Reaches (platform : Platform σ) (start : Endpoint σ) : Endpoint σ → Prop where
  | refl : Reaches platform start start
  | noted {endpoint : Endpoint σ} (notice : Notice) (hreaches : Reaches platform start endpoint) :
    Reaches platform start { endpoint with world := endpoint.world.noted notice }
  | after {endpoint : Endpoint σ} (operation : Operation)
      (hreaches : Reaches platform start endpoint) :
    Reaches platform start (after platform endpoint operation)

namespace Endpoint.Reaches

variable {start middle last : Endpoint σ}

theorem trans (hfirst : Reaches platform start middle) (hsecond : Reaches platform middle last) :
    Reaches platform start last := by
  induction hsecond with
  | refl => exact hfirst
  | noted notice _ ih => exact .noted notice ih
  | after operation _ ih => exact .after operation ih

theorem keeps_noted (endpoint : Endpoint σ) (notice : Notice)
    (hreaches : Reaches platform start endpoint) :
    Reaches platform start { endpoint with world := endpoint.world.noted notice } :=
  hreaches.noted notice

theorem keeps {action : Action σ α} (operation : Operation) {wrap : α → Answer}
    (hperform : operation.perform platform = wrap <$> action) :
    Keeps (Reaches platform start) action := by
  intro endpoint hreaches
  have hafter := hreaches.after operation
  rw [Endpoint.after, hperform, run_map] at hafter
  exact hafter

theorem keeps_refuse (reason : Refusal) :
    Keeps (Reaches platform start) (refuse reason : Action σ α) :=
  fun _ hreaches => hreaches.noted _

theorem keeps_resolveChannel (budget : Nat) (source : ChannelSource) (group : UInt16) :
    Keeps (Reaches platform start) (resolveChannel platform budget source group) := by
  cases source with
  | probe => exact keeps (.findChannel budget Attribute.serviceGroup group.toUInt32) rfl
  | fixed channel => exact .pure _
  | descriptor descriptor =>
    refine .bind ?_ fun channel => .pure _
    cases descriptor.channel with
    | ok channel => exact .pure _
    | error reason => exact keeps_refuse reason

theorem keeps_openRequestChannel (channel : ChannelId) :
    Keeps (Reaches platform start) (openRequestChannel platform channel) := by
  refine .bind (keeps (.openChannel channel) rfl) fun info => ?_
  exact .ite (.pure _) (.bind (keeps_refuse _) fun _ => .pure _)

end Endpoint.Reaches

namespace Ras

namespace Client

open Endpoint (Reaches)

variable {start : Endpoint σ}

theorem keeps_resolve (budget : Nat) :
    KeepsEndpoint (Reaches platform start) (resolve platform budget) := by
  refine .bind .get fun client => .bind (.observing (.lift (Reaches.keeps .init rfl)))
    fun initialised => ?_
  cases initialised with
  | error fault => exact keeps_refuse Reaches.keeps_noted _
  | ok _ =>
    refine .bind (.observing (.lift (Reaches.keeps_resolveChannel _ _ _))) fun found => ?_
    match found with
    | .error fault => exact keeps_refuse Reaches.keeps_noted _
    | .ok none => exact .pure _
    | .ok (some channel) => exact .bind (keeps_enter Reaches.keeps_noted _) fun _ => .pure _

theorem keeps_establishOn (channel : ChannelId) :
    KeepsEndpoint (Reaches platform start) (establishOn platform channel) := by
  refine .bind ?_ fun _ => .bind (keeps_finish Reaches.keeps_noted _) fun _ => .pure _
  refine .bind (.observing (.lift (Reaches.keeps_openRequestChannel channel))) fun opened => ?_
  cases opened with
  | error fault => exact keeps_refuse Reaches.keeps_noted _
  | ok info => exact keeps_enter Reaches.keeps_noted _

theorem keeps_establish (budget : Nat) :
    KeepsEndpoint (Reaches platform start) (establish platform budget) := by
  refine .bind .get fun client => ?_
  cases client.stage with
  | ready => exact .pure _
  | channelOpen channel => exact .bind (keeps_finish Reaches.keeps_noted _) fun _ => .pure _
  | channelResolved channel => exact keeps_establishOn channel
  | uninitialized =>
    dsimp only
    split
    · refine .bind (keeps_resolve budget) fun found => ?_
      cases found with
      | none => exact .pure _
      | some channel => exact keeps_establishOn channel
    · cases client.communicate with
      | none => exact keeps_refuse Reaches.keeps_noted _
      | some communicate => exact .bind (keeps_finish Reaches.keeps_noted _) fun _ => .pure _

end Client

variable {config : Config} {communicate : Option (Communicate σ)} {start : Endpoint σ}

theorem Sound.passThrough_eq {client : Client σ} (hsound : Sound config communicate client)
    {channel : ChannelId} (hdelivery : client.delivery = some (.passThrough channel)) :
    config.passThrough = true := by
  have hstanding := hsound.standing
  rw [hdelivery] at hstanding
  generalize client.stage = stage at hstanding
  cases hstanding with
  | passThrough hpass => exact hpass

/-- A query whose request goes through a channel logs, and sends a message at most. -/
theorem reaches_query {client : Client σ} (hsound : Sound config communicate client)
    (hpass : config.passThrough = true) (query : Query) {endpoint : Endpoint σ}
    (hreaches : Endpoint.Reaches platform start endpoint) :
    Endpoint.Reaches platform start (conduct (query.move.perform platform) client endpoint).2 := by
  refine Client.keeps_query Endpoint.Reaches.keeps_noted ?_ query hreaches
  intro delivery hdelivery service request capacity
  have hstanding := hsound.standing
  rw [hdelivery] at hstanding
  generalize client.stage = stage at hstanding
  cases hstanding with
  | enveloped henveloped =>
    rw [hpass] at henveloped
    cases henveloped
  | passThrough _ channel => exact Endpoint.Reaches.keeps (.send channel _ _ _) rfl

/-- What others do to the endpoint is to log and to carry out operations. -/
def Operates (platform : Platform σ) (moves : List (Move σ)) : Prop :=
  ∀ change, .disturb change ∈ moves →
    ∀ endpoint, Endpoint.Reaches platform endpoint (change endpoint)

theorem reaches_afterAll (hpass : config.passThrough = true) {session : Session σ}
    (hsound : Sound config communicate session.client) {moves : List (Move σ)}
    (hmoves : Operates platform moves)
    (hreaches : Endpoint.Reaches platform start session.endpoint) :
    Endpoint.Reaches platform start (session.afterAll platform moves).endpoint := by
  induction moves generalizing session with
  | nil => exact hreaches
  | cons move rest ih =>
    refine ih (stepped platform hsound move).sound
      (fun change hchange => hmoves change (List.mem_cons_of_mem _ hchange)) ?_
    cases move with
    | establish budget =>
      rw [Session.after, conduct_establish]
      exact Client.keeps_establish budget _ _ hreaches
    | sourceCount => exact reaches_query hsound hpass .sourceCount hreaches
    | sourceIds => exact reaches_query hsound hpass .sourceIds hreaches
    | sourceDescriptor source =>
      exact reaches_query hsound hpass (.sourceDescriptor source) hreaches
    | disturb change =>
      exact hreaches.trans (hmoves change (List.mem_cons_self ..) session.endpoint)

end Ras

namespace Remote

variable {κ : Type} {setup : Setup κ} {allocate : UInt64 → α → Option Region × α}

/-- Whatever has been logged and done, an endpoint that started alone on a remote is so still. -/
theorem alone_of_reaches (hreports : setup.Reports) (hgrants : Grants allocate)
    {release : Region → α → α} {agents : κ} {pages : α} {endpoint : Endpoint (State κ × α)}
    (hreaches : Endpoint.Reaches (Remote.platform setup allocate release)
      { buffer := none, world := .fresh (.initial setup agents, pages) } endpoint) :
    Alone setup endpoint := by
  induction hreaches with
  | refl => exact ⟨⟨rfl, rfl⟩, fun _ hbuffer => nomatch hbuffer⟩
  | noted notice _ ih => exact ⟨⟨ih.inStep.buffer, ih.inStep.history⟩, ih.fits⟩
  | after operation _ ih => exact ih.after hreports hgrants release operation

end Remote

namespace Ras

open Remote

variable {κ : Type} {setup : Setup κ} {allocate : UInt64 → α → Option Region × α} {config : Config}
  {communicate : Option (Communicate (State κ × α))}

/-- The outcomes of queries through a channel, on an endpoint that is initialised still, are what
the replies of its handler come to. -/
theorem outcomes_passThrough (hreports : setup.Reports) (hreported : setup.reportedLength = none)
    (hgrants : Grants allocate) (release : Region → α → α) (agents : κ) (pages : α)
    {moves : List (Move (State κ × α))} {channel : ChannelId} {entry : Channel κ}
    {handler : Handler κ} (hchannel : setup.channel? channel.raw = some entry)
    (hhandler : entry.handler = some handler) (queries : List Query)
    (result : Query → UInt16 → Except Fault Result) :
    let platform := Remote.platform setup allocate release
    let start : Session (State κ × α) :=
      { client := .ofConfig config communicate
        endpoint := { buffer := none, world := .fresh (.initial setup agents, pages) } }
    let now := start.afterAll platform moves
    let numbered := Query.numbered now.client.tokens queries
    Operates platform moves → now.endpoint.isInitialized = true →
    now.client.delivery = some (.passThrough channel) →
    (∀ entry ∈ numbered, (entry.1.frame config.group entry.2).length < setup.size.toNat ∧
      Gives handler entry.1.service.toUInt32 (entry.1.frame config.group entry.2) fun reply =>
        (reply.length ≤ setup.size.toNat ∧ reply.length ≤ entry.1.room) ∧
          entry.1.outcome config.group entry.2 reply = result entry.1 entry.2) →
    now.outcomes platform (queries.map Query.move) =
      numbered.map fun entry => result entry.1 entry.2 := by
  intro platform start now numbered hmoves hinitialized hdelivery hgives
  have hsound : Sound config communicate now.client :=
    sound_afterAll platform (.ofConfig config communicate) moves
  have hpass := hsound.passThrough_eq hdelivery
  have hstage : now.client.stage = .ready := hsound.isSome_iff.1 (by rw [hdelivery]; rfl)
  have halone : Alone setup now.endpoint :=
    alone_of_reaches hreports hgrants
      (reaches_afterAll hpass (.ofConfig config communicate) hmoves .refl)
  obtain ⟨buffer, hbuffer⟩ := Option.isSome_iff_exists.1 hinitialized
  refine outcomes_of_brings (P := Connected setup buffer) ?_ hstage hdelivery
    (halone.connected hbuffer) ?_
  · intro endpoint notice hconnected
    exact ⟨hconnected.holds, hconnected.fits, hconnected.registered⟩
  · intro entry hentry
    obtain ⟨hframe, hgive⟩ := hgives entry hentry
    rw [hsound.config_eq]
    exact brings_of_gives allocate release hreported hchannel hhandler hframe hgive buffer

/-- The outcomes of queries in envelopes are what the replies of the capability come to, whatever
others do to the endpoint. -/
theorem outcomes_enveloped (platform : Platform σ) {communicate : Option (Communicate σ)}
    (endpoint : Endpoint σ) {moves : List (Move σ)} {give : Communicate σ} {tag : Guid}
    (queries : List Query) (result : Query → UInt16 → Except Fault Result) :
    let start : Session σ := { client := .ofConfig config communicate, endpoint }
    let now := start.afterAll platform moves
    let numbered := Query.numbered now.client.tokens queries
    now.client.delivery = some (.enveloped give tag) →
    (∀ entry ∈ numbered,
      Delivery.Conveys give tag (entry.1.frame config.group entry.2) fun reply =>
        reply.length ≤ entry.1.room ∧
          entry.1.outcome config.group entry.2 reply = result entry.1 entry.2) →
    now.outcomes platform (queries.map Query.move) =
      numbered.map fun entry => result entry.1 entry.2 := by
  intro start now numbered hdelivery hconveys
  have hsound : Sound config communicate now.client :=
    sound_afterAll platform (.ofConfig config communicate) moves
  have hstage : now.client.stage = .ready := hsound.isSome_iff.1 (by rw [hdelivery]; rfl)
  refine outcomes_of_brings (P := fun _ => True) (fun _ _ _ => trivial) hstage hdelivery trivial ?_
  intro entry hentry
  rw [hsound.config_eq]
  exact brings_of_conveys (hconveys entry hentry)

/-- A remote with one channel, whose handler is a function of the requests. -/
def serving (answer : Bytes → Bytes) : Setup Unit :=
  ({ size := 64 } : Setup Unit).withChannel 7 fun channel =>
    { channel.setAttributes (rpmiAttributes 11 0) with handler := some (answering answer) }

/-- A client of that remote, which can also give envelopes to the function. -/
def Session.served (answer : Bytes → Bytes) (config : Config) : Session (State Unit × Heap) :=
  { client := .ofConfig config (some (Delivery.putting answer))
    endpoint := { buffer := none, world := .fresh (.initial (serving answer) (), Heap.fresh) } }

end Ras

end MessageProxy
