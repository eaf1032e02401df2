import MessageProxy.Proofs.Endpoint.Messages
import MessageProxy.Proofs.Remote.Connection
import MessageProxy.Proofs.Remote.Messages

/-!
What the messages of an initialised endpoint that is alone on a remote do to the remote, and what
comes back.
-/

namespace MessageProxy.Remote

open Endpoint

variable {κ α : Type} {setup : Setup κ} {allocate : UInt64 → α → Option Region × α}
  {release : Region → α → α}

/-- What a client with room for `capacity` bytes gets of a response. -/
def delivered (setup : Setup κ) (capacity : Nat) (response : Bytes) : Except Fault Bytes :=
  if response.length > setup.size.toNat then .error .failed
  else if response = [] then .ok []
  else if response.length > capacity then .error .capacityExceeded
  else .ok response

variable {endpoint : Endpoint (State κ × α)} {buffer : SharedBuffer} {request : Bytes}

/-- What a caller with a buffer of its own finds there. -/
theorem deliverTo_delivered (setup : Setup κ) (caller response : Bytes) :
    deliverTo caller (delivered setup caller.length response) =
      if response.length > setup.size.toNat then (.error .failed, caller)
      else if response = [] then (.ok 0, caller)
      else if response.length > caller.length then (.error .capacityExceeded, caller)
      else (.ok response.length, response ++ caller.drop response.length) := by
  unfold delivered
  by_cases hlarge : response.length > setup.size.toNat
  · rw [if_pos hlarge, if_pos hlarge]
    rfl
  rw [if_neg hlarge, if_neg hlarge]
  by_cases hempty : response = []
  · rw [if_pos hempty, if_pos hempty]
    rfl
  rw [if_neg hempty, if_neg hempty]
  by_cases hcapacity : response.length > caller.length
  · rw [if_pos hcapacity, if_pos hcapacity]
    rfl
  · rw [if_neg hcapacity, if_neg hcapacity]
    rfl

/-- The remote reads a request that is smaller than its memory as it was sent. -/
theorem run_react_staged (hconnected : Connected setup buffer endpoint)
    (hrequest : request.length < setup.size.toNat) (channel : ChannelId) (message : UInt32) :
    let staged := endpoint.world.stored buffer.region request
    let replied := reply setup channel.raw message request endpoint.world.state.1.agents
    let call := Call.send channel message request.length
    let after := { endpoint.world.state.1 with
      received := call :: endpoint.world.state.1.received, agents := replied.2 }
    (react setup call).run (staged.memory, staged.state.1) =
      match replied.1 with
      | .error status => (.error status, staged.memory, after)
      | .ok response =>
        if response.length > setup.size.toNat then (.error .failed, staged.memory, after)
        else (.ok (setup.reportedLength.getD response.length.toUInt64),
          staged.memory.store buffer.region.base response, after) := by
  intro staged replied call after
  have hbound : request.length ≤ setup.size.toNat := Nat.le_of_lt hrequest
  have hcount : request.length.toUInt64.toNat = request.length := toNat_toUInt64_of_le hbound
  have hfetch : staged.memory.fetch buffer.region.base request.length = request :=
    Memory.fetch_store _ _ _
  have hregistered : State.registered { staged.state.1 with
      received := call :: staged.state.1.received } = some buffer.region.base :=
    hconnected.registered
  rw [run_react_send hconnected.fits.proxy, run_answer (not_gt_of_le hbound) hregistered, hcount,
    hfetch]
  rfl

/-- A request that is smaller than the shared memory is heard once, as it was sent, and changes
nothing else about the remote but that the call is received. -/
theorem state_send_connected (allocate : UInt64 → α → Option Region × α)
    (release : Region → α → α) (hconnected : Connected setup buffer endpoint)
    (hrequest : request.length < setup.size.toNat) (channel : ChannelId) (message : UInt32)
    (capacity : Nat) :
    ((send (platform setup allocate release) channel message request capacity).run
        endpoint).2.world.state =
      ({ endpoint.world.state.1 with
          received := .send channel message request.length :: endpoint.world.state.1.received
          agents := (reply setup channel.raw message request endpoint.world.state.1.agents).2 },
        endpoint.world.state.2) := by
  have hsize : request.length < buffer.size.toNat := by
    rw [hconnected.fits.size]
    exact hrequest
  have hroom : request.length ≤ buffer.region.length.toNat :=
    hconnected.fits.le_length (Nat.le_of_lt hrequest)
  have hreact := run_react_staged hconnected hrequest channel message
  rw [state_send_of_lt hconnected.holds hsize hroom]
  refine Prod.ext ?_ rfl
  rw [state_called, hreact]
  cases (reply setup channel.raw message request endpoint.world.state.1.agents).1 with
  | error status => rfl
  | ok response =>
    dsimp only
    split
    · rfl
    · rfl

/-- A request that is smaller than the shared memory is heard once, as it was sent, and the client
gets what its limits let through of the response. -/
theorem send_connected (allocate : UInt64 → α → Option Region × α) (release : Region → α → α)
    (hconnected : Connected setup buffer endpoint)
    (hreported : setup.reportedLength = none) (hrequest : request.length < setup.size.toNat)
    (channel : ChannelId) (message : UInt32) (capacity : Nat) :
    let replied := reply setup channel.raw message request endpoint.world.state.1.agents
    let result := (send (platform setup allocate release) channel message request capacity).run
      endpoint
    result.2.world.state.1.agents = replied.2 ∧
      result.2.world.state.1.posted = endpoint.world.state.1.posted ∧
      ∀ response, replied.1 = .ok response → result.1 = delivered setup capacity response := by
  intro replied result
  have hsize : request.length < buffer.size.toNat := by
    rw [hconnected.fits.size]
    exact hrequest
  have hroom : request.length ≤ buffer.region.length.toNat :=
    hconnected.fits.le_length (Nat.le_of_lt hrequest)
  have hreact := run_react_staged hconnected hrequest channel message
  have hstate : result.2.world.state.1 = _ :=
    congrArg Prod.fst (state_send_connected allocate release hconnected hrequest channel message
      capacity)
  refine ⟨by rw [hstate], by rw [hstate], ?_⟩
  intro response hresponse
  dsimp only at hreact
  rw [show reply setup channel.raw message request endpoint.world.state.1.agents = replied from rfl,
    hresponse] at hreact
  rw [show result = _ from run_send_of_lt hconnected.holds hsize hroom channel message capacity]
  dsimp only
  -- The limits come one after the other: the remote's, then the caller's.
  rw [answer_platform, memory_called, hreact, hreported]
  unfold delivered
  by_cases hlarge : response.length > setup.size.toNat
  · simp only [if_pos hlarge]
    rfl
  have hbound : response.length ≤ setup.size.toNat := Nat.le_of_not_gt hlarge
  have hcount : response.length.toUInt64.toNat = response.length := toNat_toUInt64_of_le hbound
  have htold : (Return.ofExcept (.ok (Option.getD none response.length.toUInt64))).toExcept =
      .ok response.length.toUInt64 := rfl
  simp only [if_neg hlarge, htold]
  by_cases hempty : response = []
  · subst hempty
    rfl
  have hzero : ¬response.length.toUInt64 = 0 := by
    intro hzero
    rw [hzero] at hcount
    exact hempty (List.length_eq_zero_iff.1 hcount.symm)
  have hsmall : ¬response.length.toUInt64 > buffer.size := by
    rw [hconnected.fits.size]
    exact not_gt_of_le hbound
  simp only [if_neg hempty, if_neg hzero, if_neg hsmall, hcount]
  by_cases hcapacity : response.length > capacity
  · simp only [if_pos hcapacity]
  have hregion : ¬response.length > buffer.region.length.toNat :=
    Nat.not_lt_of_ge (hconnected.fits.le_length hbound)
  simp only [if_neg hcapacity, if_neg hregion]
  exact congrArg Except.ok (Memory.fetch_store _ _ _)

/-- Since `before`, the remote's handlers have come to remember `agents`; the endpoint is connected
as before, and neither the pages nor the requests that were handled have changed. -/
structure Heard (setup : Setup κ) (buffer : SharedBuffer) (agents : κ)
    (before after : Endpoint (State κ × α)) : Prop where
  connected : Connected setup buffer after
  agents_eq : after.world.state.1.agents = agents
  pages_eq : after.world.state.2 = before.world.state.2
  handled_eq : after.world.handled = before.world.handled

namespace Heard

variable {agents later : κ} {before middle after : Endpoint (State κ × α)}

theorem refl (hconnected : Connected setup buffer endpoint) :
    Heard setup buffer endpoint.world.state.1.agents endpoint endpoint :=
  ⟨hconnected, rfl, rfl, rfl⟩

theorem trans (hfirst : Heard setup buffer agents before middle)
    (hsecond : Heard setup buffer later middle after) : Heard setup buffer later before after where
  connected := hsecond.connected
  agents_eq := hsecond.agents_eq
  pages_eq := hsecond.pages_eq.trans hfirst.pages_eq
  handled_eq := hsecond.handled_eq.trans hfirst.handled_eq

theorem noted (hheard : Heard setup buffer agents before after) (notice : Notice) :
    Heard setup buffer agents before { after with world := after.world.noted notice } where
  connected := ⟨hheard.connected.holds, hheard.connected.fits, hheard.connected.registered⟩
  agents_eq := hheard.agents_eq
  pages_eq := hheard.pages_eq
  handled_eq := by
    rw [← hheard.handled_eq]
    exact World.handled_noted _ _

end Heard

/-- A request that is smaller than the shared memory is answered with the response of its channel,
if that fits the shared memory and the room of the client. -/
theorem send_answered (allocate : UInt64 → α → Option Region × α) (release : Region → α → α)
    (hconnected : Connected setup buffer endpoint) (hreported : setup.reportedLength = none)
    (hrequest : request.length < setup.size.toNat) {channel : ChannelId} {message : UInt32}
    {capacity : Nat} {response : Bytes} {agents : κ}
    (hreply : reply setup channel.raw message request endpoint.world.state.1.agents =
      (.ok response, agents))
    (hsize : response.length ≤ setup.size.toNat) (hcapacity : response.length ≤ capacity) :
    ∃ next, (send (platform setup allocate release) channel message request capacity).run endpoint =
        (.ok response, next) ∧ Heard setup buffer agents endpoint next := by
  obtain ⟨-, -, hresult⟩ := send_connected allocate release hconnected hreported hrequest channel
    message capacity
  have hstate := state_send_connected allocate release hconnected hrequest channel message capacity
  have hkept := keeps_send (World.steady_handled (platform setup allocate release) buffer
    (fun _ => True) endpoint.world.handled) (fun _ _ _ => trivial) channel message request capacity
    endpoint ⟨hconnected.holds, rfl⟩
  rw [hreply] at hresult hstate
  have hdelivered : delivered setup capacity response = .ok response := by
    have hfits : ¬response.length > setup.size.toNat := by omega
    have hroom : ¬response.length > capacity := by omega
    rw [delivered, if_neg hfits, if_neg hroom]
    by_cases hempty : response = []
    · rw [if_pos hempty, hempty]
    · rw [if_neg hempty]
  refine ⟨_, Prod.ext ((hresult response rfl).trans hdelivered) rfl, ?_, ?_, ?_, hkept.2⟩
  · refine ⟨hkept.1, hconnected.fits, ?_⟩
    rw [hstate]
    exact hconnected.registered
  · rw [hstate]
  · rw [hstate]

/-- A request that is smaller than the shared memory is kept once, as it was posted, if posting it
succeeds. -/
theorem post_connected (allocate : UInt64 → α → Option Region × α) (release : Region → α → α)
    (hconnected : Connected setup buffer endpoint)
    (hrequest : request.length < setup.size.toNat) (channel : ChannelId) (message : UInt32) :
    let result := (post (platform setup allocate release) channel message request).run endpoint
    result.2.world.state.1.agents = endpoint.world.state.1.agents ∧
      result.2.world.state.1.posted = (match result.1 with
        | .ok () => [{ channel := channel.raw, message, bytes := request }]
        | .error _ => []) ++ endpoint.world.state.1.posted := by
  intro result
  have hsize : request.length < buffer.size.toNat := by
    rw [hconnected.fits.size]
    exact hrequest
  have hroom : request.length ≤ buffer.region.length.toNat :=
    hconnected.fits.le_length (Nat.le_of_lt hrequest)
  have hbound : request.length ≤ setup.size.toNat := Nat.le_of_lt hrequest
  have hcount : request.length.toUInt64.toNat = request.length := toNat_toUInt64_of_le hbound
  have hfetch : (endpoint.world.stored buffer.region request).memory.fetch buffer.region.base
      request.length = request :=
    Memory.fetch_store _ _ _
  have hregistered : State.registered { endpoint.world.state.1 with
      received := .post channel message request.length :: endpoint.world.state.1.received } =
        some buffer.region.base :=
    hconnected.registered
  have hreact := run_react_post hconnected.fits.proxy channel message request.length
    (endpoint.world.stored buffer.region request).memory endpoint.world.state.1
  rw [run_bind, run_keep (not_gt_of_le hbound) hregistered, hcount, hfetch] at hreact
  rw [show result = _ from run_post_of_lt hconnected.holds hsize hroom channel message]
  dsimp only
  rw [answer_platform, state_called]
  rw [show (endpoint.world.stored buffer.region request).state = endpoint.world.state from rfl,
    hreact]
  by_cases hchannel : (setup.channel? channel.raw).isNone = true
  · rw [if_pos hchannel]
    exact ⟨rfl, rfl⟩
  · rw [if_neg hchannel]
    exact ⟨rfl, rfl⟩

/-- What the handlers remember after an operation: a message that is sent is heard if it is smaller
than the shared memory. -/
def heard (setup : Setup κ) (agents : κ) : Operation → κ
  | .send channel message request _ =>
    if request.length < setup.size.toNat then (reply setup channel.raw message request agents).2
    else agents
  | _ => agents

/-- The message that an operation has posted, if it succeeded in doing so. -/
def posted? : Operation × Except Fault Answer → Option Posted
  | (.post channel message request, .ok _) =>
    some { channel := channel.raw, message, bytes := request }
  | _ => none

/-- A property of what the remote has heard and kept is steady under calls about channels and
attributes. -/
theorem steady_directory {operation : Operation}
    (hmakes : ∀ call, operation.Makes call → call.function = ProxyFunction.listChannels ∨
      call.function = ProxyFunction.readAttributes ∨
      call.function = ProxyFunction.writeAttributes) (buffer : SharedBuffer) (agents : κ)
    (posted : List Posted) :
    World.Steady (platform setup allocate release) buffer operation.Makes fun world =>
      world.state.1.agents = agents ∧ world.state.1.posted = posted where
  noted _ _ hworld := hworld
  stored _ _ _ hworld := hworld
  called world call hcall hworld := by
    rw [state_called]
    exact keeps_react_directory (P := fun state => state.agents = agents ∧ state.posted = posted)
      (fun _ _ hstate => hstate) (fun _ _ hstate => hstate) setup (hmakes call hcall)
      (world.memory, world.state.1) hworld

theorem perform_directory (hholds : endpoint.buffer = some buffer) {operation : Operation}
    (htraffic : operation.isTraffic = true)
    (hmakes : ∀ call, operation.Makes call → call.function = ProxyFunction.listChannels ∨
      call.function = ProxyFunction.readAttributes ∨
      call.function = ProxyFunction.writeAttributes) :
    let result := (operation.perform (platform setup allocate release)).run endpoint
    result.2.world.state.1.agents = endpoint.world.state.1.agents ∧
      result.2.world.state.1.posted = endpoint.world.state.1.posted := by
  have hsteady : World.Steady (platform setup allocate release) buffer operation.Makes
      fun world => world.state.1.agents = endpoint.world.state.1.agents ∧
        world.state.1.posted = endpoint.world.state.1.posted :=
    steady_directory hmakes buffer _ _
  exact (keeps_perform htraffic hsteady endpoint ⟨hholds, rfl, rfl⟩).2

/-- What one operation of an endpoint does to what the remote has heard and kept. -/
theorem perform_connected (allocate : UInt64 → α → Option Region × α) (release : Region → α → α)
    (hconnected : Connected setup buffer endpoint)
    (hreported : setup.reportedLength = none) {operation : Operation}
    (htraffic : operation.isTraffic = true) :
    let result := (operation.perform (platform setup allocate release)).run endpoint
    result.2.world.state.1.agents = heard setup endpoint.world.state.1.agents operation ∧
      result.2.world.state.1.posted =
        (posted? (operation, result.1)).toList ++ endpoint.world.state.1.posted := by
  intro result
  cases operation with
  | init | deinit => cases htraffic
  | channelIds | allChannelIds =>
    refine perform_directory hconnected.holds rfl ?_
    rintro call ⟨start, rfl⟩
    exact .inl rfl
  | findChannel =>
    refine perform_directory hconnected.holds rfl ?_
    rintro call (⟨start, rfl⟩ | ⟨channel, first, count, rfl⟩)
    · exact .inl rfl
    · exact .inr (.inl rfl)
  | readAttributes | openChannel =>
    refine perform_directory hconnected.holds rfl ?_
    rintro call ⟨channel, first, count, rfl⟩
    exact .inr (.inl rfl)
  | writeAttributes =>
    refine perform_directory hconnected.holds rfl ?_
    rintro call ⟨channel, first, count, rfl⟩
    exact .inr (.inr rfl)
  | send channel message request capacity =>
    have hrun : result = _ := run_map _ _ _
    by_cases hrequest : request.length < setup.size.toNat
    · obtain ⟨hagents, hposted, -⟩ := send_connected allocate release hconnected hreported hrequest
        channel message capacity
      rw [hrun, heard, if_pos hrequest]
      exact ⟨hagents, hposted⟩
    · have hlarge : buffer.size.toNat ≤ request.length := by
        rw [hconnected.fits.size]
        omega
      rw [hrun, run_send_of_le hconnected.holds hlarge, heard, if_neg hrequest]
      exact ⟨rfl, rfl⟩
  | post channel message request =>
    have hrun : result = _ := run_map _ _ _
    by_cases hrequest : request.length < setup.size.toNat
    · obtain ⟨hagents, hposted⟩ := post_connected allocate release hconnected hrequest channel
        message
      rw [hrun]
      refine ⟨hagents, hposted.trans ?_⟩
      cases ((post (platform setup allocate release) channel message request).run endpoint).1 with
      | ok _ => rfl
      | error fault => rfl
    · have hlarge : buffer.size.toNat ≤ request.length := by
        rw [hconnected.fits.size]
        omega
      rw [hrun, run_post_of_le hconnected.holds hlarge]
      exact ⟨rfl, rfl⟩

/-- What a run of traffic does to what the remote has heard and kept. -/
theorem afterAll_connected (hreports : setup.Reports) (hgrants : Grants allocate)
    (release : Region → α → α) (hreported : setup.reportedLength = none)
    {operations : List Operation}
    (htraffic : ∀ operation ∈ operations, operation.isTraffic = true)
    (halone : Alone setup endpoint) (hbuffer : endpoint.buffer = some buffer) :
    let platform := platform setup allocate release
    let now := afterAll platform endpoint operations
    Connected setup buffer now ∧
      now.world.state.1.agents = operations.foldl (heard setup) endpoint.world.state.1.agents ∧
      now.world.state.1.posts = endpoint.world.state.1.posts ++
        (operations.zip (outcomes platform endpoint operations)).filterMap posted? := by
  induction operations generalizing endpoint with
  | nil => exact ⟨halone.connected hbuffer, rfl, (List.append_nil _).symm⟩
  | cons operation rest ih =>
    obtain ⟨hfirst, hrest⟩ := List.forall_mem_cons.1 htraffic
    intro platform now
    have hkept : (after platform endpoint operation).buffer = some buffer :=
      (since_carried platform hfirst endpoint).1.trans hbuffer
    obtain ⟨hagents, hposted⟩ := perform_connected allocate release
      (halone.connected hbuffer) hreported hfirst
    obtain ⟨hconnected, hheard, hposts⟩ :=
      ih hrest (halone.after hreports hgrants release operation) hkept
    refine ⟨hconnected, ?_, ?_⟩
    · rw [List.foldl_cons, ← hagents]
      exact hheard
    · generalize hsent : ((operation.perform platform).run endpoint).1 = outcome at hposted
      have hafter : (after platform endpoint operation).world.state.1.posts =
          endpoint.world.state.1.posts ++ (posted? (operation, outcome)).toList := by
        unfold State.posts
        rw [show (after platform endpoint operation).world.state.1.posted = _ from hposted,
          List.reverse_append]
        cases posted? (operation, outcome) with
        | none => rfl
        | some posted => rfl
      calc now.world.state.1.posts
          = (after platform endpoint operation).world.state.1.posts ++
              (rest.zip (outcomes platform (after platform endpoint operation) rest)).filterMap
                posted? := hposts
        _ = endpoint.world.state.1.posts ++ ((posted? (operation, outcome)).toList ++
              (rest.zip (outcomes platform (after platform endpoint operation) rest)).filterMap
                posted?) := by
          rw [hafter, List.append_assoc]
        _ = _ := by
          rw [outcomes, hsent, List.zip_cons_cons, List.filterMap_cons]
          cases posted? (operation, outcome) with
          | none => rfl
          | some posted => rfl

/-- Message delivery over whole runs: whatever an endpoint that is alone on a remote has done
before, once it is initialised every run of traffic has the handlers hear exactly the messages that
were smaller than the shared memory, and has the remote keep exactly those that were posted with
success, in order. A message that is sent next is heard once, as it was sent, and its caller gets
what the remote's and the caller's room let through of the response. The remote is assumed not to
refuse to set the shared memory with the code that means success. -/
theorem delivery_exact (hreports : setup.Reports) (hreported : setup.reportedLength = none)
    (hgrants : Grants allocate) (release : Region → α → α) (agents : κ) (pages : α)
    (before operations : List Operation)
    (htraffic : ∀ operation ∈ operations, operation.isTraffic = true) :
    let platform := platform setup allocate release
    let start := afterAll platform
      { buffer := none, world := .fresh (.initial setup agents, pages) } before
    let now := afterAll platform start operations
    start.isInitialized = true →
      now.world.state.1.agents = operations.foldl (heard setup) start.world.state.1.agents ∧
      now.world.state.1.posts = start.world.state.1.posts ++
        (operations.zip (outcomes platform start operations)).filterMap posted? ∧
      (∀ channel message request caller entry handler,
        setup.channel? channel.raw = some entry → entry.handler = some handler →
        request.length < setup.size.toNat →
        let replied := handler message request now.world.state.1.agents
        let result := (send platform channel message request caller.length).run now
        result.2.world.state.1.agents = replied.2 ∧
          result.2.world.state.1.posts = now.world.state.1.posts ∧
          ∀ response, replied.1 = .ok response → deliverTo caller result.1 =
            if response.length > setup.size.toNat then (.error .failed, caller)
            else if response = [] then (.ok 0, caller)
            else if response.length > caller.length then (.error .capacityExceeded, caller)
            else (.ok response.length, response ++ caller.drop response.length)) ∧
      (∀ channel message request capacity, setup.size.toNat ≤ request.length →
        (send platform channel message request capacity).run now =
            (.error .invalidParameter, now) ∧
          (post platform channel message request).run now = (.error .invalidParameter, now)) ∧
      ∀ channel message request caller entry, setup.channel? channel.raw = some entry →
        entry.handler = some echo → request.length < setup.size.toNat →
        request.length ≤ caller.length →
        deliverTo caller ((send platform channel message request caller.length).run now).1 =
          (.ok request.length, request ++ caller.drop request.length) := by
  intro platform start now hinitialized
  have halone : Alone setup start :=
    afterAll_of_after (fun _ operation halone => halone.after hreports hgrants release operation)
      ⟨⟨rfl, rfl⟩, fun _ hbuffer => nomatch hbuffer⟩ before
  obtain ⟨buffer, hbuffer⟩ := Option.isSome_iff_exists.1 hinitialized
  obtain ⟨hconnected, hagents, hposts⟩ :=
    afterAll_connected hreports hgrants release hreported htraffic halone hbuffer
  refine ⟨hagents, hposts, ?_, ?_, ?_⟩
  · intro channel message request caller entry handler hchannel hhandler hrequest replied result
    obtain ⟨hheard, hposted, hresult⟩ :=
      send_connected allocate release hconnected hreported hrequest channel message caller.length
    rw [reply_of_handler hchannel hhandler] at hheard hresult
    refine ⟨hheard, congrArg List.reverse hposted, ?_⟩
    intro response hresponse
    rw [show result.1 = _ from hresult response hresponse]
    exact deliverTo_delivered setup caller response
  · intro channel message request capacity hrequest
    have hlarge : buffer.size.toNat ≤ request.length := by
      rw [hconnected.fits.size]
      exact hrequest
    exact ⟨run_send_of_le hconnected.holds hlarge channel message capacity,
      run_post_of_le hconnected.holds hlarge channel message⟩
  · intro channel message request caller entry hchannel hhandler hrequest hcaller
    obtain ⟨-, -, hresult⟩ :=
      send_connected allocate release hconnected hreported hrequest channel message caller.length
    rw [reply_of_handler hchannel hhandler] at hresult
    rw [show ((send platform channel message request caller.length).run now).1 = _ from
      hresult request rfl, deliverTo_delivered]
    have hsize : ¬request.length > setup.size.toNat := by omega
    have hcapacity : ¬request.length > caller.length := by omega
    rw [if_neg hsize, if_neg hcapacity]
    by_cases hempty : request = []
    · subst hempty
      rfl
    · rw [if_neg hempty]

/-- An endpoint that has been torn down and set up again posts a message, asks for the channels, and
has a message sent back. -/
theorem echoed_after_reinit :
    let platform := platform Setup.echoing Heap.allocate Heap.release
    let start := afterAll platform
      { buffer := none, world := .fresh (.initial Setup.echoing (), Heap.fresh) }
      [.init, .deinit, .init]
    let now := afterAll platform start [.post ⟨1⟩ 5 [9], .channelIds 0]
    Setup.echoing.Reports ∧ Setup.echoing.reportedLength = none ∧ Grants Heap.allocate ∧
      start.isInitialized = true ∧
      now.world.state.1.posts = [⟨1, 5, [9]⟩] ∧
      deliverTo [0, 0, 0] ((send platform ⟨1⟩ 7 [1, 2] 3).run now).1 = (.ok 2, [1, 2, 0]) := by
  obtain ⟨-, hposts, -, -, hecho⟩ := delivery_exact Setup.reports_echoing rfl grants_heap
    Heap.release () Heap.fresh [.init, .deinit, .init] [.post ⟨1⟩ 5 [9], .channelIds 0]
    (by decide) (by decide)
  dsimp only
  refine ⟨Setup.reports_echoing, rfl, grants_heap, by decide, hposts.trans (by decide), ?_⟩
  exact hecho ⟨1⟩ 7 [1, 2] [0, 0, 0] _ rfl rfl (by decide) (by decide)

end MessageProxy.Remote
