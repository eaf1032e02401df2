import MessageProxy.Proofs.Remote.Directory

/-!
Searching the directory of a remote for a channel.

The search reads pages and attributes through the same buffer, page by page. It comes to what a
search of the whole directory comes to, and makes no call beyond those that it takes.
-/

namespace MessageProxy.Remote

open Endpoint

variable {κ α : Type} {setup : Setup κ} {allocate : UInt64 → α → Option Region × α}
  {release : Region → α → α}

namespace Setup

/-- The value of one attribute of a channel, if reading it succeeds. -/
def attribute? (setup : Setup κ) (held : UInt32 → UInt32 → Option UInt32) (key id : UInt32) :
    Option UInt32 :=
  match setup.channel? id with
  | none => none
  | some channel =>
    if channel.readFault.isSome then none
    else (held id key).or (if key < Attribute.standardCount then some 0 else none)

theorem toOption_attributes_one (setup : Setup κ) (held : UInt32 → UInt32 → Option UInt32)
    (key id : UInt32) :
    (setup.attributes held id key 1).toOption = (setup.attribute? held key id).map ([·]) := by
  unfold attribute? attributes
  cases setup.channel? id with
  | none => rfl
  | some channel =>
    cases hfault : channel.readFault with
    | some fault =>
      simp only [hfault]
      rfl
    | none =>
      have hone : (1 : UInt32).toNat = 0 + 1 := rfl
      simp only [hfault, Option.isSome_none, Bool.false_eq_true, if_false, hone, valuesFrom_succ]
      cases (held id key).or (if key < Attribute.standardCount then some 0 else none) with
      | none => rfl
      | some value => rfl

end Setup

/-- Whether a call is to that function of the message proxy. -/
def isFor (function : UInt64) (call : Call) : Bool :=
  call.extension = Extension.messageProxy && call.function = function

theorem filter_isFor_listing (start : UInt32) (ids : List UInt32) (key : UInt32) :
    let calls := .listChannels start :: ids.map fun id => .readAttributes ⟨id⟩ key 1
    calls.filter (isFor ProxyFunction.listChannels) = [.listChannels start] ∧
      calls.filter (isFor ProxyFunction.readAttributes) =
        ids.map fun id => .readAttributes ⟨id⟩ key 1 := by
  have hlisting : (ids.map fun id => Call.readAttributes ⟨id⟩ key 1).filter
      (isFor ProxyFunction.listChannels) = [] := by
    rw [List.filter_map, List.map_eq_nil_iff, List.filter_eq_nil_iff]
    intro id _
    exact Bool.false_ne_true
  have hreading : (ids.map fun id => Call.readAttributes ⟨id⟩ key 1).filter
      (isFor ProxyFunction.readAttributes) = ids.map fun id => .readAttributes ⟨id⟩ key 1 := by
    rw [List.filter_map, List.filter_eq_self.2]
    intro id _
    rfl
  exact ⟨congrArg (Call.listChannels start :: ·) hlisting, hreading⟩

section Page

variable {ids : List UInt32} {limit : Nat} {wanted : UInt32 → Bool}

/-- A match on the first page is the match of the whole list. -/
theorem search_of_find_take {id : UInt32} (hfound : (ids.take limit).find? wanted = some id) :
    ids.find? wanted = some id ∧ ids.findIdx wanted < min limit ids.length ∧
      ids.take (ids.findIdx wanted + 1) =
        (ids.take limit).take ((ids.take limit).findIdx wanted + 1) := by
  have hsplit : ids = ids.take limit ++ ids.drop limit := (List.take_append_drop limit ids).symm
  have hinside : (ids.take limit).findIdx wanted < (ids.take limit).length :=
    List.findIdx_lt_length_of_exists
      ⟨id, List.mem_of_find?_eq_some hfound, List.find?_some hfound⟩
  have hplace : ids.findIdx wanted = (ids.take limit).findIdx wanted := by
    rw [hsplit, List.findIdx_append, ← hsplit, if_pos hinside]
  refine ⟨?_, ?_, ?_⟩
  · rw [hsplit, List.find?_append, hfound]
    rfl
  · rw [hplace, ← List.length_take]
    exact hinside
  · rw [hplace, List.take_take]
    rw [List.length_take] at hinside
    congr 1
    omega

/-- Without a match on the first page, the match of the whole list is the one behind that page. -/
theorem search_of_find_take_none (hnone : (ids.take limit).find? wanted = none) :
    ids.find? wanted = (ids.drop limit).find? wanted ∧
      ids.findIdx wanted = (ids.drop limit).findIdx wanted + min limit ids.length ∧
      (ids.take limit).take ((ids.take limit).findIdx wanted + 1) = ids.take limit ∧
      ids.take (ids.findIdx wanted + 1) =
        ids.take limit ++ (ids.drop limit).take ((ids.drop limit).findIdx wanted + 1) := by
  have hsplit : ids = ids.take limit ++ ids.drop limit := (List.take_append_drop limit ids).symm
  have houtside : (ids.take limit).findIdx wanted = (ids.take limit).length := by
    rw [List.findIdx_eq_length]
    intro id hid
    exact Bool.eq_false_iff.2 (List.find?_eq_none.1 hnone id hid)
  have hplace : ids.findIdx wanted =
      (ids.drop limit).findIdx wanted + (ids.take limit).length := by
    rw [hsplit, List.findIdx_append, ← hsplit, if_neg (by omega)]
  refine ⟨?_, ?_, ?_, ?_⟩
  · rw [hsplit, List.find?_append, ← hsplit, hnone]
    rfl
  · rw [hplace, List.length_take]
  · exact List.take_of_length_le (by omega)
  · rw [hsplit, List.take_append, ← hsplit, List.take_of_length_le (by omega)]
    congr 2
    omega

end Page

variable {endpoint : Endpoint (State κ × α)} {buffer : SharedBuffer}

/-- An endpoint reads one attribute of a channel, if the remote can read it. -/
theorem readAttribute_connected (allocate : UInt64 → α → Option Region × α)
    (release : Region → α → α) (hconnected : Connected setup buffer endpoint)
    (hreports : setup.ReportsReads) (hroom : 4 ≤ setup.size.toNat) (key id : UInt32) :
    let result := (Endpoint.readAttributes (platform setup allocate release) ⟨id⟩ key 1).run
      endpoint
    result.1.toOption.bind List.head? = setup.attribute? endpoint.world.state.1.held key id ∧
      Received [.readAttributes ⟨id⟩ key 1] endpoint result.2 := by
  have hone : 4 * (1 : UInt32).toNat ≤ setup.size.toNat := hroom
  obtain ⟨houtcome, hreceived⟩ := readAttributes_connected allocate release hconnected hreports
    ⟨id⟩ key 1 (by decide) hone
  refine ⟨?_, hreceived⟩
  have hvalue := congrArg (Option.bind · List.head?)
    (setup.toOption_attributes_one endpoint.world.state.1.held key id)
  have hhead : ((setup.attribute? endpoint.world.state.1.held key id).map ([·])).bind
      List.head? = setup.attribute? endpoint.world.state.1.held key id := by
    cases setup.attribute? endpoint.world.state.1.held key id with
    | none => rfl
    | some value => rfl
  refine Eq.trans ?_ (hvalue.trans hhead)
  cases hread : setup.attributes endpoint.world.state.1.held id key 1 with
  | error status =>
    simp only [hread] at houtcome
    obtain ⟨fault, hfault⟩ := houtcome
    rw [hfault]
    rfl
  | ok values =>
    simp only [hread] at houtcome
    rw [houtcome]
    rfl

/-- Trying channels one by one comes to the first of them that has the value, and reads the channels
up to it. -/
theorem firstWith_connected (allocate : UInt64 → α → Option Region × α)
    (release : Region → α → α) (hconnected : Connected setup buffer endpoint)
    (hreports : setup.ReportsReads) (hroom : 4 ≤ setup.size.toNat) (key value : UInt32)
    (ids : List UInt32) :
    let wanted := fun id =>
      setup.attribute? endpoint.world.state.1.held key id == some value
    let result := (firstWith (platform setup allocate release) key value
      (ids.map ChannelId.mk)).run endpoint
    result.1 = .ok ((ids.find? wanted).map ChannelId.mk) ∧
      Received ((ids.take (ids.findIdx wanted + 1)).map fun id => .readAttributes ⟨id⟩ key 1)
        endpoint result.2 := by
  intro wanted
  induction ids generalizing endpoint with
  | nil => exact ⟨rfl, .refl endpoint⟩
  | cons id rest ih =>
    have hread := readAttribute_connected allocate release hconnected hreports hroom key id
    rw [List.map_cons, firstWith, run_bind, run_observing, List.find?_cons, List.findIdx_cons]
    generalize (Endpoint.readAttributes (platform setup allocate release) ⟨id⟩ key 1).run
      endpoint = read at hread ⊢
    obtain ⟨outcome, middle⟩ := read
    obtain ⟨hvalue, hreceived⟩ := hread
    dsimp only at hvalue hreceived
    -- Whatever is noted in between, the rest is tried in a state that holds the same values.
    have hrest : ∀ next, Received [.readAttributes ⟨id⟩ key 1] endpoint next →
        let result := (firstWith (platform setup allocate release) key value
          (rest.map ChannelId.mk)).run next
        result.1 = .ok ((rest.find? wanted).map ChannelId.mk) ∧
          Received (((id :: rest).take (rest.findIdx wanted + 1 + 1)).map fun id =>
            .readAttributes ⟨id⟩ key 1) endpoint result.2 := by
      intro next hnext
      have htried := ih (hnext.connected hconnected)
      rw [hnext.held_eq] at htried
      exact ⟨htried.1, hnext.trans htried.2⟩
    cases outcome with
    | error fault =>
      have hwanted : wanted id = false := by
        change (setup.attribute? endpoint.world.state.1.held key id == some value) = false
        rw [← hvalue]
        rfl
      simp only [hwanted, cond_false, run_bind, run_note]
      exact hrest _ (hreceived.noted _)
    | ok values =>
      have hwanted : wanted id = (values.head? == some value) := by
        change (setup.attribute? endpoint.world.state.1.held key id == some value) = _
        rw [← hvalue]
        rfl
      by_cases hhead : values.head? = some value
      · have hfound : wanted id = true := by rw [hwanted, hhead, beq_self_eq_true]
        simp only [hhead, if_true, hfound, cond_true, run_bind, run_note, run_pure]
        exact ⟨rfl, hreceived.noted _⟩
      · have hother : wanted id = false := by rw [hwanted, beq_eq_false_iff_ne.2 hhead]
        simp only [if_neg hhead, hother, cond_false]
        exact hrest _ hreceived

/-- A search from an index on comes to a search of what the directory has from there on. -/
theorem findChannelFrom_connected (allocate : UInt64 → α → Option Region × α)
    (release : Region → α → α) (hconnected : Connected setup buffer endpoint)
    (hlists : setup.Lists) (hreports : setup.ReportsReads) (key value : UInt32) (budget : Nat)
    (start : UInt32) (hstart : start.toNat ≤ setup.ids.length)
    (hbudget : setup.ids.length - start.toNat < budget) :
    let wanted := fun id =>
      setup.attribute? endpoint.world.state.1.held key id == some value
    let limit := setup.pageLimit.toNat
    let rest := setup.ids.drop start.toNat
    let result := (findChannelFrom (platform setup allocate release) key value budget start).run
      endpoint
    result.1 = (match if limit = 0 then none else rest.find? wanted with
        | some id => .ok (some ⟨id⟩)
        | none => .error .unsupported) ∧
      ∃ calls, Received calls endpoint result.2 ∧
        calls.filter (isFor ProxyFunction.listChannels) =
          (List.range (min (rest.findIdx wanted) (rest.length - 1) / limit + 1)).map
            (fun index => .listChannels (start.toNat + index * limit).toUInt32) ∧
        calls.filter (isFor ProxyFunction.readAttributes) =
          (if limit = 0 then [] else rest.take (rest.findIdx wanted + 1)).map
            fun id => .readAttributes ⟨id⟩ key 1 := by
  intro wanted limit
  induction budget generalizing endpoint start with
  | zero => omega
  | succ budget ih =>
    intro rest
    have hlisted := channelIds_connected allocate release hconnected hlists hstart
    have hroom := hlists.room
    have hcountable := hlists.countable
    have hlength : rest.length = setup.ids.length - start.toNat := List.length_drop
    have hreturned : (setup.page start.toNat).returned.toNat = min limit rest.length := by
      rw [hlists.toNat_returned]
      exact List.length_take
    have hremaining : (setup.page start.toNat).remaining.toNat = rest.length - limit := by
      have hpage : (setup.pageAt start.toNat).length = min limit rest.length := List.length_take
      rw [hlists.toNat_remaining, hpage]
      omega
    have hfirst : (start.toNat + 0 * limit).toUInt32 = start := by
      rw [Nat.zero_mul, Nat.add_zero]
      exact UInt32.ofNat_toNat
    rw [findChannelFrom, run_bind]
    generalize (channelIds (platform setup allocate release) start).run endpoint = read
      at hlisted ⊢
    obtain ⟨outcome, middle⟩ := read
    obtain ⟨rfl, hreceived⟩ := hlisted
    by_cases hempty : (setup.page start.toNat).returned = 0
    · -- A page without ids: there are none left, or a page has no room for any.
      rw [hempty] at hreturned
      have hnone : limit = 0 ∨ rest.length = 0 := by
        have hzero : (0 : UInt32).toNat = 0 := rfl
        omega
      have hpages : min (rest.findIdx wanted) (rest.length - 1) / limit = 0 := by
        obtain hlimit | hrest := hnone
        · rw [hlimit, Nat.div_zero]
        · rw [hrest, Nat.zero_sub, Nat.min_zero, Nat.zero_div]
      have hids : (if limit = 0 then [] else rest.take (rest.findIdx wanted + 1)) = [] := by
        obtain hlimit | hrest := hnone
        · rw [if_pos hlimit]
        · rw [List.length_eq_zero_iff.1 hrest, List.take_nil, ite_self]
      have hfound : (if limit = 0 then none else rest.find? wanted) = none := by
        obtain hlimit | hrest := hnone
        · rw [if_pos hlimit]
        · rw [List.length_eq_zero_iff.1 hrest, List.find?_nil, ite_self]
      rw [hpages, hids, hfound]
      simp only [hempty, if_true, run_bind, run_refuse]
      refine ⟨rfl, _, hreceived.noted _, ?_, rfl⟩
      rw [Nat.zero_add, List.range_one, List.map_singleton, hfirst]
      rfl
    · have hsome : 0 < min limit rest.length := by
        rw [← hreturned, Nat.pos_iff_ne_zero]
        intro hzero
        exact hempty (UInt32.toNat_inj.1 hzero)
      have hlimit : limit ≠ 0 := by omega
      have hlistings := fun ids => filter_isFor_listing start ids key
      have htried := firstWith_connected allocate release (hreceived.connected hconnected) hreports
        (show 4 ≤ setup.size.toNat by omega) key value (rest.take limit)
      rw [hreceived.held_eq] at htried
      simp only [if_neg hempty, if_neg hlimit, run_bind]
      rw [show (setup.page start.toNat).ids = (rest.take limit).map ChannelId.mk from rfl]
      generalize (firstWith (platform setup allocate release) key value
        ((rest.take limit).map ChannelId.mk)).run middle = tried at htried ⊢
      obtain ⟨outcome, next⟩ := tried
      obtain ⟨houtcome, hread⟩ := htried
      have hboth := hreceived.trans hread
      change outcome = .ok (((rest.take limit).find? wanted).map ChannelId.mk) at houtcome
      change Received (.listChannels start :: ((rest.take limit).take
        ((rest.take limit).findIdx wanted + 1)).map fun id => .readAttributes ⟨id⟩ key 1)
        endpoint next at hboth
      cases hmatch : (rest.take limit).find? wanted with
      | some id =>
        obtain ⟨hfind, hplace, htaken⟩ := search_of_find_take hmatch
        have hpages : min (rest.findIdx wanted) (rest.length - 1) / limit = 0 :=
          Nat.div_eq_of_lt (by omega)
        rw [hmatch] at houtcome
        subst houtcome
        rw [hfind, hpages, htaken]
        refine ⟨rfl, _, hboth, (hlistings _).1.trans ?_, (hlistings _).2⟩
        rw [Nat.zero_add, List.range_one, List.map_singleton, hfirst]
      | none =>
        obtain ⟨hfind, hplace, hpage, htaken⟩ := search_of_find_take_none hmatch
        rw [hpage] at hboth
        rw [hmatch] at houtcome
        subst houtcome
        rw [hfind, htaken]
        by_cases hlast : (setup.page start.toNat).remaining = 0
        · have hend : rest.length ≤ limit := by
            rw [hlast] at hremaining
            have hzero : (0 : UInt32).toNat = 0 := rfl
            omega
          have hpages : min (rest.findIdx wanted) (rest.length - 1) / limit = 0 :=
            Nat.div_eq_of_lt (by omega)
          rw [List.drop_eq_nil_of_le hend, List.find?_nil, List.take_nil, List.append_nil, hpages]
          simp only [Option.map_none, hlast, if_true, run_bind, run_refuse]
          refine ⟨rfl, _, hboth.noted _, (hlistings _).1.trans ?_, (hlistings _).2⟩
          rw [Nat.zero_add, List.range_one, List.map_singleton, hfirst]
        · have hmore : limit < rest.length := by
            refine Nat.lt_of_not_ge fun hend => hlast (UInt32.toNat_inj.1 ?_)
            exact hremaining.trans (Nat.sub_eq_zero_of_le hend)
          have hnext : (Page.next start (setup.page start.toNat).returned).toNat =
              start.toNat + limit := by
            have hsum : start.toNat + (setup.page start.toNat).returned.toNat < UInt32.size := by
              omega
            rw [Page.next, if_pos hsum, UInt32.toNat_add, Nat.mod_eq_of_lt hsum, hreturned]
            omega
          have hrest := ih (hboth.connected hconnected)
            (Page.next start (setup.page start.toNat).returned) (by omega) (by omega)
          rw [hboth.held_eq, hnext, ← List.drop_drop] at hrest
          obtain ⟨hresult, calls, hcalls, hlistedCalls, hreadCalls⟩ := hrest
          simp only [Option.map_none, if_neg hlast]
          rw [if_neg hlimit] at hresult hreadCalls
          refine ⟨hresult, _, hboth.trans hcalls, ?_, ?_⟩
          · have hpages : min (rest.findIdx wanted) (rest.length - 1) / limit =
                min ((rest.drop limit).findIdx wanted) ((rest.drop limit).length - 1) / limit +
                  1 := by
              have hlater : (rest.drop limit).length = rest.length - limit := List.length_drop
              rw [← Nat.add_div_right _ (Nat.pos_of_ne_zero hlimit), hplace, hlater]
              congr 1
              omega
            rw [hpages, List.range_succ_eq_map, List.map_cons, hfirst, List.map_map,
              List.filter_append, (hlistings _).1, hlistedCalls]
            refine congrArg (Call.listChannels start :: ·) (List.map_congr_left fun index _ => ?_)
            rw [Function.comp_apply, Nat.succ_mul, Nat.add_assoc, Nat.add_comm limit]
          · rw [List.filter_append, hreadCalls, (hlistings _).2, List.map_append]

/-- The search for a channel comes to the first match of the whole directory, for every length of
its pages: whatever an endpoint that is alone on a remote has done before, once it is initialised
the search returns the first channel of the directory whose attribute can be read and has the value.
It reads the attribute of that channel and of those before it, once each and in order, and lists no
page behind the one with that channel. The remote is assumed not to refuse to set the shared memory,
or to read attributes, with the code that means success. -/
theorem findChannel_first_match (hreports : setup.Reports) (hlists : setup.Lists)
    (hreads : setup.ReportsReads) (hgrants : Grants allocate) (release : Region → α → α)
    (agents : κ) (pages : α) (before : List Operation) (key value : UInt32) (budget : Nat)
    (hbudget : setup.ids.length < budget) :
    let platform := platform setup allocate release
    let start := afterAll platform
      { buffer := none, world := .fresh (.initial setup agents, pages) } before
    start.isInitialized = true →
      let wanted := fun id => setup.attribute? start.world.state.1.held key id == some value
      let place := setup.ids.findIdx wanted
      let limit := setup.pageLimit.toNat
      let read := if limit = 0 then [] else setup.ids.take (place + 1)
      let result := (findChannel platform budget key value).run start
      result.1 = (match if limit = 0 then none else setup.ids.find? wanted with
        | some id => .ok (some ⟨id⟩)
        | none => .error .unsupported) ∧
      result.2.world.state.1.attributeReads = start.world.state.1.attributeReads ++ read ∧
      ∃ calls, result.2.world.state.1.calls = start.world.state.1.calls ++ calls ∧
        calls.filter (isFor ProxyFunction.readAttributes) =
          read.map (fun id => .readAttributes ⟨id⟩ key 1) ∧
        calls.filter (isFor ProxyFunction.listChannels) =
          (List.range (min place (setup.ids.length - 1) / limit + 1)).map
            fun index => .listChannels (index * limit).toUInt32 := by
  intro platform start hinitialized wanted place limit read result
  have halone : Alone setup start :=
    afterAll_of_after (fun _ operation halone => halone.after hreports hgrants release operation)
      ⟨⟨rfl, rfl⟩, fun _ hbuffer => nomatch hbuffer⟩ before
  obtain ⟨buffer, hbuffer⟩ := Option.isSome_iff_exists.1 hinitialized
  have hsearch := findChannelFrom_connected allocate release (halone.connected hbuffer) hlists
    hreads key value budget 0 (Nat.zero_le _) hbudget
  obtain ⟨hresult, calls, hcalls, hlisted, hread⟩ := hsearch
  have hzero : (0 : UInt32).toNat = 0 := rfl
  simp only [hzero, List.drop_zero, Nat.zero_add] at hresult hlisted hread
  refine ⟨hresult, ?_, calls, hcalls.calls_eq, hread, hlisted⟩
  have hids : (calls.filter (isFor ProxyFunction.readAttributes)).map
      (fun call => (call.arguments.headD 0).toUInt32) = read := by
    rw [hread, List.map_map]
    refine (List.map_congr_left fun id _ => ?_).trans (List.map_id _)
    exact UInt32.toUInt32_toUInt64 id
  unfold State.attributeReads
  rw [show result.2.world.state.1.calls = _ from hcalls.calls_eq, List.filter_append,
    List.map_append]
  exact congrArg (_ ++ ·) hids

/-- A directory on three pages, in which the first channel with group 7 cannot be read. -/
def Setup.paged : Setup Unit :=
  let serving group : Channel Unit :=
    { Channel.bare with attributes := [(Attribute.serviceGroup, group)] }
  { size := 64
    pageLimit := 2
    channels := [(1, .bare), (3, { serving 7 with readFault := some .failed }), (4, serving 5),
      (9, serving 7), (12, serving 7)] }

/-- The search passes over a channel without the attribute and one that cannot be read, and stops on
the second page. -/
theorem findChannel_paged :
    let platform := platform Setup.paged Heap.allocate Heap.release
    let start := afterAll platform
      { buffer := none, world := .fresh (.initial Setup.paged (), Heap.fresh) } [.init]
    let result := (findChannel platform 6 Attribute.serviceGroup 7).run start
    Setup.paged.Reports ∧ Setup.paged.Lists ∧ Setup.paged.ReportsReads ∧ Grants Heap.allocate ∧
      Setup.paged.ids.length < 6 ∧ start.isInitialized = true ∧ result.1 = .ok (some ⟨9⟩) ∧
      result.2.world.state.1.attributeReads = [1, 3, 4, 9] ∧
      ∃ calls, result.2.world.state.1.calls = start.world.state.1.calls ++ calls ∧
        calls.filter (isFor ProxyFunction.listChannels) = [.listChannels 0, .listChannels 2] := by
  have hreports : Setup.paged.Reports := ⟨nofun, nofun⟩
  have hlists : Setup.paged.Lists := ⟨rfl, rfl, by decide, by decide⟩
  have hreads : Setup.paged.ReportsReads := by
    intro entry hentry fault hfault
    have hfaults : ∀ entry ∈ Setup.paged.channels, ∀ fault ∈ entry.2.readFault,
        fault.code ≠ 0 := by decide
    exact hfaults entry hentry fault hfault
  obtain ⟨hresult, hread, calls, hcalls, -, hlisted⟩ := findChannel_first_match hreports hlists
    hreads grants_heap Heap.release () Heap.fresh [.init] Attribute.serviceGroup 7
    6 (by decide) (by decide)
  exact ⟨hreports, hlists, hreads, grants_heap, by decide, by decide, hresult.trans rfl,
    hread.trans (by decide), calls, hcalls, hlisted.trans (by decide)⟩

end MessageProxy.Remote
