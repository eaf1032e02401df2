import MessageProxy.Proofs.Remote.Directory

/-!
Walking the whole directory of a remote.

A remote lists the channels that it offers in ascending order. A walk over its pages gathers all of
them, whatever the length of a page, and asks for no page more than it takes.
-/

namespace MessageProxy.Remote

open Endpoint

variable {κ α : Type} {setup : Setup κ} {allocate : UInt64 → α → Option Region × α}

/-- The number of pages of at most `limit` ids that a directory of `count` ids takes. Even an empty
directory has a page, and no more can be asked for when pages have no room. -/
def pageCount (limit count : Nat) : Nat :=
  max 1 ((count + limit - 1) / limit)

theorem pageCount_of_le {limit count : Nat} (hcount : limit = 0 ∨ count ≤ limit) :
    pageCount limit count = 1 := by
  refine Nat.max_eq_left ?_
  obtain hlimit | hlimit := Nat.eq_zero_or_pos limit
  · rw [hlimit, Nat.div_zero]
    exact Nat.zero_le 1
  · exact Nat.le_of_lt_succ (Nat.div_lt_of_lt_mul (by omega))

theorem pageCount_of_lt {limit count : Nat} (hlimit : 0 < limit) (hcount : limit < count) :
    pageCount limit count = pageCount limit (count - limit) + 1 := by
  have hrest : (count + limit - 1) / limit = (count - limit + limit - 1) / limit + 1 := by
    rw [← Nat.add_div_right _ hlimit]
    congr 1
    omega
  have hpositive : 1 ≤ (count - limit + limit - 1) / limit :=
    (Nat.one_le_div_iff hlimit).2 (by omega)
  rw [pageCount, pageCount, hrest, Nat.max_eq_right hpositive,
    Nat.max_eq_right (Nat.le_add_left 1 _)]

/-- The calls that list these pages, each from where the one before ended. -/
def listings (limit start count : Nat) : List Call :=
  (List.range (pageCount limit count)).map fun index =>
    .listChannels (start + index * limit).toUInt32

theorem toUInt32_add_zero_mul (limit : Nat) (start : UInt32) :
    (start.toNat + 0 * limit).toUInt32 = start := by
  rw [Nat.zero_mul, Nat.add_zero]
  exact UInt32.ofNat_toNat

theorem listings_of_le {limit count : Nat} (start : UInt32) (hcount : limit = 0 ∨ count ≤ limit) :
    listings limit start.toNat count = [.listChannels start] := by
  rw [listings, pageCount_of_le hcount, List.range_one, List.map_singleton,
    toUInt32_add_zero_mul]

theorem listings_of_lt {limit count : Nat} (start : UInt32) (hlimit : 0 < limit)
    (hcount : limit < count) :
    listings limit start.toNat count =
      .listChannels start :: listings limit (start.toNat + limit) (count - limit) := by
  rw [listings, pageCount_of_lt hlimit hcount, List.range_succ_eq_map, List.map_cons,
    toUInt32_add_zero_mul, List.map_map]
  refine congrArg (Call.listChannels start :: ·) (List.map_congr_left fun index _ => ?_)
  rw [Function.comp_apply, Nat.succ_mul, Nat.add_assoc, Nat.add_comm limit]

namespace Setup

/-- A remote that offers some channels more; one that is offered again is changed again. -/
def offering (setup : Setup κ) (offers : List (UInt32 × (Channel κ → Channel κ))) : Setup κ :=
  offers.foldl (fun setup offer => setup.withChannel offer.1 offer.2) setup

theorem mem_updateChannel (id : UInt32) (change : Channel κ → Channel κ)
    (channels : List (UInt32 × Channel κ)) (other : UInt32) :
    other ∈ (updateChannel id change channels).map Prod.fst ↔
      other = id ∨ other ∈ channels.map Prod.fst := by
  induction channels with
  | nil => simp [updateChannel]
  | cons entry rest ih =>
    obtain ⟨first, channel⟩ := entry
    unfold updateChannel
    by_cases hbefore : id < first
    · rw [if_pos hbefore, List.map_cons, List.mem_cons]
    rw [if_neg hbefore]
    by_cases hsame : id = first
    · subst hsame
      rw [if_pos rfl, List.map_cons, List.map_cons, List.mem_cons, or_self_left]
    · rw [if_neg hsame, List.map_cons, List.map_cons, List.mem_cons, List.mem_cons, ih,
        or_left_comm]

/-- Changing a channel keeps the channels in ascending order. -/
theorem pairwise_updateChannel {channels : List (UInt32 × Channel κ)}
    (hascending : (channels.map Prod.fst).Pairwise (· < ·)) (id : UInt32)
    (change : Channel κ → Channel κ) :
    ((updateChannel id change channels).map Prod.fst).Pairwise (· < ·) := by
  induction channels with
  | nil => exact List.pairwise_singleton _ _
  | cons entry rest ih =>
    obtain ⟨first, channel⟩ := entry
    obtain ⟨hfirst, hrest⟩ := List.pairwise_cons.1 hascending
    unfold updateChannel
    by_cases hbefore : id < first
    · rw [if_pos hbefore]
      refine List.pairwise_cons.2 ⟨?_, hascending⟩
      intro other hother
      obtain rfl | hother := List.mem_cons.1 hother
      · exact hbefore
      · exact UInt32.lt_trans hbefore (hfirst other hother)
    rw [if_neg hbefore]
    by_cases hsame : id = first
    · rw [if_pos hsame, List.map_cons, hsame]
      exact hascending
    · rw [if_neg hsame]
      refine List.pairwise_cons.2 ⟨?_, ih hrest⟩
      intro other hother
      obtain rfl | hother := (mem_updateChannel id change rest other).1 hother
      · exact UInt32.lt_of_le_of_ne (UInt32.not_lt.1 hbefore) (Ne.symm hsame)
      · exact hfirst other hother

/-- The directory lists the channels that were offered, in ascending order and each once. -/
theorem ids_offering (offers : List (UInt32 × (Channel κ → Channel κ))) {setup : Setup κ}
    (hascending : setup.ids.Pairwise (· < ·)) :
    (setup.offering offers).ids.Pairwise (· < ·) ∧
      ∀ id, id ∈ (setup.offering offers).ids ↔ id ∈ setup.ids ∨ id ∈ offers.map Prod.fst := by
  induction offers generalizing setup with
  | nil => exact ⟨hascending, fun id => by simp [offering]⟩
  | cons offer rest ih =>
    have hchanged : (setup.withChannel offer.1 offer.2).ids.Pairwise (· < ·) :=
      pairwise_updateChannel hascending offer.1 offer.2
    obtain ⟨hlater, hmem⟩ := ih hchanged
    refine ⟨hlater, fun id => (hmem id).trans ?_⟩
    rw [List.map_cons, List.mem_cons, ← or_assoc, or_comm (a := id ∈ setup.ids)]
    exact or_congr_left (mem_updateChannel offer.1 offer.2 setup.channels id)

theorem length_pageAt (setup : Setup κ) (start : Nat) :
    (setup.pageAt start).length = min setup.pageLimit.toNat (setup.ids.length - start) := by
  rw [pageAt, List.length_take, List.length_drop]

/-- A page is the last when all that is left fits on it. -/
theorem Lists.remaining_eq_zero_iff (hlists : setup.Lists) (start : Nat) :
    (setup.page start).remaining = 0 ↔ setup.ids.length - start ≤ setup.pageLimit.toNat := by
  rw [← UInt32.toNat_inj, hlists.toNat_remaining, length_pageAt, UInt32.toNat_zero]
  omega

/-- A page has nothing on it when it has no room, or when nothing is left. -/
theorem Lists.returned_eq_zero_iff (hlists : setup.Lists) (start : Nat) :
    (setup.page start).returned = 0 ↔
      setup.pageLimit.toNat = 0 ∨ setup.ids.length - start = 0 := by
  rw [← UInt32.toNat_inj, hlists.toNat_returned, length_pageAt, UInt32.toNat_zero]
  omega

/-- The page after one that is not the last starts where that one ends. -/
theorem Lists.toNat_next (hlists : setup.Lists) {start : UInt32}
    (hmore : setup.pageLimit.toNat < setup.ids.length - start.toNat) :
    (Page.next start (setup.page start.toNat).returned).toNat =
      start.toNat + setup.pageLimit.toNat := by
  have hcountable := hlists.countable
  have hreturned : (setup.page start.toNat).returned.toNat = setup.pageLimit.toNat := by
    rw [hlists.toNat_returned, length_pageAt, Nat.min_eq_left (Nat.le_of_lt hmore)]
  have hsum : start.toNat + (setup.page start.toNat).returned.toNat < UInt32.size := by omega
  rw [Page.next, if_pos hsum, UInt32.toNat_add, Nat.mod_eq_of_lt hsum, hreturned]

end Setup

variable {endpoint : Endpoint (State κ × α)} {buffer : SharedBuffer}

/-- A walk from an index on gathers what the directory has from there on. -/
theorem channelIdsFrom_connected (allocate : UInt64 → α → Option Region × α)
    (release : Region → α → α) (hconnected : Connected setup buffer endpoint)
    (hlists : setup.Lists) (budget : Nat) (start : UInt32)
    (hstart : start.toNat ≤ setup.ids.length)
    (hbudget : pageCount setup.pageLimit.toNat (setup.ids.length - start.toNat) ≤ budget) :
    let limit := setup.pageLimit.toNat
    let rest := setup.ids.drop start.toNat
    let result := (channelIdsFrom (platform setup allocate release) budget start).run endpoint
    result.1 = (if limit = 0 ∧ rest ≠ [] then .error .unsupported
      else .ok (some (rest.map ChannelId.mk))) ∧
    Received (listings limit start.toNat rest.length) endpoint result.2 := by
  intro limit
  induction budget generalizing endpoint start with
  | zero => exact absurd (Nat.le_trans (Nat.le_max_left 1 _) hbudget) (Nat.not_succ_le_zero 0)
  | succ budget ih =>
    intro rest
    obtain ⟨houtcome, hreceived⟩ :=
      channelIds_connected allocate release hconnected hlists hstart
    have hlength : rest.length = setup.ids.length - start.toNat := List.length_drop
    have hremaining := hlists.remaining_eq_zero_iff start.toNat
    have hreturned := hlists.returned_eq_zero_iff start.toNat
    rw [← hlength] at hbudget hremaining hreturned
    rw [channelIdsFrom, run_bind]
    generalize (channelIds (platform setup allocate release) start).run endpoint = read
      at houtcome hreceived ⊢
    obtain ⟨outcome, middle⟩ := read
    cases houtcome
    by_cases hlast : (setup.page start.toNat).remaining = 0
    · -- The last page has all that was left.
      have hshort : rest.length ≤ limit := hremaining.1 hlast
      have hall : (setup.page start.toNat).ids = rest.map ChannelId.mk :=
        congrArg (List.map ChannelId.mk) (List.take_of_length_le hshort)
      have hsome : ¬(limit = 0 ∧ rest ≠ []) := by
        rintro ⟨hlimit, hrest⟩
        exact hrest (List.length_eq_zero_iff.1 (by omega))
      rw [if_neg hsome, listings_of_le start (.inr hshort)]
      simp only [if_pos hlast, run_pure, hall]
      exact ⟨trivial, hreceived⟩
    simp only [if_neg hlast]
    have hmore : limit < rest.length := Nat.lt_of_not_ge fun hend => hlast (hremaining.2 hend)
    have hsome : rest ≠ [] := List.ne_nil_of_length_pos (Nat.zero_lt_of_lt hmore)
    by_cases hempty : (setup.page start.toNat).returned = 0
    · -- A page has no room for any of the ids that are left.
      have hnone : limit = 0 ∧ rest ≠ [] :=
        ⟨(hreturned.1 hempty).resolve_right (by omega), hsome⟩
      rw [if_pos hnone, listings_of_le start (.inl hnone.1)]
      simp only [if_pos hempty, run_bind, run_throw]
      exact ⟨trivial, hreceived⟩
    have hlimit : limit ≠ 0 := fun hlimit => hempty (hreturned.2 (.inl hlimit))
    have hnext : (Page.next start (setup.page start.toNat).returned).toNat =
        start.toNat + limit :=
      hlists.toNat_next (by rw [← hlength]; exact hmore)
    have hlater : (rest.drop limit).length = rest.length - limit := List.length_drop
    rw [pageCount_of_lt (Nat.pos_of_ne_zero hlimit) hmore] at hbudget
    obtain ⟨hresult, hcalls⟩ := ih (hreceived.connected hconnected)
      (Page.next start (setup.page start.toNat).returned) (by omega)
      (by rw [hnext, Nat.sub_add_eq, ← hlength]; exact Nat.le_of_succ_le_succ hbudget)
    rw [hnext, ← List.drop_drop] at hresult hcalls
    rw [hlater] at hcalls
    have hroom : ∀ ids : List UInt32, ¬(limit = 0 ∧ ids ≠ []) := fun _ hnone => hlimit hnone.1
    rw [if_neg (hroom _)] at hresult
    rw [if_neg (hroom _)]
    simp only [if_neg hempty, run_bind]
    generalize (channelIdsFrom (platform setup allocate release) budget
      (Page.next start (setup.page start.toNat).returned)).run middle = walked at hresult hcalls ⊢
    obtain ⟨outcome, last⟩ := walked
    cases hresult
    refine ⟨?_, ?_⟩
    · have hids : (setup.page start.toNat).ids = (rest.take limit).map ChannelId.mk := rfl
      simp only [run_pure, Option.map_some, hids, ← List.map_append]
      exact congrArg (fun ids => Except.ok (some (ids.map ChannelId.mk)))
        (List.take_append_drop limit rest)
    · rw [listings_of_lt start (Nat.pos_of_ne_zero hlimit) hmore]
      exact hreceived.trans hcalls

/-- A walk over the directory loses and repeats nothing: whatever an endpoint that is alone on a
remote has done before, once it is initialised the walk ends and returns the channels that the
remote offers, in ascending order and each once, whatever the length of a page and the size of the
shared memory. It lists as many pages as the directory takes, each from where the one before ended.
When pages have no room for any id, and there is one, the walk fails after its first page. The
remote is assumed not to refuse to set the shared memory with the code that means success. -/
theorem allChannelIds_complete {base : Setup κ} (hbase : base.channels = [])
    (offers : List (UInt32 × (Channel κ → Channel κ)))
    (hreports : (base.offering offers).Reports) (hlists : (base.offering offers).Lists)
    (hgrants : Grants allocate) (release : Region → α → α) (agents : κ) (pages : α)
    (before : List Operation) (budget : Nat)
    (hbudget : pageCount (base.offering offers).pageLimit.toNat
      (base.offering offers).ids.length ≤ budget) :
    let setup := base.offering offers
    let platform := platform setup allocate release
    let start := afterAll platform
      { buffer := none, world := .fresh (.initial setup agents, pages) } before
    start.isInitialized = true →
      let limit := setup.pageLimit.toNat
      let result := (allChannelIds platform budget).run start
      (setup.ids.Pairwise (· < ·) ∧ ∀ id, id ∈ setup.ids ↔ id ∈ offers.map Prod.fst) ∧
      result.1 = (if limit = 0 ∧ setup.ids ≠ [] then .error .unsupported
        else .ok (some (setup.ids.map ChannelId.mk))) ∧
      result.2.world.state.1.calls = start.world.state.1.calls ++
        (List.range (pageCount limit setup.ids.length)).map fun index =>
          .listChannels (index * limit).toUInt32 := by
  intro setup platform start hinitialized limit result
  have halone : Alone setup start :=
    afterAll_of_after (fun _ operation halone => halone.after hreports hgrants release operation)
      ⟨⟨rfl, rfl⟩, fun _ hbuffer => nomatch hbuffer⟩ before
  obtain ⟨buffer, hbuffer⟩ := Option.isSome_iff_exists.1 hinitialized
  have hids : base.ids = [] := congrArg (List.map Prod.fst) hbase
  have hnone : base.ids.Pairwise (· < ·) := by
    rw [hids]
    exact List.Pairwise.nil
  obtain ⟨hascending, hmem⟩ := Setup.ids_offering offers hnone
  obtain ⟨hresult, hcalls⟩ := channelIdsFrom_connected allocate release
    (halone.connected hbuffer) hlists budget 0 (Nat.zero_le _) hbudget
  have hzero : (0 : UInt32).toNat = 0 := rfl
  simp only [listings, hzero, List.drop_zero, Nat.zero_add] at hresult hcalls
  refine ⟨⟨hascending, fun id => (hmem id).trans ?_⟩, hresult, hcalls.calls_eq⟩
  rw [hids, or_iff_right List.not_mem_nil]

/-- Five channels, offered in no order and one of them twice, take three pages of two ids, for which
the shared memory has just enough room. -/
theorem allChannelIds_three_pages :
    let base : Setup Unit := { size := 16, pageLimit := 2 }
    let offers := [(9, id), (3, id), (12, id), (1, id), (3, id), (4, id)]
    let setup := base.offering offers
    let platform := platform setup Heap.allocate Heap.release
    let start := afterAll platform
      { buffer := none, world := .fresh (.initial setup (), Heap.fresh) } [.init]
    let result := (allChannelIds platform 3).run start
    base.channels = [] ∧ setup.Reports ∧ setup.Lists ∧ Grants Heap.allocate ∧
      pageCount setup.pageLimit.toNat setup.ids.length ≤ 3 ∧ start.isInitialized = true ∧
      result.1 = .ok (some [⟨1⟩, ⟨3⟩, ⟨4⟩, ⟨9⟩, ⟨12⟩]) ∧
      result.2.world.state.1.calls =
        start.world.state.1.calls ++ [.listChannels 0, .listChannels 2, .listChannels 4] := by
  intro base offers setup platform start result
  have hreports : setup.Reports := ⟨nofun, nofun⟩
  have hlists : setup.Lists := ⟨rfl, rfl, by decide, by decide⟩
  have hbudget : pageCount setup.pageLimit.toNat setup.ids.length ≤ 3 := by decide
  obtain ⟨-, hresult, hcalls⟩ := allChannelIds_complete rfl offers hreports hlists grants_heap
    Heap.release () Heap.fresh [.init] 3 hbudget (by decide)
  exact ⟨rfl, hreports, hlists, grants_heap, hbudget, by decide, hresult.trans rfl,
    hcalls.trans (congrArg _ (by decide))⟩

end MessageProxy.Remote
