import MessageProxy.Proofs.Endpoint.Skipping
import MessageProxy.Proofs.Endpoint.Untrusted

/-!
How far a walk over the directory gets when the firmware may list what it likes.

Every page that is not the last moves a walk on, so the indices that it asks for rise. The index
behind a page stops at the largest one, though: firmware that has an id there and says that more
are pending is asked for it again and again.
-/

namespace MessageProxy

/-- The index from which a listing lists. -/
def Call.start? (call : Call) : Option UInt32 :=
  if call.extension = Extension.messageProxy ∧ call.function = ProxyFunction.listChannels then
    call.arguments.head?.map UInt64.toUInt32
  else none

theorem Call.start?_listChannels (start : UInt32) : (listChannels start).start? = some start :=
  congrArg some (UInt32.toUInt32_toUInt64 start)

theorem Call.start?_readAttributes (channel : ChannelId) (first count : UInt32) :
    (readAttributes channel first count).start? = none :=
  rfl

namespace World

variable {σ : Type}

/-- The indices from which the directory was listed so far, in order. -/
def starts (world : World σ) : List UInt32 :=
  world.calls.filterMap Call.start?

theorem Matches.starts_eq {world other : World σ} (hmatches : Matches world other) :
    other.starts = world.starts := by
  unfold starts
  rw [hmatches.calls_eq]

theorem starts_called (platform : Platform σ) (call : Call) (world : World σ) :
    (world.called platform call).starts = world.starts ++ call.start?.toList := by
  unfold starts
  rw [calls_of_deeds (deeds_called platform world call), List.filterMap_append]
  cases hstart : call.start? with
  | none => simp [Event.call?, hstart]
  | some start => simp [Event.call?, hstart]

theorem starts_noted (notice : Notice) (world : World σ) :
    (world.noted notice).starts = world.starts :=
  ((Matches.refl world).noted notice).starts_eq

/-- Only listings list. -/
theorem steady_starts (platform : Platform σ) (buffer : SharedBuffer) {allowed : Call → Prop}
    (hallowed : ∀ call, allowed call → call.start? = none) (indices : List UInt32) :
    Steady platform buffer allowed fun world => world.starts = indices where
  noted world notice hworld := (starts_noted notice world).trans hworld
  stored _ _ _ hworld := hworld
  called world call hcall hworld := by
    rw [starts_called, hallowed call hcall, hworld]
    exact List.append_nil _

end World

namespace Endpoint

theorem Page.next_top (returned : UInt32) : Page.next 0xFFFFFFFF returned = 0xFFFFFFFF := by
  have htop : (0xFFFFFFFF : UInt32).toNat = 0xFFFFFFFF := rfl
  have hsize : UInt32.size = 0x100000000 := rfl
  unfold Page.next
  by_cases hroom : (0xFFFFFFFF : UInt32).toNat + returned.toNat < UInt32.size
  · have hzero : returned = 0 := UInt32.toNat_inj.1 (show returned.toNat = 0 by omega)
    rw [if_pos hroom, hzero, UInt32.add_zero]
  · rw [if_neg hroom]

/-- The index behind a page that is not empty is larger, as long as there is a larger one. -/
theorem Page.lt_next {start returned : UInt32} (hstart : start ≠ 0xFFFFFFFF)
    (hreturned : returned ≠ 0) : start < Page.next start returned := by
  have hbound := start.toNat_lt
  have htop : (0xFFFFFFFF : UInt32).toNat = 0xFFFFFFFF := rfl
  have hsize : UInt32.size = 0x100000000 := rfl
  have hbelow : start.toNat ≠ 0xFFFFFFFF := fun hsame => hstart (UInt32.toNat_inj.1 hsame)
  have hpositive : returned.toNat ≠ 0 := fun hzero => hreturned (UInt32.toNat_inj.1 hzero)
  unfold Page.next
  rw [UInt32.lt_iff_toNat_lt]
  by_cases hroom : start.toNat + returned.toNat < UInt32.size
  · rw [if_pos hroom, UInt32.toNat_add]
    omega
  · rw [if_neg hroom, htop]
    omega

/-- No index is smaller than `start`, and each is larger than the one before, up to the largest index
of all, which is all that comes then. -/
def RisesFrom (start : UInt32) (indices : List UInt32) : Prop :=
  ∃ rising again, indices = rising ++ List.replicate again 0xFFFFFFFF ∧
    (rising ++ [0xFFFFFFFF]).Pairwise (· < ·) ∧ (∀ index ∈ rising, start ≤ index) ∧
    start.toNat + rising.length ≤ 0xFFFFFFFF

namespace RisesFrom

variable {start next : UInt32} {indices : List UInt32}

theorem nil (start : UInt32) : RisesFrom start [] := by
  refine ⟨[], 0, rfl, List.pairwise_singleton _ _, ?_, Nat.le_of_lt_succ start.toNat_lt⟩
  exact fun _ hindex => absurd hindex List.not_mem_nil

theorem cons_of_lt (hnext : start < next) (hrises : RisesFrom next indices) :
    RisesFrom start (start :: indices) := by
  obtain ⟨rising, again, rfl, hascending, hfrom, hlength⟩ := hrises
  have hbound := next.toNat_lt
  rw [UInt32.lt_iff_toNat_lt] at hnext
  refine ⟨start :: rising, again, rfl, List.pairwise_cons.2 ⟨?_, hascending⟩, ?_, ?_⟩
  · intro index hindex
    rw [UInt32.lt_iff_toNat_lt]
    obtain hindex | hindex := List.mem_append.1 hindex
    · have hlater := UInt32.le_iff_toNat_le.1 (hfrom index hindex)
      omega
    · rw [List.mem_singleton.1 hindex]
      exact Nat.lt_of_lt_of_le hnext (Nat.le_of_lt_succ hbound)
  · intro index hindex
    rw [UInt32.le_iff_toNat_le]
    obtain rfl | hindex := List.mem_cons.1 hindex
    · exact Nat.le_refl _
    · have hlater := UInt32.le_iff_toNat_le.1 (hfrom index hindex)
      omega
  · rw [List.length_cons]
    omega

theorem cons_top (hrises : RisesFrom 0xFFFFFFFF indices) :
    RisesFrom 0xFFFFFFFF (0xFFFFFFFF :: indices) := by
  obtain ⟨rising, again, rfl, hascending, hfrom, hlength⟩ := hrises
  have htop : (0xFFFFFFFF : UInt32).toNat = 0xFFFFFFFF := rfl
  -- nothing rises from the largest index on
  have hnone : rising = [] := List.length_eq_zero_iff.1 (by omega)
  rw [hnone] at hascending hfrom hlength ⊢
  exact ⟨[], again + 1, rfl, hascending, hfrom, hlength⟩

theorem singleton (start : UInt32) : RisesFrom start [start] := by
  by_cases hstart : start = 0xFFFFFFFF
  · rw [hstart]
    exact (nil _).cons_top
  · have hnext := Page.lt_next hstart (show (1 : UInt32) ≠ 0 by decide)
    exact (nil _).cons_of_lt hnext

/-- Only the largest index may come again, so a walk that asks for more indices than there are asks
for it twice. -/
theorem not_pairwise (hrises : RisesFrom start indices) (hlength : UInt32.size < indices.length) :
    ¬indices.Pairwise (· < ·) := by
  obtain ⟨rising, again, rfl, -, -, hrising⟩ := hrises
  intro hascending
  have hsize : UInt32.size = 0x100000000 := rfl
  rw [List.length_append, List.length_replicate] at hlength
  have htwice := List.pairwise_replicate.1 (List.pairwise_append.1 hascending).2.1
  obtain honce | hless := htwice
  · omega
  · exact absurd hless (by decide)

end RisesFrom

variable {σ α β : Type} {platform : Platform σ} {endpoint : Endpoint σ} {held : Option SharedBuffer}
  {start : UInt32} {indices : List UInt32}

/-- The firmware lists nothing at the largest index, or says that nothing is pending behind it. -/
def StopsAtTop (platform : Platform σ) (held : Option SharedBuffer) : Prop :=
  ∀ (endpoint : Endpoint σ) page, endpoint.buffer = held →
    ((channelIds platform 0xFFFFFFFF).run endpoint).1 = .ok page →
    page.returned = 0 ∨ page.remaining = 0

/-- The indices that a walk from `start` on may ask for: it goes on behind a page that has ids when
more are pending. -/
inductive Walks (platform : Platform σ) (held : Option SharedBuffer) :
    UInt32 → List UInt32 → Prop where
  | stopped (start : UInt32) : Walks platform held start []
  | last (start : UInt32) : Walks platform held start [start]
  | more {start : UInt32} {indices : List UInt32} {endpoint : Endpoint σ} {page : Page}
      (hheld : endpoint.buffer = held)
      (hpage : ((channelIds platform start).run endpoint).1 = .ok page)
      (hremaining : page.remaining ≠ 0) (hreturned : page.returned ≠ 0)
      (hrest : Walks platform held (Page.next start page.returned) indices) :
    Walks platform held start (start :: indices)

namespace Walks

theorem rises (hwalks : Walks platform held start indices) : RisesFrom start indices := by
  induction hwalks with
  | stopped start => exact .nil start
  | last start => exact .singleton start
  | @more start indices _ page _ _ _ hreturned _ ih =>
    by_cases hstart : start = 0xFFFFFFFF
    · rw [hstart, Page.next_top] at ih
      rw [hstart]
      exact ih.cons_top
    · exact ih.cons_of_lt (Page.lt_next hstart hreturned)

/-- Without more behind the largest index, no index is asked for twice. -/
theorem ascending (hstops : StopsAtTop platform held)
    (hwalks : Walks platform held start indices) :
    indices.Pairwise (· < ·) ∧ ∀ index ∈ indices, start ≤ index := by
  induction hwalks with
  | stopped start => exact ⟨.nil, fun _ hindex => absurd hindex List.not_mem_nil⟩
  | last start =>
    refine ⟨List.pairwise_singleton _ _, fun index hindex => ?_⟩
    rw [List.mem_singleton.1 hindex]
    exact UInt32.le_refl _
  | @more start indices endpoint page hheld hpage hremaining hreturned _ ih =>
    obtain ⟨hascending, hfrom⟩ := ih
    have hstart : start ≠ 0xFFFFFFFF := by
      rintro rfl
      exact (hstops endpoint page hheld hpage).elim hreturned hremaining
    have hnext := Page.lt_next hstart hreturned
    have hlater (index : UInt32) (hindex : index ∈ indices) : start < index :=
      UInt32.lt_of_lt_of_le hnext (hfrom index hindex)
    refine ⟨List.pairwise_cons.2 ⟨hlater, hascending⟩, List.forall_mem_cons.2 ⟨?_, ?_⟩⟩
    · exact UInt32.le_refl _
    · exact fun index hindex => UInt32.le_of_lt (hlater index hindex)

end Walks

/-- A page is asked for once. -/
theorem starts_channelIds (platform : Platform σ) {buffer : SharedBuffer}
    (hbuffer : endpoint.buffer = some buffer) (start : UInt32) :
    let result := (channelIds platform start).run endpoint
    result.2.buffer = some buffer ∧ result.2.world.starts = endpoint.world.starts ++ [start] := by
  dsimp only
  have hcalled : (endpoint.world.called platform (.listChannels start)).starts =
      endpoint.world.starts ++ [start] := by
    rw [World.starts_called, Call.start?_listChannels]
    rfl
  by_cases hanswer : (endpoint.world.answer platform (.listChannels start)).error = 0
  · obtain ⟨world, hrun, hmatches⟩ := run_channelIds_listed hbuffer hanswer
    rw [hrun]
    exact ⟨hbuffer, hmatches.starts_eq.trans hcalled⟩
  · rw [run_channelIds_of_ne hbuffer hanswer]
    exact ⟨hbuffer, hcalled⟩

/-- Looking through a page lists nothing. -/
theorem starts_firstWith (platform : Platform σ) {buffer : SharedBuffer}
    (hbuffer : endpoint.buffer = some buffer) (key value : UInt32) (channels : List ChannelId) :
    let result := (firstWith platform key value channels).run endpoint
    result.2.buffer = some buffer ∧ result.2.world.starts = endpoint.world.starts := by
  have hsteady : World.Steady platform buffer (fun call => call.start? = none) _ :=
    World.steady_starts platform buffer (fun _ hcall => hcall) endpoint.world.starts
  exact keeps_firstWith hsteady Call.start?_readAttributes key value channels endpoint
    ⟨hbuffer, rfl⟩

/-- What a walk came to from one endpoint: the indices that it asked for are those of a walk from
`start` on, as many as its budget when it spent it. -/
def Walked (platform : Platform σ) (budget : Nat) (start : UInt32) (endpoint : Endpoint σ)
    (result : Except Fault (Option α) × Endpoint σ) : Prop :=
  ∃ indices, Walks platform endpoint.buffer start indices ∧
    result.2.world.starts = endpoint.world.starts ++ indices ∧
    (result.1 = .ok none → indices.length = budget)

namespace Walked

variable {budget : Nat} {result : Except Fault (Option α) × Endpoint σ}

theorem last (hstarts : result.2.world.starts = endpoint.world.starts ++ [start])
    (hended : result.1 ≠ .ok none) : Walked platform (budget + 1) start endpoint result :=
  ⟨[start], .last start, hstarts, fun hspent => absurd hspent hended⟩

theorem more {middle : Endpoint σ} {page : Page}
    (hpage : ((channelIds platform start).run endpoint).1 = .ok page)
    (hremaining : page.remaining ≠ 0) (hreturned : page.returned ≠ 0)
    (hbuffer : middle.buffer = endpoint.buffer)
    (hstarts : middle.world.starts = endpoint.world.starts ++ [start])
    (hrest : Walked platform budget (Page.next start page.returned) middle result) :
    Walked platform (budget + 1) start endpoint result := by
  obtain ⟨indices, hwalks, hlater, hspent⟩ := hrest
  rw [hbuffer] at hwalks
  refine ⟨start :: indices, .more rfl hpage hremaining hreturned hwalks, ?_, ?_⟩
  · rw [hlater, hstarts, List.append_assoc, List.singleton_append]
  · intro hnone
    rw [List.length_cons, hspent hnone]

/-- A walk asks for a page first; what it makes of one decides. -/
theorem bind_channelIds {next : Page → Action σ (Option α)}
    (hnext : ∀ page buffer middle, endpoint.buffer = some buffer →
      ((channelIds platform start).run endpoint).1 = .ok page →
      middle.buffer = some buffer →
      middle.world.starts = endpoint.world.starts ++ [start] →
      Walked platform (budget + 1) start endpoint ((next page).run middle)) :
    Walked platform (budget + 1) start endpoint
      ((channelIds platform start >>= next).run endpoint) := by
  rw [run_bind]
  cases hbuffer : endpoint.buffer with
  | none =>
    rw [run_channelIds_none hbuffer]
    exact ⟨[], .stopped start, (List.append_nil _).symm, fun hspent => nomatch hspent⟩
  | some buffer =>
    obtain ⟨hsame, hstarts⟩ := starts_channelIds platform hbuffer start
    rcases hrun : (channelIds platform start).run endpoint with ⟨fault | page, middle⟩
    · rw [hrun] at hstarts
      exact .last hstarts fun hspent => nomatch hspent
    · rw [hrun] at hsame hstarts
      exact hnext page buffer middle hbuffer (by rw [hrun]) hsame hstarts

/-- What is made of the result of a walk does not change how it went. -/
theorem bind_map {action : Action σ (Option α)} {change : α → β} {middle : Endpoint σ}
    (hwalked : Walked platform budget start endpoint (action.run middle)) :
    Walked platform budget start endpoint
      ((action >>= fun found => pure (found.map change)).run middle) := by
  obtain ⟨indices, hwalks, hlater, hspent⟩ := hwalked
  rw [run_bind]
  rcases hrun : action.run middle with ⟨fault | found, later⟩
  · rw [hrun] at hlater
    exact ⟨indices, hwalks, hlater, fun hnone => nomatch hnone⟩
  · rw [hrun] at hlater hspent
    refine ⟨indices, hwalks, hlater, fun hnone => hspent ?_⟩
    cases found with
    | none => rfl
    | some value => cases hnone

end Walked

theorem channelIdsFrom_walked (platform : Platform σ) (budget : Nat) (start : UInt32)
    (endpoint : Endpoint σ) :
    Walked platform budget start endpoint
      ((channelIdsFrom platform budget start).run endpoint) := by
  induction budget generalizing start endpoint with
  | zero => exact ⟨[], .stopped start, (List.append_nil _).symm, fun _ => rfl⟩
  | succ budget ih =>
    refine .bind_channelIds fun page buffer middle hbuffer hpage hsame hstarts => ?_
    by_cases hremaining : page.remaining = 0
    · rw [if_pos hremaining]
      exact .last hstarts fun hspent => nomatch hspent
    rw [if_neg hremaining]
    by_cases hreturned : page.returned = 0
    · rw [if_pos hreturned]
      exact .last hstarts fun hspent => nomatch hspent
    rw [if_neg hreturned]
    exact .more hpage hremaining hreturned (hsame.trans hbuffer.symm) hstarts
      (.bind_map (ih _ middle))

theorem findChannelFrom_walked (platform : Platform σ) (key value : UInt32) (budget : Nat)
    (start : UInt32) (endpoint : Endpoint σ) :
    Walked platform budget start endpoint
      ((findChannelFrom platform key value budget start).run endpoint) := by
  induction budget generalizing start endpoint with
  | zero => exact ⟨[], .stopped start, (List.append_nil _).symm, fun _ => rfl⟩
  | succ budget ih =>
    refine .bind_channelIds fun page buffer middle hbuffer hpage hsame hstarts => ?_
    by_cases hreturned : page.returned = 0
    · rw [if_pos hreturned, run_bind, run_refuse]
      exact .last ((World.starts_noted _ _).trans hstarts) fun hspent => nomatch hspent
    rw [if_neg hreturned, run_bind]
    obtain ⟨hlater, hread⟩ := starts_firstWith platform hsame key value page.ids
    rcases hrun : (firstWith platform key value page.ids).run middle with
      ⟨fault | found, later⟩
    · rw [hrun] at hread
      exact .last (hread.trans hstarts) fun hspent => nomatch hspent
    rw [hrun] at hlater hread
    cases found with
    | some channel => exact .last (hread.trans hstarts) fun hspent => nomatch hspent
    | none =>
      by_cases hremaining : page.remaining = 0
      · simp only [if_pos hremaining, run_bind, run_refuse]
        exact .last ((World.starts_noted _ _).trans (hread.trans hstarts)) fun hspent =>
          nomatch hspent
      simp only [if_neg hremaining]
      exact .more hpage hremaining hreturned (hlater.trans hbuffer.symm) (hread.trans hstarts)
        (ih _ later)

/-- Where the first walk ends, the second comes to the same. -/
def Settles (first second : Action σ (Option α)) : Prop :=
  ∀ endpoint, (first.run endpoint).1 ≠ .ok none → second.run endpoint = first.run endpoint

namespace Settles

variable {first second third : Action σ (Option α)}

theorem refl (walk : Action σ (Option α)) : Settles walk walk :=
  fun _ _ => rfl

theorem trans (hfirst : Settles first second) (hsecond : Settles second third) :
    Settles first third := by
  intro endpoint hended
  have hsame := hfirst endpoint hended
  rw [← hsame] at hended
  exact (hsecond endpoint hended).trans hsame

theorem bind {action : Action σ β} {first second : β → Action σ (Option α)}
    (hnext : ∀ value, Settles (first value) (second value)) :
    Settles (action >>= first) (action >>= second) := by
  intro endpoint hended
  rw [run_bind] at hended ⊢
  rw [run_bind]
  rcases hrun : action.run endpoint with ⟨fault | value, middle⟩
  · rfl
  · rw [hrun] at hended
    exact hnext value middle hended

theorem bind_map {change : α → β} (hwalk : Settles first second) :
    Settles (first >>= fun found => pure (found.map change))
      (second >>= fun found => pure (found.map change)) := by
  intro endpoint hended
  have hfirst : (first.run endpoint).1 ≠ .ok none := by
    intro hspent
    rw [run_bind, ← Prod.eta (first.run endpoint), hspent] at hended
    exact hended rfl
  rw [run_bind, run_bind, hwalk endpoint hfirst]

theorem ite {condition : Prop} [Decidable condition] {first' second' : Action σ (Option α)}
    (hthen : Settles first second) (helse : Settles first' second') :
    Settles (if condition then first else first') (if condition then second else second') := by
  split
  · exact hthen
  · exact helse

end Settles

/-- A walk that ends within its budget is no other with a larger one. -/
theorem channelIdsFrom_settles (platform : Platform σ) (budget : Nat) (start : UInt32) :
    Settles (channelIdsFrom platform budget start)
      (channelIdsFrom platform (budget + 1) start) := by
  induction budget generalizing start with
  | zero => exact fun _ hended => absurd rfl hended
  | succ budget ih =>
    refine .bind fun page => .ite (.refl _) (.ite (.bind fun _ => ?_) ?_)
    · exact .bind_map (ih _)
    · exact .bind_map (ih _)

theorem findChannelFrom_settles (platform : Platform σ) (key value : UInt32) (budget : Nat)
    (start : UInt32) :
    Settles (findChannelFrom platform key value budget start)
      (findChannelFrom platform key value (budget + 1) start) := by
  induction budget generalizing start with
  | zero => exact fun _ hended => absurd rfl hended
  | succ budget ih =>
    refine .bind fun page => ?_
    have hpage : Settles (searchOn platform key value budget start page page.ids)
        (searchOn platform key value (budget + 1) start page page.ids) := by
      refine .bind fun found => ?_
      cases found with
      | some channel => exact .refl _
      | none => exact .ite (.bind fun _ => ih _) (ih _)
    exact .ite (.bind fun _ => hpage) hpage

theorem Settles.of_le {walk : Nat → Action σ (Option α)}
    (hsucc : ∀ budget, Settles (walk budget) (walk (budget + 1))) {budget more : Nat}
    (hmore : budget ≤ more) : Settles (walk budget) (walk more) := by
  induction hmore with
  | refl => exact .refl _
  | step _ ih => exact ih.trans (hsucc _)

/-- How walks over the directory get on from any endpoint, whatever the firmware lists. The indices
that one asks for rise up to the largest one, which is asked for again as long as more is said to be
pending behind it. If it never is, every index is larger than the one before, and the walk ends
within as many pages as there are indices. A budget only cuts off a walk that goes on. -/
def Advances (platform : Platform σ) (walk : Nat → Action σ (Option α)) : Prop :=
  ∀ (endpoint : Endpoint σ) (budget : Nat),
    let result := (walk budget).run endpoint
    (∃ rising again,
      result.2.world.starts =
        endpoint.world.starts ++ (rising ++ List.replicate again (0xFFFFFFFF : UInt32)) ∧
      (rising ++ [0xFFFFFFFF]).Pairwise (· < ·) ∧
      (result.1 = .ok none → rising.length + again = budget) ∧
      (StopsAtTop platform endpoint.buffer →
        (rising ++ List.replicate again (0xFFFFFFFF : UInt32)).Pairwise (· < ·) ∧
          (UInt32.size < budget → result.1 ≠ .ok none))) ∧
    (result.1 ≠ .ok none → ∀ more ≥ budget, (walk more).run endpoint = result)

theorem advances_of_walked {walk : Nat → Action σ (Option α)}
    (hwalked : ∀ budget endpoint,
      Walked platform budget start endpoint ((walk budget).run endpoint))
    (hsettles : ∀ budget, Settles (walk budget) (walk (budget + 1))) :
    Advances platform walk := by
  intro endpoint budget
  obtain ⟨indices, hwalks, hstarts, hspent⟩ := hwalked budget endpoint
  have hrises := hwalks.rises
  have hends (hstops : StopsAtTop platform endpoint.buffer) (hbudget : UInt32.size < budget) :
      ((walk budget).run endpoint).1 ≠ .ok none := by
    intro hnone
    rw [← hspent hnone] at hbudget
    exact hrises.not_pairwise hbudget (hwalks.ascending hstops).1
  obtain ⟨rising, again, hindices, hascending, -, -⟩ := hrises
  subst hindices
  refine ⟨⟨rising, again, hstarts, hascending, ?_, ?_⟩, ?_⟩
  · intro hnone
    rw [← hspent hnone, List.length_append, List.length_replicate]
  · exact fun hstops => ⟨(hwalks.ascending hstops).1, hends hstops⟩
  · exact fun hended more hmore => Settles.of_le hsettles hmore endpoint hended

/-- Both walks over the directory get on. -/
theorem walks_advance (platform : Platform σ) (key value : UInt32) :
    Advances platform (allChannelIds platform) ∧
      Advances platform fun budget => findChannel platform budget key value :=
  ⟨advances_of_walked (fun budget => channelIdsFrom_walked platform budget 0)
      fun budget => channelIdsFrom_settles platform budget 0,
    advances_of_walked (fun budget => findChannelFrom_walked platform key value budget 0)
      fun budget => findChannelFrom_settles platform key value budget 0⟩

/-- Firmware whose shared memory holds one page of one id, at every index. -/
theorem run_channelIds_leaving {endpoint : Endpoint Heap}
    (hbuffer : endpoint.buffer = some ⟨⟨0x1000, 1, 0x1000⟩, 16⟩) (remaining id start : UInt32) :
    let firmware := Platform.leaving 16 (.success 0) (Bytes.ofWords [remaining, 1, id])
    ∃ world, (channelIds firmware start).run endpoint =
      (.ok ⟨[⟨id⟩], remaining, 1⟩, { endpoint with world }) := by
  intro firmware
  have hanswer : (endpoint.world.answer firmware (.listChannels start)).error = 0 := rfl
  have hshows : Shows (Region.mk 0x1000 1 0x1000) [remaining, 1, id]
      (endpoint.world.called firmware (.listChannels start)) := shows_store rfl
  exact ⟨_, run_channelIds_of_shows hbuffer (run_command_of_eq hanswer) hshows rfl
    (show 4 * (1 + 2) ≤ 16 by decide)⟩

/-- Nothing is ever pending, so both walks end with their first page. -/
theorem walks_advance_single :
    let firmware := Platform.leaving 16 (.success 0) (Bytes.ofWords [0, 1, 7])
    let endpoint := after firmware { buffer := none, world := .fresh .fresh } .init
    StopsAtTop firmware endpoint.buffer ∧
      ((allChannelIds firmware 1).run endpoint).1 = .ok (some [⟨7⟩]) ∧
      ∀ more ≥ 1, ((allChannelIds firmware more).run endpoint).1 = .ok (some [⟨7⟩]) := by
  intro firmware endpoint
  have hstops : StopsAtTop firmware endpoint.buffer := by
    intro other page hbuffer hpage
    obtain ⟨world, hrun⟩ := run_channelIds_leaving hbuffer 0 7 0xFFFFFFFF
    rw [hrun] at hpage
    cases hpage
    exact .inr rfl
  have hfirst : ((allChannelIds firmware 1).run endpoint).1 = .ok (some [⟨7⟩]) := rfl
  obtain ⟨-, hmore⟩ := (walks_advance firmware 0 0).1 endpoint 1
  refine ⟨hstops, hfirst, fun more hbudget => ?_⟩
  rw [hmore (by rw [hfirst]; exact fun hspent => nomatch hspent) more hbudget]
  exact hfirst

/-- Whatever its budget, the walk spends it, and it does not ask for a larger index every time. -/
def Endless (endpoint : Endpoint σ) (walk : Nat → Action σ (Option α)) : Prop :=
  (∀ budget, ((walk budget).run endpoint).1 = .ok none) ∧
    ∃ budget indices,
      ((walk budget).run endpoint).2.world.starts = endpoint.world.starts ++ indices ∧
        ¬indices.Pairwise (· < ·)

/-- A walk that never ends comes to ask for the largest index again. -/
theorem endless_of_walked {walk : Nat → Action σ (Option α)}
    (hwalked : ∀ budget, Walked platform budget start endpoint ((walk budget).run endpoint))
    (hspent : ∀ budget, ((walk budget).run endpoint).1 = .ok none) : Endless endpoint walk := by
  obtain ⟨indices, hwalks, hstarts, hlength⟩ := hwalked (UInt32.size + 1)
  refine ⟨hspent, UInt32.size + 1, indices, hstarts, hwalks.rises.not_pairwise ?_⟩
  rw [hlength (hspent _)]
  exact Nat.lt_succ_self _

section Leaving

variable {endpoint : Endpoint Heap}

theorem channelIdsFrom_leaving (hbuffer : endpoint.buffer = some ⟨⟨0x1000, 1, 0x1000⟩, 16⟩)
    (budget : Nat) (start : UInt32) :
    let firmware := Platform.leaving 16 (.success 0) (Bytes.ofWords [1, 1, 0])
    ((channelIdsFrom firmware budget start).run endpoint).1 = .ok none := by
  intro firmware
  induction budget generalizing start endpoint with
  | zero => rfl
  | succ budget ih =>
    obtain ⟨world, hrun⟩ := run_channelIds_leaving hbuffer 1 0 start
    have hbehind : (Endpoint.mk endpoint.buffer world).buffer = _ := hbuffer
    have hrest := ih hbehind (Page.next start 1)
    rw [channelIdsFrom, run_bind, hrun]
    dsimp only
    rw [if_neg (by decide), if_neg (by decide), run_bind, ← Prod.eta ((channelIdsFrom _ _ _).run _),
      hrest]
    rfl

/-- Every attribute of every channel reads as the first word there. -/
theorem run_firstWith_leaving (hbuffer : endpoint.buffer = some ⟨⟨0x1000, 1, 0x1000⟩, 16⟩)
    (channels : List ChannelId) :
    let firmware := Platform.leaving 16 (.success 0) (Bytes.ofWords [1, 1, 0])
    ∃ world, (firstWith firmware 0 2 channels).run endpoint =
      (.ok none, { endpoint with world }) := by
  intro firmware
  induction channels generalizing endpoint with
  | nil => exact ⟨_, rfl⟩
  | cons channel rest ih =>
    have hanswer : (endpoint.world.answer firmware (.readAttributes channel 0 1)).error = 0 := rfl
    let called := Endpoint.mk endpoint.buffer
      (endpoint.world.called firmware (.readAttributes channel 0 1))
    have hshows : Shows (SharedBuffer.mk ⟨0x1000, 1, 0x1000⟩ 16).region [1, 1, 0] called.world :=
      shows_store rfl
    have hvalues : (readAttributes firmware channel 0 1).run endpoint = (.ok [1], called) := by
      rw [readAttributes, run_withBuffer hbuffer, if_neg (by decide), run_bind,
        run_command_of_eq hanswer]
      exact run_readWords hshows 0 1 (by decide) (by decide)
    have hcalled : called.buffer = _ := hbuffer
    obtain ⟨world, hrest⟩ := ih hcalled
    refine ⟨world, ?_⟩
    rw [firstWith, run_bind, run_observing, hvalues]
    exact hrest

theorem findChannelFrom_leaving (hbuffer : endpoint.buffer = some ⟨⟨0x1000, 1, 0x1000⟩, 16⟩)
    (budget : Nat) (start : UInt32) :
    let firmware := Platform.leaving 16 (.success 0) (Bytes.ofWords [1, 1, 0])
    ((findChannelFrom firmware 0 2 budget start).run endpoint).1 = .ok none := by
  intro firmware
  induction budget generalizing start endpoint with
  | zero => rfl
  | succ budget ih =>
    obtain ⟨world, hrun⟩ := run_channelIds_leaving hbuffer 1 0 start
    have hlisted : (Endpoint.mk endpoint.buffer world).buffer = _ := hbuffer
    obtain ⟨later, hfirst⟩ := run_firstWith_leaving hlisted [⟨0⟩]
    have hbehind : (Endpoint.mk endpoint.buffer later).buffer = _ := hbuffer
    have hrest := ih hbehind (Page.next start 1)
    rw [findChannelFrom, run_bind, hrun]
    dsimp only
    rw [if_neg (by decide), run_bind, hfirst]
    exact hrest

end Leaving

/-- There is always one more id at the index that is asked for, and one more pending behind it, at
the largest index too. No channel with the wanted attribute is found either, so neither walk ever
ends. -/
theorem walks_endless :
    let firmware := Platform.leaving 16 (.success 0) (Bytes.ofWords [1, 1, 0])
    let endpoint := after firmware { buffer := none, world := .fresh .fresh } .init
    Endless endpoint (allChannelIds firmware) ∧
      Endless endpoint fun budget => findChannel firmware budget 0 2 := by
  intro firmware endpoint
  have hbuffer : endpoint.buffer = some ⟨⟨0x1000, 1, 0x1000⟩, 16⟩ := rfl
  exact ⟨endless_of_walked (fun budget => channelIdsFrom_walked firmware budget 0 endpoint)
      fun budget => channelIdsFrom_leaving hbuffer budget 0,
    endless_of_walked (fun budget => findChannelFrom_walked firmware 0 2 budget 0 endpoint)
      fun budget => findChannelFrom_leaving hbuffer budget 0⟩

end Endpoint

end MessageProxy
