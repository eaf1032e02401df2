import MessageProxy.Proofs.History

/-!
Histories of several parties, and which regions are out.

The answered calls of a ledger determine which address is registered, its allocations determine
which regions are out. A ledger is balanced when only regions that are out were given back. None of
this depends on the firmware or the allocator.
-/

namespace MessageProxy

/-- A history with the party of every event. -/
abbrev Ledger (ι : Type) := List (ι × Event)

namespace Ledger

variable {ι : Type}

/-- The address that is left registered. -/
def registered (ledger : Ledger ι) : Option UInt64 :=
  History.registered (ledger.map Prod.snd)

/-- Adds events of one party. -/
def enter (party : ι) (during : List Event) (ledger : Ledger ι) : Ledger ι :=
  during.map (Prod.mk party) ++ ledger

variable {party : ι} {during : List Event} {ledger : Ledger ι}

theorem enter_append (party : ι) (later earlier : List Event) (ledger : Ledger ι) :
    ledger.enter party (later ++ earlier) = (ledger.enter party earlier).enter party later := by
  unfold enter
  rw [List.map_append, List.append_assoc]

theorem map_snd_enter :
    (ledger.enter party during).map Prod.snd = during ++ ledger.map Prod.snd := by
  rw [enter, List.map_append, List.map_map]
  exact congrArg (· ++ _) (List.map_id during)

theorem registered_enter (hquiet : ∀ event ∈ during, event.Quiet) :
    (ledger.enter party during).registered = ledger.registered := by
  rw [registered, map_snd_enter]
  exact History.registered_append hquiet

variable [DecidableEq ι]

/-- The regions that were handed out and have not been given back to the same party's allocator. -/
def outstanding : Ledger ι → List (ι × Region)
  | [] => []
  | (party, .allocated _ (some region)) :: earlier => (party, region) :: outstanding earlier
  | (party, .released region) :: earlier => (outstanding earlier).erase (party, region)
  | _ :: earlier => outstanding earlier

/-- A region is only given back while it is out, so that no grant is given back twice. -/
def Balanced : Ledger ι → Prop
  | [] => True
  | (party, .released region) :: earlier =>
    (party, region) ∈ outstanding earlier ∧ Balanced earlier
  | _ :: earlier => Balanced earlier

/-- A region that is handed out has another address than every region that is still out. -/
def Distinct : Ledger ι → Prop
  | [] => True
  | (_, .allocated _ (some region)) :: earlier =>
    (∀ other ∈ outstanding earlier, other.2.address ≠ region.address) ∧ Distinct earlier
  | _ :: earlier => Distinct earlier

instance decidableDistinct : DecidablePred (Distinct : Ledger ι → Prop)
  | [] => inferInstanceAs (Decidable True)
  | (_, .allocated _ (some region)) :: earlier =>
    have := decidableDistinct earlier
    inferInstanceAs (Decidable ((∀ other ∈ outstanding earlier,
      other.2.address ≠ region.address) ∧ Distinct earlier))
  | (_, .allocated _ none) :: earlier | (_, .called ..) :: earlier | (_, .noted _) :: earlier
  | (_, .released _) :: earlier | (_, .communicated ..) :: earlier | (_, .handled ..) :: earlier =>
    decidableDistinct earlier

/-- What is registered, if anything is, is the address of a region that is out. -/
def Covered (ledger : Ledger ι) : Prop :=
  ∀ address, ledger.registered = some address →
    ∃ entry ∈ ledger.outstanding, entry.2.address = address

/-- What was registered has been covered at all times, from one event to the next. -/
def Backed : Ledger ι → Prop
  | [] => True
  | entry :: earlier => Covered (entry :: earlier) ∧ Backed earlier

theorem outstanding_enter (hquiet : ∀ event ∈ during, event.Quiet) :
    outstanding (ledger.enter party during) = outstanding ledger := by
  induction during with
  | nil => rfl
  | cons event rest ih =>
    obtain ⟨hevent, hrest⟩ := List.forall_mem_cons.1 hquiet
    cases event with
    | allocated pages region =>
      obtain rfl : region = none := hevent
      exact ih hrest
    | released => cases hevent
    | called | noted | communicated | handled => exact ih hrest

theorem balanced_enter (hquiet : ∀ event ∈ during, event.Quiet) :
    Balanced (ledger.enter party during) ↔ Balanced ledger := by
  induction during with
  | nil => rfl
  | cons event rest ih =>
    obtain ⟨hevent, hrest⟩ := List.forall_mem_cons.1 hquiet
    cases event with
    | allocated pages region =>
      obtain rfl : region = none := hevent
      exact ih hrest
    | released => cases hevent
    | called | noted | communicated | handled => exact ih hrest

theorem Covered.mono {before now : Ledger ι} (hcovered : Covered before)
    (hregistered : now.registered = before.registered)
    (houtstanding : before.outstanding ⊆ now.outstanding) : Covered now := by
  intro address haddress
  obtain ⟨entry, hentry, hentryAddress⟩ := hcovered address (hregistered.symm.trans haddress)
  exact ⟨entry, houtstanding hentry, hentryAddress⟩

theorem Backed.covered {ledger : Ledger ι} (hbacked : Backed ledger) : Covered ledger := by
  cases ledger with
  | nil =>
    intro address haddress
    cases haddress
  | cons entry earlier => exact hbacked.1

theorem Backed.cons {entry : ι × Event} (hbacked : Backed ledger)
    (hregistered : registered (entry :: ledger) = registered ledger)
    (houtstanding : outstanding ledger ⊆ outstanding (entry :: ledger)) :
    Backed (entry :: ledger) :=
  ⟨hbacked.covered.mono hregistered houtstanding, hbacked⟩

theorem Backed.covered_of_suffix {earlier ledger : Ledger ι} (hbacked : Backed ledger)
    (hsuffix : earlier <:+ ledger) : Covered earlier := by
  induction ledger with
  | nil =>
    rw [List.suffix_nil.1 hsuffix]
    exact hbacked.covered
  | cons entry rest ih =>
    obtain rfl | hrest := List.suffix_cons_iff.1 hsuffix
    · exact hbacked.covered
    · exact ih hbacked.2 hrest

theorem backed_enter (party : ι) (hquiet : ∀ event ∈ during, event.Quiet)
    (hbacked : Backed ledger) :
    Backed (ledger.enter party during) := by
  induction during with
  | nil => exact hbacked
  | cons event rest ih =>
    have hrest := (List.forall_mem_cons.1 hquiet).2
    have houtstanding : outstanding (ledger.enter party (event :: rest)) = outstanding ledger :=
      outstanding_enter hquiet
    refine ⟨hbacked.covered.mono (registered_enter hquiet) ?_, ih hrest⟩
    change _ ⊆ (ledger.enter party (event :: rest)).outstanding
    rw [houtstanding]
    exact List.Subset.refl _

/-- What is distinct up to now was distinct before. -/
theorem distinct_of_enter (hdistinct : Distinct (ledger.enter party during)) : Distinct ledger := by
  induction during with
  | nil => exact hdistinct
  | cons event rest ih =>
    cases event with
    | allocated pages region =>
      cases region with
      | none => exact ih hdistinct
      | some region => exact ih hdistinct.2
    | called | released | noted | communicated | handled => exact ih hdistinct

/-- Distinct grants leave no two regions with one address out. -/
theorem nodup_outstanding (hdistinct : Distinct ledger) :
    ((outstanding ledger).map fun entry => entry.2.address).Nodup := by
  induction ledger with
  | nil => exact List.nodup_nil
  | cons entry earlier ih =>
    obtain ⟨party, event⟩ := entry
    cases event with
    | allocated pages region =>
      cases region with
      | none => exact ih hdistinct
      | some region =>
        refine List.nodup_cons.2 ⟨?_, ih hdistinct.2⟩
        intro hmem
        obtain ⟨other, hother, haddress⟩ := List.mem_map.1 hmem
        exact hdistinct.1 other hother haddress
    | released region =>
      have hsub : ((outstanding earlier).erase (party, region)).Sublist (outstanding earlier) :=
        List.erase_sublist
      exact (ih hdistinct).sublist (hsub.map _)
    | called | noted | communicated | handled => exact ih hdistinct

/-- How a ledger goes on while the buffer of one party's endpoint changes from the one to the other:
it stays, a region is taken and registered, or the registration is taken back and the region given
back. -/
inductive Turn (party : ι) (before : Ledger ι) :
    Option SharedBuffer → Option SharedBuffer → Ledger ι → Prop where
  | still {buffer : Option SharedBuffer} {now : Ledger ι}
      (houtstanding : outstanding now = outstanding before)
      (hregistered : now.registered = before.registered)
      (hbalanced : Balanced before → Balanced now) (hbacked : Backed before → Backed now) :
      Turn party before buffer buffer now
  | taken {buffer : SharedBuffer} {now : Ledger ι}
      (houtstanding : outstanding now = (party, buffer.region) :: outstanding before)
      (hregistered : now.registered = some buffer.region.address)
      (hbalanced : Balanced before → Balanced now) (hbacked : Backed before → Backed now)
      (hfresh : Distinct now →
        ∀ other ∈ outstanding before, other.2.address ≠ buffer.region.address) :
      Turn party before none (some buffer) now
  | given {buffer : SharedBuffer} {now : Ledger ι}
      (houtstanding : outstanding now = (outstanding before).erase (party, buffer.region))
      (hregistered : now.registered = none)
      (hbalanced : (party, buffer.region) ∈ outstanding before → Balanced before → Balanced now)
      (hbacked : Backed before → Backed now) :
      Turn party before (some buffer) none now

theorem Turn.of_quiet (party : ι) {during : List Event} (before : Ledger ι)
    (hquiet : ∀ event ∈ during, event.Quiet) (buffer : Option SharedBuffer) :
    Turn party before buffer buffer (before.enter party during) :=
  .still (outstanding_enter hquiet) (registered_enter hquiet) (balanced_enter hquiet).2
    (backed_enter party hquiet)

/-- What is a turn after quiet events is a turn from before them on. -/
theorem Turn.of_enter {party : ι} {during : List Event} {before now : Ledger ι}
    {old new : Option SharedBuffer} (hquiet : ∀ event ∈ during, event.Quiet)
    (hturn : Turn party (before.enter party during) old new now) :
    Turn party before old new now := by
  have houtstanding : outstanding (before.enter party during) = outstanding before :=
    outstanding_enter hquiet
  have hregistered : (before.enter party during).registered = before.registered :=
    registered_enter hquiet
  cases hturn with
  | still hsame hkept hbalanced hbacked =>
    refine .still (hsame.trans houtstanding) (hkept.trans hregistered) ?_ ?_
    · intro hbefore
      exact hbalanced ((balanced_enter hquiet).2 hbefore)
    · intro hbefore
      exact hbacked (backed_enter party hquiet hbefore)
  | taken hadded htaken hbalanced hbacked hfresh =>
    rw [houtstanding] at hadded hfresh
    refine .taken hadded htaken ?_ ?_ hfresh
    · intro hbefore
      exact hbalanced ((balanced_enter hquiet).2 hbefore)
    · intro hbefore
      exact hbacked (backed_enter party hquiet hbefore)
  | given herased hgiven hbalanced hbacked =>
    rw [houtstanding] at herased hbalanced
    refine .given herased hgiven ?_ ?_
    · intro hmem hbefore
      exact hbalanced hmem ((balanced_enter hquiet).2 hbefore)
    · intro hbefore
      exact hbacked (backed_enter party hquiet hbefore)

/-- A region that cannot be registered is given back. -/
theorem Turn.of_refused (party : ι) (before : Ledger ι) (buffer : Option SharedBuffer)
    (pages : UInt64) (region : Region) (notice : Notice) {answer : Return}
    (hanswer : answer.error ≠ 0) :
    Turn party before buffer buffer (before.enter party [.released region, .noted notice,
      .called (.registerMemory region.address) answer, .allocated pages (some region)]) := by
  have hregistered : (Call.registerMemory region.address).registration answer before.registered =
      before.registered :=
    Call.registration_of_ne hanswer _ _
  have houtstanding : ((party, region) :: before.outstanding).erase (party, region) =
      before.outstanding :=
    List.erase_cons_head ..
  refine .still houtstanding hregistered ?_ ?_
  · intro hbalanced
    exact ⟨List.mem_cons_self, hbalanced⟩
  · intro hbacked
    have htaken : Backed ((party, .allocated pages (some region)) :: before) :=
      hbacked.cons rfl (List.subset_cons_self ..)
    have hcalled : Backed ((party, .called (.registerMemory region.address) answer) ::
        (party, .allocated pages (some region)) :: before) :=
      htaken.cons hregistered (List.Subset.refl _)
    -- The region is out no more, but it has not been registered either.
    refine ⟨hbacked.covered.mono hregistered ?_, hcalled.cons rfl (List.Subset.refl _)⟩
    change _ ⊆ ((party, region) :: before.outstanding).erase (party, region)
    rw [houtstanding]
    exact List.Subset.refl _

theorem Turn.of_registered (party : ι) (before : Ledger ι) (buffer : SharedBuffer)
    (pages : UInt64) (notice : Notice) {answer : Return} (hanswer : answer.error = 0) :
    Turn party before none (some buffer) (before.enter party [.noted notice,
      .called (.registerMemory buffer.region.address) answer,
      .allocated pages (some buffer.region)]) := by
  have hregistered : (Call.registerMemory buffer.region.address).registration answer
      before.registered = some buffer.region.address :=
    (Call.registration_registerMemory ..).trans (if_pos hanswer)
  refine .taken rfl hregistered id ?_ (fun hdistinct => hdistinct.1)
  intro hbacked
  have htaken : Backed ((party, .allocated pages (some buffer.region)) :: before) :=
    hbacked.cons rfl (List.subset_cons_self ..)
  have hcovered : Covered ((party, .called (.registerMemory buffer.region.address) answer) ::
      (party, .allocated pages (some buffer.region)) :: before) := by
    intro address haddress
    exact ⟨(party, buffer.region), List.mem_cons_self,
      Option.some.inj (hregistered.symm.trans haddress)⟩
  exact Backed.cons ⟨hcovered, htaken⟩ rfl (List.Subset.refl _)

theorem Turn.of_deregistered (party : ι) (before : Ledger ι) (buffer : SharedBuffer)
    (notice : Notice) {answer : Return} (hanswer : answer.error = 0) :
    Turn party before (some buffer) none (before.enter party [.noted notice,
      .released buffer.region, .called .deregisterMemory answer]) := by
  have hregistered : Call.deregisterMemory.registration answer before.registered = none :=
    (Call.registration_deregisterMemory ..).trans (if_pos hanswer)
  refine .given rfl hregistered (fun hmem hbalanced => ⟨hmem, hbalanced⟩) ?_
  intro hbacked
  have hcovered (now : Ledger ι) (hnow : now.registered = none) : Covered now := by
    intro address haddress
    cases hnow.symm.trans haddress
  exact ⟨hcovered _ hregistered, hcovered _ hregistered, hcovered _ hregistered, hbacked⟩

theorem Turn.of_retained (party : ι) (before : Ledger ι) (buffer : Option SharedBuffer)
    (notice : Notice) {answer : Return} (hanswer : answer.error ≠ 0) :
    Turn party before buffer buffer
      (before.enter party [.noted notice, .called .deregisterMemory answer]) := by
  have hregistered : Call.deregisterMemory.registration answer before.registered =
      before.registered :=
    Call.registration_of_ne hanswer _ _
  refine .still rfl hregistered id ?_
  intro hbacked
  have hcalled : Backed ((party, .called .deregisterMemory answer) :: before) :=
    hbacked.cons hregistered (List.Subset.refl _)
  exact hcalled.cons rfl (List.Subset.refl _)

/-- A registration that is the one of the endpoint's buffer stays so. -/
theorem Turn.registered_eq {party : ι} {before now : Ledger ι} {old new : Option SharedBuffer}
    (hturn : Turn party before old new now)
    (hregistered : before.registered = old.map (·.region.address)) :
    now.registered = new.map (·.region.address) := by
  cases hturn with
  | still _ hsame => rw [hsame, hregistered]
  | taken _ htaken => exact htaken
  | given _ hgiven => exact hgiven

end Ledger

end MessageProxy
