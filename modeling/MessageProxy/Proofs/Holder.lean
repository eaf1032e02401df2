import MessageProxy.Proofs.Fleet

/-!
Who holds the one registration that endpoints of a fleet share: whoever has set it last, by
registering a buffer or by taking a registration back.
-/

namespace MessageProxy

/-- Whether an event sets what is registered. -/
def Event.sets : Event → Bool
  | called call answer => call.setsMemory && answer.error == 0
  | _ => false

namespace History

variable {during history : List Event}

theorem registered_cons_of_not_sets {event : Event} (hevent : event.sets = false) :
    registered (event :: history) = registered history := by
  cases event with
  | called call answer =>
    refine if_neg ?_
    rintro ⟨hsets, hanswer⟩
    rw [Event.sets, hsets, hanswer] at hevent
    cases hevent
  | allocated | released | noted | communicated | handled => rfl

/-- An event that sets what is registered leaves nothing of what was before. -/
theorem registered_cons_of_sets {event : Event} (hevent : event.sets = true)
    (first second : List Event) : registered (event :: first) = registered (event :: second) := by
  cases event with
  | called call answer =>
    rw [Event.sets, Bool.and_eq_true, beq_iff_eq] at hevent
    exact (if_pos hevent).trans (if_pos hevent).symm
  | allocated | released | noted | communicated | handled => cases hevent

theorem registered_append_of_not_sets (hduring : during.any Event.sets = false)
    (history : List Event) : registered (during ++ history) = registered history := by
  induction during with
  | nil => rfl
  | cons event rest ih =>
    rw [List.any_cons, Bool.or_eq_false_iff] at hduring
    exact (registered_cons_of_not_sets hduring.1).trans (ih hduring.2)

theorem registered_append_of_sets (hduring : during.any Event.sets = true)
    (first second : List Event) : registered (during ++ first) = registered (during ++ second) := by
  induction during with
  | nil => cases hduring
  | cons event rest ih =>
    cases hevent : event.sets with
    | true => exact registered_cons_of_sets hevent _ _
    | false =>
      rw [List.any_cons, hevent, Bool.false_or] at hduring
      rw [List.cons_append, List.cons_append, registered_cons_of_not_sets hevent,
        registered_cons_of_not_sets hevent]
      exact ih hduring

end History

namespace Ledger

variable {ι : Type}

/-- The party that has set last what is registered. -/
def setter : Ledger ι → Option ι
  | [] => none
  | (party, event) :: earlier => if event.sets then some party else setter earlier

theorem setter_enter (party : ι) (during : List Event) (ledger : Ledger ι) :
    setter (ledger.enter party during) =
      if during.any Event.sets then some party else setter ledger := by
  induction during with
  | nil => rfl
  | cons event rest ih =>
    change (if event.sets then some party else setter (ledger.enter party rest)) = _
    rw [ih, List.any_cons]
    cases event.sets with
    | true => rfl
    | false => rfl

theorem registered_eq_append (party : ι) (during : List Event) (ledger : Ledger ι) :
    (ledger.enter party during).registered =
      History.registered (during ++ ledger.map Prod.snd) := by
  rw [registered, map_snd_enter]

variable [DecidableEq ι] {party : ι} {during : List Event} {old new : Option SharedBuffer}

/-- What is registered is set in a turn just when a region is taken or given back. -/
theorem any_sets_eq (hturn : ∀ ledger : Ledger ι, Turn party ledger old new
    (ledger.enter party during)) : during.any Event.sets = decide (old ≠ new) := by
  -- The same events after two ledgers with different registrations.
  have hnone := hturn []
  have hsome := hturn [(party, .called (.registerMemory 0) (.success 0))]
  cases hsets : during.any Event.sets with
  | true =>
    have hsame : registered (enter party during []) = registered (enter party during
        [(party, .called (.registerMemory 0) (.success 0))]) := by
      rw [registered_eq_append, registered_eq_append]
      exact History.registered_append_of_sets hsets _ _
    refine (decide_eq_true ?_).symm
    rintro rfl
    cases hnone with
    | still _ hfirst =>
      cases hsome with
      | still _ hsecond => cases hfirst.symm.trans (hsame.trans hsecond)
  | false =>
    have hkept : ∀ ledger : Ledger ι,
        (ledger.enter party during).registered = ledger.registered := by
      intro ledger
      rw [registered_eq_append]
      exact History.registered_append_of_not_sets hsets _
    refine (decide_eq_false (not_not_intro ?_)).symm
    cases hnone with
    | still => rfl
    | taken _ htaken => cases (hkept []).symm.trans htaken
    | given =>
      cases hsome with
      | given _ hgiven => cases (hkept _).symm.trans hgiven

theorem setter_of_turns (hturn : ∀ ledger : Ledger ι, Turn party ledger old new
    (ledger.enter party during)) (ledger : Ledger ι) :
    (ledger.enter party during).setter = if old = new then ledger.setter else some party := by
  rw [setter_enter, any_sets_eq hturn]
  by_cases hsame : old = new
  · simp [hsame]
  · simp [hsame]

end Ledger

namespace Fleet

variable {ι σ : Type} [DecidableEq ι]

/-- What is registered is a region of the party that has set it last, and is that party's buffer if
it has one. -/
structure Held (buffers : ι → Option SharedBuffer) (ledger : Ledger ι) : Prop where
  held : ∀ address, ledger.registered = some address → ∃ entry ∈ ledger.outstanding,
    ledger.setter = some entry.1 ∧ entry.2.address = address
  own : ∀ handle buffer, buffers handle = some buffer → ledger.setter = some handle →
    ledger.registered = some buffer.region.address

namespace Held

variable {buffers : ι → Option SharedBuffer} {ledger : Ledger ι}

theorem fresh : Held (fun _ : ι => none) [] where
  held _ haddress := by cases haddress
  own _ _ hbuffer := by cases hbuffer

/-- A turn of one endpoint makes it the holder if it changes its buffer, and else leaves the holder
as it is. -/
theorem turn (hheld : Held buffers ledger) {handle : ι} {new : Option SharedBuffer}
    {during : List Event} (hturn : ∀ ledger : Ledger ι,
      Ledger.Turn handle ledger (buffers handle) new (ledger.enter handle during)) :
    Held (Function.update buffers handle new) (ledger.enter handle during) := by
  have hsetter := Ledger.setter_of_turns hturn ledger
  have hnow := hturn ledger
  generalize hold : buffers handle = old at hsetter hnow
  cases hnow with
  | still houtstanding hregistered =>
    rw [if_pos rfl] at hsetter
    rw [← hold, Function.update_eq_self]
    refine ⟨?_, ?_⟩
    · rw [houtstanding, hregistered, hsetter]
      exact hheld.held
    · rw [hregistered, hsetter]
      exact hheld.own
  | @taken taken _ houtstanding hregistered =>
    rw [if_neg nofun] at hsetter
    refine ⟨?_, ?_⟩
    · intro address haddress
      rw [houtstanding, hsetter]
      exact ⟨(handle, taken.region), List.mem_cons_self, rfl,
        Option.some.inj (hregistered.symm.trans haddress)⟩
    · intro other buffer hbuffer hother
      obtain rfl : handle = other := Option.some.inj (hsetter.symm.trans hother)
      rw [Function.update_self] at hbuffer
      obtain rfl := Option.some.inj hbuffer
      exact hregistered
  | given _ hregistered =>
    rw [if_neg nofun] at hsetter
    refine ⟨?_, ?_⟩
    · intro address haddress
      cases hregistered.symm.trans haddress
    · intro other buffer hbuffer hother
      obtain rfl : handle = other := Option.some.inj (hsetter.symm.trans hother)
      rw [Function.update_self] at hbuffer
      cases hbuffer

/-- An endpoint that forgets its buffer may hold what it has leaked. -/
theorem forget (hheld : Held buffers ledger) (handle : ι) :
    Held (Function.update buffers handle none) ledger where
  held := hheld.held
  own other buffer hbuffer := by
    obtain ⟨-, hnew⟩ | ⟨-, hbefore⟩ := Sound.eq_or_of_update hbuffer
    · cases hnew
    · exact hheld.own other buffer hbefore

/-- An endpoint has its own buffer registered just when it has set last what is registered. -/
theorem registered_iff {leaked : List (ι × Region)} (hheld : Held buffers ledger)
    (hsound : Sound buffers ledger leaked) (hdistinct : ledger.Distinct) {handle : ι}
    {buffer : SharedBuffer} (hbuffer : buffers handle = some buffer) :
    ledger.registered = some buffer.region.address ↔ ledger.setter = some handle := by
  refine ⟨fun hregistered => ?_, hheld.own handle buffer hbuffer⟩
  obtain ⟨entry, hentry, hsetter, haddress⟩ := hheld.held _ hregistered
  have hsame : entry = (handle, buffer.region) :=
    List.inj_on_of_nodup_map (Ledger.nodup_outstanding hdistinct) hentry
      (hsound.owned handle buffer hbuffer) haddress
  rw [hsetter, hsame]

end Held

variable {platform : ι → Platform σ} {fleet : Fleet ι σ}

theorem held_seat (hheld : Held fleet.buffers fleet.ledger) {handle : ι} {next : Endpoint σ}
    (hturns : Endpoint.Turns handle (fleet.endpoint handle) next) :
    Held (fleet.seat handle next).buffers (fleet.seat handle next).ledger := by
  obtain ⟨during, hhistory, hturn⟩ := hturns
  rw [ledger_seat hhistory]
  exact hheld.turn hturn

theorem held_step (hheld : Held fleet.buffers fleet.ledger) (step : Step ι) :
    Held (fleet.step platform step).buffers (fleet.step platform step).ledger := by
  cases step with
  | operate handle operation =>
    exact held_seat hheld (Endpoint.turns_after handle (platform handle) operation _)
  | drop handle =>
    have hforgot :=
      (held_seat hheld (Endpoint.turns_deinit handle (platform handle) _)).forget handle
    rw [buffers_seat, Function.update_idem] at hforgot
    exact hforgot

theorem held_run (hheld : Held fleet.buffers fleet.ledger) (steps : List (Step ι)) :
    Held (fleet.run platform steps).buffers (fleet.run platform steps).ledger := by
  induction steps generalizing fleet with
  | nil => exact hheld
  | cons step rest ih => exact ih (held_step hheld step)

end Fleet

end MessageProxy
