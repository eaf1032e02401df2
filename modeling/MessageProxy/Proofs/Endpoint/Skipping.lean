import MessageProxy.Proofs.Endpoint.Failure

/-!
A search for a channel goes past every channel whose attribute cannot be read.

A run is looked at through its history, the latest event first: of two moments of one run, the
history of the earlier one is a suffix of the history of the later one.
-/

namespace MessageProxy.Endpoint

variable {σ : Type} {platform : Platform σ} {endpoint : Endpoint σ} {buffer : SharedBuffer}

/-- What is left of a search: the rest of a page, then the pages behind it. -/
def searchOn (platform : Platform σ) (key value : UInt32) (budget : Nat) (start : UInt32)
    (page : Page) (rest : List ChannelId) : Action σ (Option ChannelId) := do
  match ← firstWith platform key value rest with
  | some channel => return some channel
  | none =>
    if page.remaining = 0 then refuse (.noChannel key value)
    findChannelFrom platform key value budget (Page.next start page.returned)

/-- A search asks for a page and goes on with all of its channels. -/
theorem findChannelFrom_succ (platform : Platform σ) (key value : UInt32) (budget : Nat)
    (start : UInt32) :
    findChannelFrom platform key value (budget + 1) start = (do
      let page ← channelIds platform start
      if page.returned = 0 then refuse (.noChannel key value)
      searchOn platform key value budget start page page.ids) :=
  rfl

section Skips

variable {key value : UInt32} {channel : ChannelId} {answer : Return} {new event : Event}
  {during history later earlier : List Event}

/-- What happened next after a moment before `event` is `event`, or it was before it as well. -/
theorem eq_or_suffix (hrun : new :: history <:+ later ++ event :: earlier)
    (hbefore : history <:+ earlier) :
    (new = event ∧ history = earlier) ∨ new :: history <:+ earlier := by
  have hshorter := hbefore.length_le
  have hmoment : new :: history <:+ event :: earlier := by
    apply List.suffix_of_suffix_length_le hrun (List.suffix_append later _)
    simp only [List.length_cons]
    omega
  rcases List.suffix_cons_iff.1 hmoment with hsame | hsuffix
  · exact .inl (List.cons.inj hsame)
  · exact .inr hsuffix

/-- A time without `event` that began before it was over before it. -/
theorem suffix_of_not_mem (hrun : during ++ history <:+ later ++ event :: earlier)
    (hbefore : history <:+ earlier) (hevent : event ∉ during) :
    during ++ history <:+ earlier := by
  induction during with
  | nil => exact hbefore
  | cons new rest ih =>
    rw [List.mem_cons, not_or] at hevent
    have hrest : rest ++ history <:+ new :: (rest ++ history) := List.suffix_cons new _
    rcases eq_or_suffix hrun (ih (hrest.trans hrun) hevent.2) with ⟨hsame, -⟩ | hsuffix
    · exact absurd hsame.symm hevent.1
    · exact hsuffix

/-- The last moment is not before `event`. -/
theorem false_of_eq (hrun : history = later ++ event :: earlier) (hbefore : history <:+ earlier) :
    False := by
  have hlength := hbefore.length_le
  rw [hrun] at hlength
  simp only [List.length_append, List.length_cons] at hlength
  omega

/-- Nor is the one before it, if what happened last is not `event`. -/
theorem false_of_cons (hrun : new :: history = later ++ event :: earlier) (hnew : new ≠ event)
    (hbefore : history <:+ earlier) : False := by
  have hmoment : new :: history <:+ later ++ event :: earlier := ⟨[], hrun⟩
  rcases eq_or_suffix hmoment hbefore with ⟨hsame, -⟩ | hsuffix
  · exact hnew hsame
  · exact false_of_eq hrun hsuffix

theorem steady_suffix (platform : Platform σ) (history : List Event) :
    World.Steady platform buffer (fun _ => True) fun world => history <:+ world.history where
  noted _ _ hworld := hworld.trans (List.suffix_cons _ _)
  stored _ _ _ hworld := hworld
  called _ _ _ hworld := hworld.trans (List.suffix_cons _ _)

theorem suffix_firstWith (platform : Platform σ) (hbuffer : endpoint.buffer = some buffer)
    (key value : UInt32) (channels : List ChannelId) :
    Holding buffer (fun world => endpoint.world.history <:+ world.history)
      ((firstWith platform key value channels).run endpoint).2 :=
  keeps_firstWith (steady_suffix platform _) (fun _ _ _ => trivial) key value channels endpoint
    ⟨hbuffer, List.suffix_rfl⟩

/-- Reading words changes nothing. -/
theorem after_readWords (buffer : SharedBuffer) (first count : UInt32) (endpoint : Endpoint σ) :
    ((buffer.readWords first count : Action σ (List UInt32)).run endpoint).2 = endpoint := by
  have hkeeps : Keeps (fun now => now = endpoint)
      (buffer.readWords first count : Action σ (List UInt32)) :=
    .ite (.pure _) (.ite (.throw _) (.bind (fun _ hnow => hnow) fun _ => .pure _))
  exact hkeeps endpoint rfl

/-- The attribute of a channel is read with one call, or with none when the buffer is too small. -/
theorem history_readAttributes (platform : Platform σ) (hbuffer : endpoint.buffer = some buffer)
    (channel : ChannelId) (first count : UInt32) :
    let result := (readAttributes platform channel first count).run endpoint
    result.2.buffer = some buffer ∧
      (result.2.world.history = endpoint.world.history ∨
        ∃ answer, result.2.world.history =
            .called (.readAttributes channel first count) answer :: endpoint.world.history ∧
          (answer.error ≠ 0 → result.1 = .error answer.fault)) := by
  dsimp only
  by_cases hchecks : count = 0 ∨ 4 * count.toNat > buffer.size.toNat
  · have hrun : (readAttributes platform channel first count).run endpoint =
        (.error .invalidParameter, endpoint) := by
      rw [readAttributes, run_withBuffer hbuffer, if_pos hchecks]
      rfl
    rw [hrun]
    exact ⟨hbuffer, .inl rfl⟩
  · have hrun : (readAttributes platform channel first count).run endpoint = _ :=
      run_withBuffer hbuffer _ _
    rw [if_neg hchecks, run_bind] at hrun
    rw [hrun]
    by_cases hanswer :
        (endpoint.world.answer platform (.readAttributes channel first count)).error = 0
    · rw [run_command_of_eq hanswer]
      dsimp only
      rw [after_readWords]
      refine ⟨hbuffer, .inr ⟨_, rfl, ?_⟩⟩
      intro hfailed
      exact absurd hanswer hfailed
    · rw [run_command_of_ne hanswer]
      exact ⟨hbuffer, .inr ⟨_, rfl, fun _ => rfl⟩⟩

/-- A channel whose attribute cannot be read is skipped: the search among the channels of a page
goes on with those behind it. -/
theorem firstWith_skips (hanswer : answer.error ≠ 0) (channels : List ChannelId)
    (hbuffer : endpoint.buffer = some buffer)
    (hrun : ((firstWith platform key value channels).run endpoint).2.world.history =
      later ++ .called (.readAttributes channel key 1) answer :: earlier)
    (hstart : endpoint.world.history <:+ earlier) :
    ∃ before rest next, channels = before ++ channel :: rest ∧
      next.buffer = some buffer ∧
      next.world.history = .noted (.skipped channel answer.fault) ::
        .called (.readAttributes channel key 1) answer :: earlier ∧
      (firstWith platform key value channels).run endpoint =
        (firstWith platform key value rest).run next := by
  induction channels generalizing endpoint with
  | nil =>
    have hsame : endpoint.world.history =
      later ++ .called (.readAttributes channel key 1) answer :: earlier := hrun
    exact (false_of_eq hsame hstart).elim
  | cons first others ih =>
    obtain ⟨hread, hhistory⟩ := history_readAttributes platform hbuffer first key 1
    rw [firstWith, run_bind, run_observing] at hrun ⊢
    generalize (readAttributes platform first key 1).run endpoint = result at hread hhistory hrun ⊢
    obtain ⟨outcome, middle⟩ := result
    dsimp only at hread hhistory hrun ⊢
    -- the read that failed is this one, or it comes later
    have hwhen (hmiddle : middle.world.history <:+
        later ++ .called (.readAttributes channel key 1) answer :: earlier) :
        (first = channel ∧ outcome = .error answer.fault ∧ middle.world.history =
            .called (.readAttributes channel key 1) answer :: earlier) ∨
          middle.world.history <:+ earlier := by
      rcases hhistory with hsame | ⟨read, hcalled, hfailed⟩
      · rw [hsame]
        exact .inr hstart
      · rw [hcalled] at hmiddle ⊢
        rcases eq_or_suffix hmiddle hstart with ⟨hevent, rfl⟩ | hsuffix
        · injection hevent with hcall hread
          subst hread
          obtain rfl := Call.channel_of_readAttributes hcall
          exact .inl ⟨rfl, hfailed hanswer, rfl⟩
        · exact .inr hsuffix
    cases outcome with
    | error fault =>
      simp only [run_bind, run_note] at hrun ⊢
      let next : Endpoint σ := { middle with world := middle.world.noted (.skipped first fault) }
      have hnext : next.buffer = some buffer := hread
      have hskipped : .noted (.skipped first fault) :: middle.world.history <:+
          later ++ .called (.readAttributes channel key 1) answer :: earlier := by
        rw [← hrun]
        exact (suffix_firstWith platform hnext key value others).2
      rcases hwhen ((List.suffix_cons _ _).trans hskipped) with ⟨rfl, hfault, hearlier⟩ | hlater
      · cases hfault
        refine ⟨[], others, next, rfl, hnext, ?_, rfl⟩
        rw [World.history_noted, hearlier]
      · rcases eq_or_suffix hskipped hlater with ⟨hsame, -⟩ | hsuffix
        · cases hsame
        · obtain ⟨before, rest, last, hothers, hlast, hhistory, hsame⟩ := ih hnext hrun hsuffix
          exact ⟨first :: before, rest, last, congrArg (first :: ·) hothers, hlast, hhistory,
            hsame⟩
    | ok values =>
      by_cases hvalue : values.head? = some value
      · simp only [if_pos hvalue, run_bind, run_note, run_pure, World.history_noted] at hrun
        have hmiddle := List.suffix_cons (.noted (.found first key value)) middle.world.history
        rw [hrun] at hmiddle
        rcases hwhen hmiddle with ⟨-, hfault, -⟩ | hlater
        · cases hfault
        · exact (false_of_cons hrun nofun hlater).elim
      · simp only [if_neg hvalue] at hrun ⊢
        have hmiddle := (suffix_firstWith platform hread key value others).2
        dsimp only at hmiddle
        rw [hrun] at hmiddle
        rcases hwhen hmiddle with ⟨-, hfault, -⟩ | hlater
        · cases hfault
        · obtain ⟨before, rest, last, hothers, hlast, hhistory, hsame⟩ := ih hread hrun hlater
          exact ⟨first :: before, rest, last, congrArg (first :: ·) hothers, hlast, hhistory,
            hsame⟩

/-- A page of the directory is asked for without reading any attribute. -/
theorem suffix_channelIds (platform : Platform σ) (hbuffer : endpoint.buffer = some buffer)
    (start : UInt32) :
    ((channelIds platform start).run endpoint).2.buffer = some buffer ∧
      ∃ during, ((channelIds platform start).run endpoint).2.world.history =
          during ++ endpoint.world.history ∧
        ∀ channel first count answer,
          Event.called (.readAttributes channel first count) answer ∉ during := by
  have hsteady : World.Steady platform buffer (fun call => ∃ start, call = .listChannels start)
      (World.Since (IsApart fun call => ∃ channel first count,
        call = .readAttributes channel first count) endpoint.world) := by
    apply steady_apart
    rintro _ ⟨start, rfl⟩ ⟨channel, first, count, hcall⟩
    exact Call.readAttributes_ne_listChannels channel first count start hcall.symm
  obtain ⟨hsame, during, hhistory, hapart⟩ :=
    keeps_channelIds hsteady (fun start => ⟨start, rfl⟩) start endpoint
      ⟨hbuffer, World.Since.refl _⟩
  refine ⟨hsame, during, hhistory, ?_⟩
  intro channel first count answer hcalled
  exact hapart _ hcalled ⟨channel, first, count, rfl⟩

theorem suffix_findChannelFrom (platform : Platform σ) (hbuffer : endpoint.buffer = some buffer)
    (key value : UInt32) (budget : Nat) (start : UInt32) :
    endpoint.world.history <:+
      ((findChannelFrom platform key value budget start).run endpoint).2.world.history :=
  (keeps_findChannelFrom (steady_suffix platform _) (fun _ => trivial) (fun _ _ _ => trivial) key
    value budget start endpoint ⟨hbuffer, List.suffix_rfl⟩).2

theorem suffix_searchOn (platform : Platform σ) (hbuffer : endpoint.buffer = some buffer)
    (key value : UInt32) (budget : Nat) (start : UInt32) (page : Page)
    (channels : List ChannelId) :
    endpoint.world.history <:+
      ((searchOn platform key value budget start page channels).run endpoint).2.world.history := by
  have hkeeps : Keeps (Holding buffer fun world => endpoint.world.history <:+ world.history)
      (searchOn platform key value budget start page channels) := by
    refine .bind (keeps_firstWith (steady_suffix platform _) (fun _ _ _ => trivial) _ _ _)
      fun found => ?_
    cases found with
    | some channel => exact .pure _
    | none =>
      exact .ite_bind (keeps_refuse (steady_suffix platform _) _)
        (keeps_findChannelFrom (steady_suffix platform _) (fun _ => trivial)
          (fun _ _ _ => trivial) _ _ _ _)
  exact (hkeeps endpoint ⟨hbuffer, List.suffix_rfl⟩).2

/-- A read that fails while a search goes on is one of this page, whose channel is skipped, or one
of the pages behind it. -/
theorem searchOn_skips (hanswer : answer.error ≠ 0) {budget : Nat} {start : UInt32} {page : Page}
    (channels : List ChannelId) (hbuffer : endpoint.buffer = some buffer)
    (hrun : ((searchOn platform key value budget start page channels).run
        endpoint).2.world.history =
      later ++ .called (.readAttributes channel key 1) answer :: earlier)
    (hstart : endpoint.world.history <:+ earlier) :
    (∃ before rest next, channels = before ++ channel :: rest ∧
      next.buffer = some buffer ∧
      next.world.history = .noted (.skipped channel answer.fault) ::
        .called (.readAttributes channel key 1) answer :: earlier ∧
      (searchOn platform key value budget start page channels).run endpoint =
        (searchOn platform key value budget start page rest).run next) ∨
    ∃ next, next.buffer = some buffer ∧ next.world.history <:+ earlier ∧
      (searchOn platform key value budget start page channels).run endpoint =
        (findChannelFrom platform key value budget (Page.next start page.returned)).run next := by
  obtain ⟨hlooked, -⟩ := suffix_firstWith platform hbuffer key value channels
  by_cases hhere : Event.called (.readAttributes channel key 1) answer :: earlier <:+
      ((firstWith platform key value channels).run endpoint).2.world.history
  · left
    obtain ⟨rest, hrest⟩ := hhere
    obtain ⟨before, rest, next, hchannels, hnext, hhistory, hsame⟩ :=
      firstWith_skips hanswer channels hbuffer hrest.symm hstart
    refine ⟨before, rest, next, hchannels, hnext, hhistory, ?_⟩
    rw [searchOn, searchOn, run_bind, run_bind, hsame]
  · right
    rw [searchOn, run_bind] at hrun ⊢
    generalize (firstWith platform key value channels).run endpoint = result at hlooked hhere hrun ⊢
    obtain ⟨outcome, middle⟩ := result
    dsimp only at hlooked hhere hrun ⊢
    have hmiddle (hsuffix : middle.world.history <:+
        later ++ .called (.readAttributes channel key 1) answer :: earlier) :
        middle.world.history <:+ earlier := by
      rcases List.suffix_or_suffix_of_suffix hsuffix (List.suffix_append later _) with
        hbefore | hafter
      · rcases List.suffix_cons_iff.1 hbefore with hsame | hbefore
        · rw [hsame] at hhere
          exact absurd List.suffix_rfl hhere
        · exact hbefore
      · exact absurd hafter hhere
    cases outcome with
    | error fault => exact (false_of_eq hrun (hmiddle (hrun ▸ List.suffix_rfl))).elim
    | ok found =>
      cases found with
      | some found => exact (false_of_eq hrun (hmiddle (hrun ▸ List.suffix_rfl))).elim
      | none =>
        by_cases hremaining : page.remaining = 0
        · simp only [if_pos hremaining, run_bind, run_refuse, World.history_noted] at hrun
          have hbefore := hmiddle (hrun ▸ List.suffix_cons _ _)
          exact (false_of_cons hrun nofun hbefore).elim
        · simp only [if_neg hremaining] at hrun ⊢
          have hsuffix := suffix_findChannelFrom platform hlooked key value budget
            (Page.next start page.returned)
          rw [hrun] at hsuffix
          exact ⟨middle, hlooked, hmiddle hsuffix, rfl⟩

/-- Whenever the attribute of a channel cannot be read during a search, the channel is skipped: from
there on the search does what it does with the channels behind it. -/
theorem findChannelFrom_skips (hanswer : answer.error ≠ 0) (budget : Nat) (start : UInt32)
    (hbuffer : endpoint.buffer = some buffer)
    (hrun : ((findChannelFrom platform key value budget start).run endpoint).2.world.history =
      later ++ .called (.readAttributes channel key 1) answer :: earlier)
    (hstart : endpoint.world.history <:+ earlier) :
    ∃ left from' page before rest next, page.ids = before ++ channel :: rest ∧
      next.buffer = some buffer ∧
      next.world.history = .noted (.skipped channel answer.fault) ::
        .called (.readAttributes channel key 1) answer :: earlier ∧
      (findChannelFrom platform key value budget start).run endpoint =
        (searchOn platform key value left from' page rest).run next := by
  induction budget generalizing start endpoint with
  | zero =>
    have hsame : endpoint.world.history =
      later ++ .called (.readAttributes channel key 1) answer :: earlier := hrun
    exact (false_of_eq hsame hstart).elim
  | succ budget ih =>
    obtain ⟨hlisted, during, hduring, hapart⟩ := suffix_channelIds platform hbuffer start
    rw [findChannelFrom_succ, run_bind] at hrun ⊢
    generalize (channelIds platform start).run endpoint = result at hlisted hduring hrun ⊢
    obtain ⟨outcome, middle⟩ := result
    dsimp only at hlisted hduring hrun ⊢
    -- no attribute is read while the page is listed
    have hmiddle (hsuffix : middle.world.history <:+
        later ++ .called (.readAttributes channel key 1) answer :: earlier) :
        middle.world.history <:+ earlier := by
      rw [hduring] at hsuffix ⊢
      exact suffix_of_not_mem hsuffix hstart (hapart channel key 1 answer)
    cases outcome with
    | error fault => exact (false_of_eq hrun (hmiddle (hrun ▸ List.suffix_rfl))).elim
    | ok page =>
      by_cases hreturned : page.returned = 0
      · simp only [if_pos hreturned, run_bind, run_refuse, World.history_noted] at hrun
        have hbefore := hmiddle (hrun ▸ List.suffix_cons _ _)
        exact (false_of_cons hrun nofun hbefore).elim
      · simp only [if_neg hreturned] at hrun ⊢
        have hsuffix := suffix_searchOn platform hlisted key value budget start page page.ids
        rw [hrun] at hsuffix
        rcases searchOn_skips hanswer page.ids hlisted hrun (hmiddle hsuffix) with
          ⟨before, rest, next, hids, hnext, hhistory, hsame⟩ | ⟨next, hnext, hbefore, hsame⟩
        · exact ⟨budget, start, page, before, rest, next, hids, hnext, hhistory, hsame⟩
        · rw [hsame] at hrun ⊢
          exact ih _ hnext hrun hbefore

end Skips

end MessageProxy.Endpoint
