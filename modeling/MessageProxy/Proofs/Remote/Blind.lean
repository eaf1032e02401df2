import MessageProxy.Proofs.Blind
import MessageProxy.Proofs.Remote.Directory
import MessageProxy.Proofs.Remote.Messages

/-!
What a remote makes of a shared buffer whose first bytes are known.

A remote reads only what a client has just put there, and what it writes does not depend on the rest
of the buffer. So two runs that start from the same first bytes stay in step, and differ at most in
what lies behind.
-/

namespace MessageProxy.Remote

variable {κ : Type} {setup : Setup κ} {address : UInt64} {staged : Bytes}

/-- Two runs of a remote are in step: they differ at most in the block at `address`, which the
remote has registered, and there not in the first bytes, which are `staged`. -/
structure Front (address : UInt64) (staged : Bytes) (first second : Memory × State κ) : Prop where
  state : second.2 = first.2
  registered : first.2.registered = some address
  elsewhere : ∀ other ≠ address, second.1.block other = first.1.block other
  front : ∀ length ≤ staged.length, first.1.fetch address length = staged.take length
  front_second : ∀ length ≤ staged.length, second.1.fetch address length = staged.take length

namespace Front

variable {first second : Memory × State κ}

theorem behind (hfront : Front address staged first second) : Front address [] first second := by
  refine ⟨hfront.state, hfront.registered, hfront.elsewhere, ?_, ?_⟩
  · intro length hlength
    obtain rfl := Nat.le_zero.1 hlength
    exact hfront.front 0 (Nat.zero_le _)
  · intro length hlength
    obtain rfl := Nat.le_zero.1 hlength
    exact hfront.front_second 0 (Nat.zero_le _)

theorem store (hfront : Front address staged first second) (bytes : Bytes) :
    Front address bytes (first.1.store address bytes, first.2)
      (second.1.store address bytes, second.2) where
  state := hfront.state
  registered := hfront.registered
  elsewhere other hother := by
    have hsame := hfront.elsewhere other hother
    simpa only [Memory.store, Memory.replace, if_neg hother] using hsame
  front _ hlength := Memory.fetch_store_of_le first.1 address hlength
  front_second _ hlength := Memory.fetch_store_of_le second.1 address hlength

theorem update (hfront : Front address staged first second) (change : State κ → State κ)
    (hregistered : ∀ state, (change state).registered = state.registered) :
    Front address staged (first.1, change first.2) (second.1, change second.2) where
  state := congrArg change hfront.state
  registered := (hregistered first.2).trans hfront.registered
  elsewhere := hfront.elsewhere
  front := hfront.front
  front_second := hfront.front_second

end Front

/-- A reaction has failed with one of the statuses `P`, and the runs are still in step. -/
def Failed (P : Status → Prop) (address : UInt64) (status : Status)
    (first second : Memory × State κ) : Prop :=
  P status ∧ Front address [] first second

variable {P : Status → Prop}

theorem blind_throw {α : Type} {S : α → Memory × State κ → Memory × State κ → Prop}
    {status : Status} (hstatus : P status) :
    Blind (Front address staged) (Failed P address) (throw status : Reaction κ α) S :=
  .throw fun _ _ hfront => ⟨hstatus, hfront.behind⟩

theorem blind_update (change : State κ → State κ)
    (hregistered : ∀ state, (change state).registered = state.registered) :
    Blind (Front address staged) (Failed P address) (update change) fun _ =>
      Front address staged :=
  fun _ _ hfront => ⟨rfl, hfront.update change hregistered⟩

theorem blind_load (hP : P .invalidParam) {length : UInt64}
    (hlength : length.toNat ≤ staged.length) :
    Blind (Front address staged) (Failed P address) (load setup length : Reaction κ Bytes)
      fun _ => Front address staged := by
  rintro ⟨memory, _⟩ ⟨other, state⟩ hfront
  obtain rfl : state = _ := hfront.state
  rw [run_load, run_load]
  by_cases hlarge : length > setup.size
  · rw [if_pos hlarge, if_pos hlarge]
    exact ⟨rfl, hP, hfront.behind⟩
  · have hregistered : state.registered = some address := hfront.registered
    rw [if_neg hlarge, if_neg hlarge]
    simp only [hregistered]
    exact ⟨congrArg Except.ok ((hfront.front_second _ hlength).trans
      (hfront.front _ hlength).symm), hfront⟩

theorem blind_store (hP : P .failed) (bytes : Bytes) :
    Blind (Front address staged) (Failed P address) (store setup bytes : Reaction κ Unit)
      fun _ => Front address bytes := by
  rintro ⟨memory, _⟩ ⟨other, state⟩ hfront
  obtain rfl : state = _ := hfront.state
  rw [run_store, run_store]
  by_cases hlarge : bytes.length > setup.size.toNat
  · rw [if_pos hlarge, if_pos hlarge]
    exact ⟨rfl, hP, hfront.behind⟩
  · have hregistered : state.registered = some address := hfront.registered
    rw [if_neg hlarge, if_neg hlarge]
    simp only [hregistered]
    exact ⟨trivial, hfront.store bytes⟩

/-- A page is there in full: it has as many ids as its second word says. -/
def Whole (words : List UInt32) : Prop :=
  ∃ remaining returned ids, words = remaining :: returned :: ids ∧ returned.toNat ≤ ids.length

theorem toNat_toUInt64_le (count : Nat) : count.toUInt64.toNat ≤ count := by
  rw [Nat.toUInt64_eq, UInt64.toNat_ofNat']
  exact Nat.mod_le _ _

theorem toNat_toUInt32_le (count : Nat) : count.toUInt32.toNat ≤ count := by
  rw [Nat.toUInt32_eq, UInt32.toNat_ofNat']
  exact Nat.mod_le _ _

/-- A page that the remote lists is there in full. -/
theorem blind_listChannels (hcounted : setup.listedCount = none) (start : UInt64) :
    Blind (Front address staged) (Failed (·.code ≠ 0) address)
      (listChannels setup start : Reaction κ Unit) fun _ first second =>
        ∃ words, Whole words ∧ Front address (Bytes.ofWords words) first second := by
  have hstore : ∀ words, Whole words → Blind (Front address staged) (Failed (·.code ≠ 0) address)
      (store setup (Bytes.ofWords words) : Reaction κ Unit) fun _ first second =>
        ∃ words, Whole words ∧ Front address (Bytes.ofWords words) first second := by
    intro words hwords
    exact (blind_store (by decide) _).mono (fun _ _ hfront => hfront)
      fun _ _ _ hfront => ⟨words, hwords, hfront⟩
  unfold listChannels
  simp only [hcounted]
  refine .ite_bind (blind_throw (by decide)) ?_
  refine .ite (hstore _ ⟨_, _, [], rfl, Nat.le_refl 0⟩) ?_
  refine hstore _ ⟨_, _, _, rfl, Nat.le_trans (toNat_toUInt32_le _) ?_⟩
  rw [List.length_take, List.length_drop]
  omega

/-- The remote reads its own attributes, of which there are as many as are asked for. -/
theorem blind_readAttributes (hreports : setup.ReportsReads) (id first count : UInt32) :
    Blind (Front address staged) (Failed (·.code ≠ 0) address)
      (readAttributes setup id first count : Reaction κ Unit) fun _ one other =>
        ∃ values, values.length = count.toNat ∧ Front address (Bytes.ofWords values) one other := by
  rintro ⟨memory, _⟩ ⟨other, state⟩ hfront
  obtain rfl : state = _ := hfront.state
  have hregistered : state.registered = some address := hfront.registered
  rw [run_readAttributes setup hregistered, run_readAttributes setup hregistered]
  cases hvalues : setup.attributes state.held id first count with
  | error status => exact ⟨rfl, code_ne_of_attributes hreports hvalues, hfront.behind⟩
  | ok values =>
    dsimp only
    by_cases hlarge : 4 * values.length > setup.size.toNat
    · rw [if_pos hlarge, if_pos hlarge]
      exact ⟨rfl, by decide, hfront.behind⟩
    · rw [if_neg hlarge, if_neg hlarge]
      exact ⟨rfl, values, length_of_attributes hvalues, hfront.store _⟩

/-- The remote takes attributes from what has been put into the buffer. -/
theorem blind_writeAttributes (id first : UInt32) {count : UInt64}
    (hcount : (count * 4).toNat ≤ staged.length) :
    Blind (Front address staged) (Failed (·.code ≠ 0) address)
      (writeAttributes setup id first count : Reaction κ Unit) fun _ => Front address staged := by
  refine .bind (blind_load (by decide) hcount) fun bytes => ?_
  exact .ite_bind (blind_throw (by decide)) (blind_update _ fun _ => rfl)

/-- The remote keeps a message as it has been put into the buffer. -/
theorem blind_keep (id message : UInt32) {length : UInt64}
    (hlength : length.toNat ≤ staged.length) :
    Blind (Front address staged) (Failed (·.code ≠ 0) address)
      (keep setup id message length : Reaction κ Unit) fun _ => Front address staged := by
  refine .bind (blind_load (by decide) hlength) fun bytes => ?_
  exact .ite_bind (blind_throw (by decide)) (blind_update _ fun _ => rfl)

/-- A handler sees a message as it has been put into the buffer, and its response is there in
full. -/
theorem blind_answer (hreported : setup.reportedLength = none) (id message : UInt32)
    {length : UInt64} (hlength : length.toNat ≤ staged.length) :
    Blind (Front address staged) (Failed (fun _ => True) address)
      (answer setup id message length : Reaction κ UInt64) fun value first second =>
        ∃ response, value.toNat ≤ response.length ∧ Front address response first second := by
  rintro ⟨memory, _⟩ ⟨other, state⟩ hfront
  obtain rfl : state = _ := hfront.state
  have hregistered : state.registered = some address := hfront.registered
  by_cases hlarge : length > setup.size
  · have hload : ∀ memory, (answer setup id message length).run (memory, state) =
        (.error .invalidParam, memory, state) := by
      intro memory
      rw [answer, run_bind, run_load, if_pos hlarge]
    rw [hload, hload]
    exact ⟨rfl, trivial, hfront.behind⟩
  have hrequest : other.fetch address length.toNat = memory.fetch address length.toNat :=
    (hfront.front_second _ hlength).trans (hfront.front _ hlength).symm
  rw [run_answer hlarge hregistered, run_answer hlarge hregistered, hrequest]
  obtain ⟨outcome, agents⟩ :=
    reply setup id message (memory.fetch address length.toNat) state.agents
  have hheard := hfront.update ({ · with agents }) fun _ => rfl
  cases outcome with
  | error status => exact ⟨rfl, trivial, hheard.behind⟩
  | ok response =>
    dsimp only
    by_cases hlong : response.length > setup.size.toNat
    · rw [if_pos hlong, if_pos hlong]
      exact ⟨rfl, trivial, hheard.behind⟩
    · rw [if_neg hlong, if_neg hlong, hreported]
      exact ⟨rfl, response, toNat_toUInt64_le _, hheard.store response⟩

/-- A call to the message proxy is logged and then answered, if there is a message proxy. -/
theorem blind_react {call : Call} (hextension : call.extension = Extension.messageProxy)
    (hP : P .notSupported) {S : UInt64 → Memory × State κ → Memory × State κ → Prop}
    (hproxy : Blind (Front address staged) (Failed P address)
      (messageProxy setup call.function call.arguments) S) :
    Blind (Front address staged) (Failed P address) (react setup call) S := by
  have hbase : ¬call.extension = Extension.base := by
    rw [hextension]
    decide
  have hevents : ¬(call.extension = Extension.softwareEvents ∧ setup.hasSoftwareEvents) := by
    rw [hextension]
    exact fun hsame => absurd hsame.1 (by decide)
  unfold react
  rw [if_neg hbase, if_neg hevents]
  exact .bind (blind_update _ fun _ => rfl) fun _ => .ite hproxy (blind_throw hP)

section Calls

variable (channel : ChannelId)

theorem blind_react_listChannels (hcounted : setup.listedCount = none) (start : UInt32) :
    Blind (Front address staged) (Failed (·.code ≠ 0) address)
      (react setup (.listChannels start)) fun _ first second =>
        ∃ words, Whole words ∧ Front address (Bytes.ofWords words) first second :=
  blind_react rfl (by decide) (.bind (blind_listChannels hcounted start.toUInt64) fun _ =>
    .pure fun _ _ hrelated => hrelated)

theorem blind_react_readAttributes (hreports : setup.ReportsReads) (first count : UInt32) :
    Blind (Front address staged) (Failed (·.code ≠ 0) address)
      (react setup (.readAttributes channel first count)) fun _ one other =>
        ∃ values, values.length = count.toNat ∧ Front address (Bytes.ofWords values) one other := by
  refine blind_react rfl (by decide) ?_
  change Blind _ _ (do
    readAttributes setup channel.raw.toUInt64.toUInt32 first.toUInt64.toUInt32
      count.toUInt64.toUInt32
    return 0 : Reaction κ UInt64) _
  simp only [UInt32.toUInt32_toUInt64]
  exact .bind (blind_readAttributes hreports channel.raw first count) fun _ =>
    .pure fun _ _ hrelated => hrelated

theorem blind_react_writeAttributes (first : UInt32) {count : Nat}
    (hcount : 4 * count ≤ staged.length) :
    Blind (Front address staged) (Failed (·.code ≠ 0) address)
      (react setup (.writeAttributes channel first count)) fun _ => Front address staged := by
  have hbytes : (count.toUInt64 * 4).toNat ≤ staged.length := by
    have hfour : (4 : UInt64).toNat = 4 := rfl
    rw [UInt64.toNat_mul, Nat.toUInt64_eq, UInt64.toNat_ofNat', hfour]
    omega
  exact blind_react rfl (by decide) (.bind (blind_writeAttributes _ _ hbytes) fun _ =>
    .pure fun _ _ hrelated => hrelated)

theorem blind_react_send (hreported : setup.reportedLength = none) (message : UInt32) {length : Nat}
    (hlength : length ≤ staged.length) :
    Blind (Front address staged) (Failed (fun _ => True) address)
      (react setup (.send channel message length)) fun value first second =>
        ∃ response, value.toNat ≤ response.length ∧ Front address response first second :=
  blind_react rfl trivial (blind_answer hreported _ _
    (Nat.le_trans (toNat_toUInt64_le length) hlength))

theorem blind_react_post (message : UInt32) {length : Nat} (hlength : length ≤ staged.length) :
    Blind (Front address staged) (Failed (·.code ≠ 0) address)
      (react setup (.post channel message length)) fun _ => Front address staged :=
  blind_react rfl (by decide) (.bind
    (blind_keep _ _ (Nat.le_trans (toNat_toUInt64_le length) hlength)) fun _ =>
      .pure fun _ _ hrelated => hrelated)

end Calls

end MessageProxy.Remote
