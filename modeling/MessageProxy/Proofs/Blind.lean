import MessageProxy.Proofs.Action

/-!
Runs of one action from two states.

An action is blind to what tells related states apart when from any two of them it comes to the same
outcome, and ends in states that are related again. How the last states are related may depend on
the outcome. This is proved along the structure of the action.
-/

namespace MessageProxy

variable {ε σ α β : Type}

/-- From states that are related by `R` the action has one outcome. The last states are related by
`S` when it is a value, and by `E` when it is a failure. -/
def Blind (R : σ → σ → Prop) (E : ε → σ → σ → Prop) (action : ExceptT ε (StateM σ) α)
    (S : α → σ → σ → Prop) : Prop :=
  ∀ first second, R first second →
    (action.run second).1 = (action.run first).1 ∧
      match (action.run first).1 with
      | .ok value => S value (action.run first).2 (action.run second).2
      | .error failure => E failure (action.run first).2 (action.run second).2

namespace Blind

variable {R T : σ → σ → Prop} {E : ε → σ → σ → Prop} {Q S : α → σ → σ → Prop}

theorem pure {value : α} (hrelated : ∀ first second, R first second → S value first second) :
    Blind R E (pure value : ExceptT ε (StateM σ) α) S :=
  fun first second hbefore => ⟨rfl, hrelated first second hbefore⟩

theorem throw {failure : ε} (hrelated : ∀ first second, R first second → E failure first second) :
    Blind R E (throw failure : ExceptT ε (StateM σ) α) S :=
  fun first second hbefore => ⟨rfl, hrelated first second hbefore⟩

theorem bind {action : ExceptT ε (StateM σ) α} {next : α → ExceptT ε (StateM σ) β}
    {S : β → σ → σ → Prop} (haction : Blind R E action Q)
    (hnext : ∀ value, Blind (Q value) E (next value) S) : Blind R E (action >>= next) S := by
  intro first second hbefore
  obtain ⟨hsame, hmiddle⟩ := haction first second hbefore
  rw [run_bind, run_bind]
  generalize action.run first = one at hsame hmiddle ⊢
  generalize action.run second = other at hsame hmiddle ⊢
  obtain ⟨outcome, first⟩ := one
  obtain ⟨_, second⟩ := other
  cases hsame
  cases outcome with
  | ok value => exact hnext value first second hmiddle
  | error failure => exact ⟨rfl, hmiddle⟩

theorem mono {action : ExceptT ε (StateM σ) α} (haction : Blind R E action Q)
    (hbefore : ∀ first second, T first second → R first second)
    (hafter : ∀ value first second, Q value first second → S value first second) :
    Blind T E action S := by
  intro first second hrelated
  obtain ⟨hsame, hlast⟩ := haction first second (hbefore first second hrelated)
  refine ⟨hsame, ?_⟩
  cases houtcome : (action.run first).1 with
  | ok value =>
    rw [houtcome] at hlast
    exact hafter value _ _ hlast
  | error failure =>
    rw [houtcome] at hlast
    exact hlast

theorem map (change : α → β) {action : ExceptT ε (StateM σ) α}
    (haction : Blind R E action fun _ => T) : Blind R E (change <$> action) fun _ => T := by
  rw [← bind_pure_comp]
  exact haction.bind fun _ => .pure fun _ _ hrelated => hrelated

/-- Where a failure is looked at like a value, the last states are related the same way. -/
theorem observing {action : ExceptT ε (StateM σ) α}
    (haction : Blind R (fun _ => T) action fun _ => T) :
    Blind R E (observing action) fun _ => T := by
  intro first second hrelated
  obtain ⟨hsame, hlast⟩ := haction first second hrelated
  rw [run_observing, run_observing]
  refine ⟨congrArg Except.ok hsame, ?_⟩
  cases houtcome : (action.run first).1 with
  | ok value =>
    rw [houtcome] at hlast
    exact hlast
  | error failure =>
    rw [houtcome] at hlast
    exact hlast

theorem ite {condition : Prop} [Decidable condition] {first second : ExceptT ε (StateM σ) α}
    (hfirst : Blind R E first S) (hsecond : Blind R E second S) :
    Blind R E (if condition then first else second) S := by
  split
  · exact hfirst
  · exact hsecond

/-- The rest of an action comes after the first part or without it. -/
theorem ite_bind {condition : Prop} [Decidable condition] {first : ExceptT ε (StateM σ) PUnit}
    {rest : ExceptT ε (StateM σ) α} (hfirst : Blind R E first fun _ => R)
    (hrest : Blind R E rest S) :
    Blind R E (if condition then first >>= fun _ => rest else rest) S :=
  .ite (.bind hfirst fun _ => hrest) hrest

/-- What is known of the outcome or the states besides may be used. -/
theorem of_and {fact : Prop} {action : ExceptT ε (StateM σ) α}
    (haction : fact → Blind R E action S) :
    Blind (fun first second => fact ∧ R first second) E action S :=
  fun first second hrelated => haction hrelated.1 first second hrelated.2

end Blind

end MessageProxy
