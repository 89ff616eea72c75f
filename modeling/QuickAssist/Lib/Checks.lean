import Mathlib.Tactic.Common

/-!
# Calls that check before they act

A call that is made of checks, each of which may end it with a status, is an `Except ε`. `refuse` is
one such check; the lemmas about `>>=` take a call apart, one check at a time.
-/

namespace QuickAssist.Lib

variable {ε α β : Type}

/-- Return the status `e` if `c`. -/
def refuse (e : ε) (c : Prop) [Decidable c] : Except ε Unit := if c then .error e else .ok ()

/-- What passes a check does not meet its condition. -/
@[simp] lemma refuse_eq_ok {e : ε} {c : Prop} [Decidable c] : refuse e c = .ok () ↔ ¬ c := by
  unfold refuse
  split <;> simp [*]

/-- A check and what comes after it succeed iff both do. -/
@[simp] lemma bind_eq_ok {x : Except ε Unit} {f : Unit → Except ε α} {a : α} :
    (x >>= f) = .ok a ↔ x = .ok () ∧ f () = .ok a := by
  rcases x with e | ⟨⟩ <;> simp [bind, Except.bind]

/-- What succeeds after a call that yields a value has been given the value. -/
lemma bind_value_eq_ok {x : Except ε α} {f : α → Except ε β} {b : β} :
    (x >>= f) = .ok b ↔ ∃ a, x = .ok a ∧ f a = .ok b := by
  cases x <;> simp [bind, Except.bind]

end QuickAssist.Lib
