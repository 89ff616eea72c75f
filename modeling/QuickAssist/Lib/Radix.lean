import Mathlib.Data.Nat.ModEq

/-!
# Tables of tables

A map from paths to values: a table of the last level holds values, one of any other level may or may not hold a table
of the next. A path says which place of the table to go to at each level, and level 0 is the last one. Tables are made
when something is stored below them, and making one can fail; then nothing is stored.
-/

namespace QuickAssist.Lib

open Function Nat

/-- A pointer to a table `d` levels above the last one. -/
inductive Radix (ι α : Type) : ℕ → Type
  | missing {d : ℕ} : Radix ι α d
  | leaf (values : ι → α) : Radix ι α 0
  | node {d : ℕ} (tables : ι → Radix ι α d) : Radix ι α (d + 1)

namespace Radix

variable {ι α : Type} {d : ℕ} (z : α)

/-- A new table, where the last level is filled with `z`. -/
def empty (z : α) : (d : ℕ) → Radix ι α d
  | 0 => .leaf fun _ => z
  | _ + 1 => .node fun _ => .missing

/-- The next table, which is made if it is missing, provided that this does not fail. -/
def next (z : α) (make : Bool) : {d : ℕ} → Radix ι α d → Radix ι α d
  | d, .missing => if make then empty z d else .missing
  | _, t => t

/-- Store a value at the end of a path, where `make` says at which levels tables can be made. -/
def store [DecidableEq ι] (z : α) (make : ℕ → Bool) (path : ℕ → ι) (a : α) : (d : ℕ) → Radix ι α d → Radix ι α d
  | _, .missing => .missing
  | 0, .leaf values => .leaf (update values (path 0) a)
  | d + 1, .node tables =>
    .node (update tables (path (d + 1))
      (store z make path a d (next z (make (d + 1)) (tables (path (d + 1))))))

/-- Whether all the tables of a path are there or can be made. -/
def reaches (z : α) (make : ℕ → Bool) (path : ℕ → ι) : (d : ℕ) → Radix ι α d → Bool
  | _, .missing => false
  | 0, .leaf _ => true
  | d + 1, .node tables => reaches z make path d (next z (make (d + 1)) (tables (path (d + 1))))

/-- The value at the end of a path, if the tables of the path are there. -/
def load (path : ℕ → ι) : (d : ℕ) → Radix ι α d → Option α
  | _, .missing => none
  | 0, .leaf values => some (values (path 0))
  | d + 1, .node tables => load path d (tables (path (d + 1)))

/-- The value at the end of a path, where a table that is missing is as good as a new one. -/
def entry (z : α) (path : ℕ → ι) (d : ℕ) (t : Radix ι α d) : α := (load path d t).getD z

lemma entry_empty (path : ℕ → ι) (d : ℕ) : entry z path d (empty z d) = z := by
  cases d with
  | zero => rfl
  | succ d => cases d <;> rfl

lemma entry_next (make : Bool) (path : ℕ → ι) (t : Radix ι α d) :
    entry z path d (next z make t) = entry z path d t := by
  cases t with
  | missing =>
    rw [next]
    split
    · cases d <;> rfl
    · rfl
  | leaf values | node tables => rfl

lemma load_congr {p q : ℕ → ι} (d : ℕ) (h : ∀ i, i < d + 1 → p i = q i) (t : Radix ι α d) :
    load p d t = load q d t := by
  induction d with
  | zero =>
    cases t with
    | missing => rfl
    | leaf values => rw [load, load, h 0 (lt_succ_self 0)]
  | succ d ih =>
    cases t with
    | missing => rfl
    | node tables =>
      rw [load, load, h (d + 1) (lt_succ_self _)]
      apply ih
      intro i hi
      exact h i (lt_succ_of_lt hi)

lemma empty_ne_missing (d : ℕ) : (empty z d : Radix ι α d) ≠ .missing := by
  cases d with
  | zero | succ d => rintro ⟨⟩

lemma next_of_ne_missing (make : Bool) {t : Radix ι α d} (h : t ≠ .missing) : next z make t = t := by
  cases t with
  | missing => exact absurd rfl h
  | leaf values | node tables => rfl

lemma reaches_of_make (path : ℕ → ι) {t : Radix ι α d} (h : t ≠ .missing) :
    reaches z (fun _ => true) path d t = true := by
  induction d with
  | zero =>
    cases t with
    | missing => exact absurd rfl h
    | leaf values => rfl
  | succ d ih =>
    cases t with
    | missing => exact absurd rfl h
    | node tables =>
      apply ih
      cases tables (path (d + 1)) with
      | missing => exact empty_ne_missing z d
      | leaf values | node tables => rintro ⟨⟩

variable [DecidableEq ι]

lemma store_ne_missing (make : ℕ → Bool) (path : ℕ → ι) (a : α) {t : Radix ι α d}
    (h : t ≠ .missing) : store z make path a d t ≠ .missing := by
  cases t with
  | missing => exact absurd rfl h
  | leaf values | node tables => rintro ⟨⟩

/-- **What is stored is found**, at the paths that agree with its own and nowhere else. -/
theorem entry_store (make : ℕ → Bool) (p q : ℕ → ι) (a : α) (d : ℕ) (t : Radix ι α d) :
    entry z q d (store z make p a d t) =
      if reaches z make p d t = true ∧ ∀ i, i < d + 1 → p i = q i then a else entry z q d t := by
  induction d with
  | zero =>
    cases t with
    | missing => rfl
    | leaf values =>
      have hpath : (∀ i, i < 0 + 1 → p i = q i) ↔ q 0 = p 0 := by
        simp [eq_comm]
      rw [entry, store, load, Option.getD_some, update_apply]
      refine if_congr ?_ rfl rfl
      rw [hpath]
      exact (and_iff_right rfl).symm
  | succ d ih =>
    cases t with
    | missing => rfl
    | node tables =>
      rw [entry, store, load, reaches, entry, load]
      by_cases hq : q (d + 1) = p (d + 1)
      · rw [hq, update_self, ← entry, ih, entry_next, ← entry]
        refine if_congr (and_congr_right fun _ => ?_) rfl rfl
        rw [forall_lt_succ_right (n := d + 1)]
        exact (and_iff_left hq.symm).symm
      · rw [update_of_ne hq, if_neg]
        rintro ⟨-, h⟩
        exact hq (h (d + 1) (lt_succ_self _)).symm

/-- **Which last tables there are**, as long as tables can be made: storing adds the one at the end of
the path, and no other. -/
theorem isSome_load_store (p q : ℕ → ι) (a : α) (d : ℕ) (t : Radix ι α d) :
    (load q d (store z (fun _ => true) p a d (next z true t))).isSome = true ↔
      (load q d t).isSome = true ∨ ∀ i, i < d → p (i + 1) = q (i + 1) := by
  induction d with
  | zero =>
    refine iff_of_true ?_ (Or.inr fun i hi => absurd hi (Nat.not_lt_zero i))
    cases t <;> rfl
  | succ d ih =>
    obtain ⟨tables, ht, hload⟩ : ∃ tables, next z true t = .node tables ∧
        (load q (d + 1) t).isSome = (load q d (tables (q (d + 1)))).isSome := by
      cases t with
      | missing => exact ⟨fun _ => .missing, rfl, by cases d <;> rfl⟩
      | node tables => exact ⟨tables, rfl, rfl⟩
    rw [ht, store, load, hload]
    by_cases hq : q (d + 1) = p (d + 1)
    · rw [hq, update_self, ih, forall_lt_succ_right (n := d)]
      exact or_congr_right (and_iff_left hq.symm).symm
    · rw [update_of_ne hq]
      refine (or_iff_left ?_).symm
      intro h
      exact hq (h d (lt_succ_self d)).symm

end Radix

/-! ## Paths made of digits -/

/-- Numbers with the same digits are the same, up to what the digits do not show. -/
lemma digits_eq_iff (b x y d : ℕ) : (∀ i, i < d → x / b ^ i % b = y / b ^ i % b) ↔ x % b ^ d = y % b ^ d := by
  induction d with
  | zero =>
    rw [Nat.pow_zero, mod_one, mod_one]
    exact iff_of_true (fun i hi => absurd hi (Nat.not_lt_zero i)) rfl
  | succ d ih =>
    rw [mod_pow_succ, mod_pow_succ]
    constructor
    · intro h
      rw [ih.mp fun i hi => h i (lt_succ_of_lt hi), h d (lt_succ_self d)]
    · intro h
      have hlow : x % b ^ d = y % b ^ d := by
        have hmod := congrArg (· % b ^ d) h
        simpa using hmod
      intro i hi
      rcases Nat.lt_succ_iff_lt_or_eq.mp hi with hi | rfl
      · exact ih.mpr hlow i hi
      · rw [hlow] at h
        rcases Nat.eq_zero_or_pos b with rfl | hb
        · cases i with
          | zero => simpa using h
          | succ i => simp
        · exact Nat.eq_of_mul_eq_mul_left (Nat.pow_pos hb) (Nat.add_left_cancel h)

end QuickAssist.Lib
