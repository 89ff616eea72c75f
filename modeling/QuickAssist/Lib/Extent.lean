import Mathlib.Data.List.Basic

/-!
# Extents of addresses

An extent is a range of addresses, given by where it starts and how long it is. Two extents are
*apart* if one ends before the other starts, and one is *within* another if it starts and ends there.
What is within extents that are apart is apart.
-/

namespace QuickAssist.Lib

/-- The addresses from `start` to `start + len`. -/
structure Extent where
  start : ℕ
  len : ℕ

namespace Extent

variable {d d' e e' : Extent} {a : ℕ}

/-- An address lies in an extent. -/
def Has (e : Extent) (a : ℕ) : Prop := e.start ≤ a ∧ a < e.start + e.len
  deriving Decidable

/-- One extent is within another one. -/
def Within (d e : Extent) : Prop := e.start ≤ d.start ∧ d.start + d.len ≤ e.start + e.len
  deriving Decidable

/-- One of two extents ends before the other one starts. -/
def Apart (d e : Extent) : Prop := d.start + d.len ≤ e.start ∨ e.start + e.len ≤ d.start
  deriving Decidable

lemma Apart.symm (h : d.Apart e) : e.Apart d := Or.symm h

lemma Apart.not_has (h : d.Apart e) (ha : d.Has a) : ¬ e.Has a := by
  rintro ⟨hstart, hend⟩
  obtain ⟨hstart', hend'⟩ := ha
  rcases h with h | h <;> omega

lemma Apart.of_within (h : d'.Apart e') (hd : d.Within d') (he : e.Within e') : d.Apart e := by
  obtain ⟨hd₁, hd₂⟩ := hd
  obtain ⟨he₁, he₂⟩ := he
  rcases h with h | h
  · left
    omega
  · right
    omega

/-- The start of an extent that is not empty lies in what the extent is within. -/
lemma Within.has_start (h : d.Within e) (hd : 0 < d.len) : e.Has d.start :=
  ⟨h.1, Nat.lt_of_lt_of_le (Nat.lt_add_of_pos_right hd) h.2⟩

end Extent

end QuickAssist.Lib
