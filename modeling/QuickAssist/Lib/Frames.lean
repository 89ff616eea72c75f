import Mathlib.Computability.Language

/-!
# Words made of frames

A frame is a first letter, then any number of middle ones, then a last. `frames` is the language of words made of
frames, and `openFrames` the language of words that break off within one.
-/

namespace QuickAssist.Lib

open Computability

variable {α : Type*} (first mid last : α)

/-- A first letter, middle letters and a last letter. -/
def frame : Language α := {[first]} * {[mid]}∗ * {[last]}

/-- Words made of frames. -/
def frames : Language α := (frame first mid last)∗

/-- Words made of frames, and a frame that breaks off before its last letter. -/
def openFrames : Language α := frames first mid last * ({[first]} * {[mid]}∗)

variable {first mid last} {w : List α}

lemma mem_letter (a : α) : [a] ∈ ({[a]} : Language α) := rfl

lemma append_first (h : w ∈ frames first mid last) : w ++ [first] ∈ openFrames first mid last := by
  apply Language.append_mem_mul h
  exact Language.append_mem_mul (mem_letter first) (Language.nil_mem_kstar _)

lemma append_mid (h : w ∈ openFrames first mid last) : w ++ [mid] ∈ openFrames first mid last := by
  have hle : openFrames first mid last * {[mid]} ≤ openFrames first mid last := by
    unfold openFrames
    rw [mul_assoc, mul_assoc]
    gcongr
    exact kstar_mul_le_kstar
  exact hle (Language.append_mem_mul h (mem_letter mid))

lemma append_last (h : w ∈ openFrames first mid last) : w ++ [last] ∈ frames first mid last := by
  have hle : openFrames first mid last * {[last]} ≤ frames first mid last := by
    unfold openFrames frames
    rw [mul_assoc]
    exact kstar_mul_le_kstar
  exact hle (Language.append_mem_mul h (mem_letter last))

/-- **A word that breaks off can be completed.** -/
theorem exists_append_mem_frames (h : w ∈ frames first mid last ∨ w ∈ openFrames first mid last) :
    ∃ rest, w ++ rest ∈ frames first mid last := by
  rcases h with h | h
  · refine ⟨[], ?_⟩
    rw [List.append_nil]
    exact h
  · exact ⟨[last], append_last h⟩

end QuickAssist.Lib
