import QuickAssist.UserRing.Ring

/-!
# Puts that fail

The request ring and the response ring of an instance have one in-flight count, and a put raises it before it finds
out whether it goes through. A put that does not should leave the count as it was, since nothing else lowers it again.

**The defect.** A message can have 64 or 128 bytes. A put on a ring whose messages have another size fails after the
count was raised, and does not lower it as the check for a full ring does (`failed_put_counts`).
-/

namespace QuickAssist.UserRing

open Lib

variable {ι μ : Type*}

/-! ## Rings with one count -/

@[ext] structure SharedRings (ι μ : Type*) where
  rings : ι → Ring μ
  /-- The count, an `uint32_t`. -/
  inFlight : ℕ
  word : inFlight < 2 ^ 32

structure PutCall (ι μ : Type*) where
  ring : ι
  lockOk : Bool
  inBuf : Option μ
  bufLen : ℕ

lemma adfUserPutMsg_word {ring : Ring μ} {inFlight : ℕ} {lockOk : Bool} {inBuf : μ}
    (h : inFlight < 2 ^ 32) : (adfUserPutMsg ring inFlight lockOk inBuf).2.2 < 2 ^ 32 := by
  have hu32 : ∀ x, u32 x < 2 ^ 32 := fun x => Nat.mod_lt x (by decide)
  simp only [adfUserPutMsg]
  split_ifs
  · exact h
  all_goals exact hu32 _

/-- A put on one of the rings, where no status is `CPA_STATUS_INVALID_PARAM`. -/
def icpAdfTransPutMsg [DecidableEq ι] (s : SharedRings ι μ) (c : PutCall ι μ) : Option CpaStatus × SharedRings ι μ :=
  if u32 (c.bufLen * 4) ≠ (s.rings c.ring).messageSize then (none, s)
  else
    match c.inBuf with
    | none => (none, s)
    | some inBuf =>
      let r := adfUserPutMsg (s.rings c.ring) s.inFlight c.lockOk inBuf
      (some r.1, ⟨Function.update s.rings c.ring r.2.1, r.2.2, adfUserPutMsg_word s.word⟩)

/-! ## What a put comes to -/

/-- A put gets as far as the copying of the message: its arguments are right, the mutex is taken and the
ring is not full. -/
def PutCall.Copies (s : SharedRings ι μ) (c : PutCall ι μ) : Prop :=
  u32 (c.bufLen * 4) = (s.rings c.ring).messageSize ∧ c.inBuf.isSome = true ∧ c.lockOk = true ∧
    u32 (s.inFlight + 1) ≤ (s.rings c.ring).maxRequestsInflight
  deriving Decidable

def Ring.Copyable (ring : Ring μ) : Prop := ring.messageSize = 64 ∨ ring.messageSize = 128
  deriving Decidable

def PutCall.Compensated (s : SharedRings ι μ) (c : PutCall ι μ) : Prop := c.Copies s → (s.rings c.ring).Copyable

section Puts

variable [DecidableEq ι] {s : SharedRings ι μ} {c : PutCall ι μ}

lemma icpAdfTransPutMsg_of_not_copies (h : ¬ c.Copies s) :
    (icpAdfTransPutMsg s c).1 ≠ some .success ∧ (icpAdfTransPutMsg s c).2 = s := by
  unfold icpAdfTransPutMsg
  split
  next => exact ⟨nofun, rfl⟩
  next hlen =>
    cases hbuf : c.inBuf with
    | none => exact ⟨nofun, rfl⟩
    | some inBuf =>
      simp only [adfUserPutMsg]
      by_cases hlock : c.lockOk = true
      · have hfull : (s.rings c.ring).maxRequestsInflight < u32 (s.inFlight + 1) := by
          by_contra hroom
          exact h ⟨not_not.mp hlen, by rw [hbuf]; rfl, hlock, not_lt.mp hroom⟩
        simp only [hlock, Bool.not_true, Bool.false_eq_true, if_false, if_pos hfull]
        refine ⟨by simp, SharedRings.ext (Function.update_eq_self _ _) ?_⟩
        -- the count is raised and lowered again
        have hword := s.word
        simp only [u32]
        omega
      · simp only [hlock, Bool.not_eq_true', if_true]
        exact ⟨by simp, SharedRings.ext (Function.update_eq_self _ _) rfl⟩

lemma icpAdfTransPutMsg_of_copies (h : c.Copies s) :
    if (s.rings c.ring).Copyable then (icpAdfTransPutMsg s c).1 = some .success
    else (icpAdfTransPutMsg s c).1 ≠ some .success ∧ (icpAdfTransPutMsg s c).2.inFlight = u32 (s.inFlight + 1) := by
  obtain ⟨hlen, hbuf, hlock, hroom⟩ := h
  obtain ⟨inBuf, hbuf⟩ := Option.isSome_iff_exists.mp hbuf
  simp only [icpAdfTransPutMsg, hlen, ne_eq, not_true, if_false, hbuf, adfUserPutMsg, hlock,
    Bool.not_true, Bool.false_eq_true, if_neg (not_lt.mpr hroom), Ring.Copyable]
  split <;> simp_all

/-- **A put that fails changes nothing exactly if it is compensated.** -/
theorem icpAdfTransPutMsg_failed_iff (hfail : (icpAdfTransPutMsg s c).1 ≠ some .success) :
    (icpAdfTransPutMsg s c).2 = s ↔ c.Compensated s := by
  by_cases hcopies : c.Copies s
  · have hput := icpAdfTransPutMsg_of_copies hcopies
    split at hput
    next => exact absurd hput hfail
    next hsize =>
      refine iff_of_false (fun heq => ?_) (fun hcomp => hsize (hcomp hcopies))
      rw [heq] at hput
      have hraised := hput.2
      unfold u32 at hraised
      omega
  · exact iff_of_true (icpAdfTransPutMsg_of_not_copies hcopies).2 (fun h => absurd h hcopies)

/-! ## One put after another -/

def afterPuts (s : SharedRings ι μ) : List (PutCall ι μ) → SharedRings ι μ
  | [] => s
  | c :: cs => afterPuts (icpAdfTransPutMsg s c).2 cs

def successes (s : SharedRings ι μ) : List (PutCall ι μ) → ℕ
  | [] => 0
  | c :: cs => (if (icpAdfTransPutMsg s c).1 = some .success then 1 else 0) + successes (icpAdfTransPutMsg s c).2 cs

def AllFail (s : SharedRings ι μ) : List (PutCall ι μ) → Prop
  | [] => True
  | c :: cs => (icpAdfTransPutMsg s c).1 ≠ some .success ∧ c.Compensated s ∧ AllFail (icpAdfTransPutMsg s c).2 cs

lemma afterPuts_of_allFail {cs : List (PutCall ι μ)} (h : AllFail s cs) : afterPuts s cs = s := by
  induction cs generalizing s with
  | nil => rfl
  | cons c cs ih =>
    obtain ⟨hfail, hcomp, hrest⟩ := h
    have heq := (icpAdfTransPutMsg_failed_iff hfail).mpr hcomp
    rw [afterPuts, heq]
    rw [heq] at hrest
    exact ih hrest

end Puts

/-- **Puts that fail** leave the rings and their count as they were exactly if they are compensated. -/
theorem failed_put_unchanged_iff [DecidableEq ι] :
    (∀ (s : SharedRings ι μ) (c : PutCall ι μ), (icpAdfTransPutMsg s c).1 ≠ some .success →
      ((icpAdfTransPutMsg s c).2 = s ↔ c.Compensated s)) ∧
    ∀ (s : SharedRings ι μ) (failing later : List (PutCall ι μ)), AllFail s failing →
      successes (afterPuts s failing) later = successes s later := by
  refine ⟨fun s c => icpAdfTransPutMsg_failed_iff, fun s failing later h => ?_⟩
  rw [afterPuts_of_allFail h]

def pairForTwo : SharedRings Bool Unit := ⟨fun request => adfInitRing 2 (if request then 128 else 32), 0, by decide⟩

/-- A put without a message changes nothing, and a message goes through afterwards. -/
theorem null_put_unchanged : (icpAdfTransPutMsg pairForTwo ⟨true, true, none, 32⟩).2 = pairForTwo ∧
      successes (afterPuts pairForTwo [⟨true, true, none, 32⟩]) [⟨true, true, some (), 32⟩] =
        successes pairForTwo [⟨true, true, some (), 32⟩] := by
  have hcomp : PutCall.Compensated pairForTwo ⟨true, true, none, 32⟩ := fun h => absurd h.2.1 (by decide)
  exact ⟨(failed_put_unchanged_iff.1 _ _ (by decide)).mpr hcomp,
    failed_put_unchanged_iff.2 _ _ _ ⟨by decide, hcomp, trivial⟩⟩

/-- **What goes wrong.** A put on the response ring fails and is counted, and there is no room for a request
afterwards. -/
theorem failed_put_counts : (icpAdfTransPutMsg pairForTwo ⟨false, true, some (), 8⟩).1 = some .fail ∧
      (icpAdfTransPutMsg pairForTwo ⟨false, true, some (), 8⟩).2.inFlight = 1 ∧
      successes pairForTwo [⟨true, true, some (), 32⟩] = 1 ∧
      successes (afterPuts pairForTwo [⟨false, true, some (), 8⟩]) [⟨true, true, some (), 32⟩] = 0 := by
  decide

end QuickAssist.UserRing
