import QuickAssist.Lib.Run
import QuickAssist.UsdmDrv.Allocation
import Mathlib.Algebra.BigOperators.Group.Finset.Basic

/-!
# The huge pages

The driver knows how many huge pages are left. A process asks for its share with `DEV_MEM_IOC_GET_NUM_HPT`; the share is
noted in its file, and comes back when the slabs of the file are released. Nothing about slabs matters here, so the
calls that allocate, free and map them are all allowed.

**The defect.** The share is *assigned* to the file, whatever was noted there before. `share_lost`: a process asks
twice and closes its file. Its first share does not come back.
-/

namespace QuickAssist.UsdmDrv

open Lib Option Finset BitVec

variable {s s' s'' : Usdm} {fp total : ℕ} {list : ProcMemList} {ok copyTo : Bool} {cfg : Params}

/-! ## The property -/

def Usdm.share (s : Usdm) (fp : ℕ) : Option U64 := (s.privateData fp).map ProcMemList.hugepagesNr

/-- What is left and what is noted in the open files adds up to `total`. -/
def Usdm.Conserved (total : ℕ) (s : Usdm) : Prop :=
  ∃ files : Finset ℕ, (∀ fp, fp ∈ files ↔ (s.privateData fp).isSome) ∧
    s.maxHugePages.toNat + ∑ fp ∈ files, ((s.share fp).getD 0).toNat = total

def Event.FirstShare (s : Usdm) : Event → Prop
  | .devNumHpGet fp copyTo => copyTo = true → (s.share fp).getD 0 = 0
  | _ => True

instance (s : Usdm) (e : Event) : Decidable (e.FirstShare s) := by
  unfold Event.FirstShare
  split <;> infer_instance

/-! ## Calls that have nothing to do with it -/

structure SameShares (s s' : Usdm) : Prop where
  left : s'.maxHugePages = s.maxHugePages
  noted : ∀ fp, s'.share fp = s.share fp

namespace SameShares

lemma refl (s : Usdm) : SameShares s s := ⟨rfl, fun _ => rfl⟩

lemma trans (h : SameShares s s') (h' : SameShares s' s'') : SameShares s s'' :=
  ⟨h'.left.trans h.left, fun fp => (h'.noted fp).trans (h.noted fp)⟩

lemma isSome (h : SameShares s s') (fp : ℕ) : (s'.privateData fp).isSome ↔ (s.privateData fp).isSome := by
  have hnoted := congrArg Option.isSome (h.noted fp)
  simp only [Usdm.share, isSome_map] at hnoted
  rw [hnoted]

lemma conserved (h : SameShares s s') (hs : s.Conserved total) : s'.Conserved total := by
  obtain ⟨files, hfiles, hsum⟩ := hs
  refine ⟨files, fun fp => (hfiles fp).trans (h.isSome fp).symm, ?_⟩
  simpa only [h.left, h.noted] using hsum

lemma update (hdata : s.privateData fp = some list) {list' : ProcMemList}
    (hdata' : s'.privateData = Function.update s.privateData fp (some list'))
    (hlist : list'.hugepagesNr = list.hugepagesNr) (hleft : s'.maxHugePages = s.maxHugePages) : SameShares s s' := by
  refine ⟨hleft, fun fp' => ?_⟩
  simp only [Usdm.share, hdata']
  by_cases hfp : fp' = fp
  · subst hfp
    simp [hdata, hlist]
  · simp [Function.update_of_ne hfp]

lemma freeSlab (hdata : s.privateData fp = some list) (p : ℕ) :
    SameShares s (UsdmDrv.freeSlab s fp list p) := update hdata rfl rfl rfl

lemma freeSlabsLoop {n : ℕ} {p : Option ℕ} (h : UsdmDrv.freeSlabsLoop fp n s p = some s') : SameShares s s' := by
  induction n generalizing s p with
  | zero =>
    cases p with
    | none =>
      simp only [UsdmDrv.freeSlabsLoop, Option.some.injEq] at h
      exact h ▸ refl s
    | some p => simp [UsdmDrv.freeSlabsLoop] at h
  | succ n ih =>
    cases p with
    | none =>
      simp only [UsdmDrv.freeSlabsLoop, Option.some.injEq] at h
      exact h ▸ refl s
    | some p =>
      obtain ⟨list, hdata, hloop⟩ := bind_eq_some_iff.mp h
      exact (freeSlab hdata p).trans (ih hloop)

lemma userMemFree {id : U64} (h : UsdmDrv.userMemFree s fp id = some (s', ok)) : SameShares s s' := by
  unfold UsdmDrv.userMemFree at h
  split at h
  · cases h
    exact refl s
  next list hdata =>
    obtain ⟨found, -, heq⟩ := map_eq_some_iff.mp h
    cases found with
    | none =>
      cases heq
      exact refl s
    | some p =>
      cases heq
      exact freeSlab hdata p

lemma userMemAlloc (cfg : Params) (s : Usdm) (fp : ℕ) (size : U64) (type : U32)
    (k : KernelAnswers) : SameShares s (UsdmDrv.userMemAlloc cfg s fp size type k).1 := by
  have halloc := userMemAlloc_allocated cfg s fp size type k
  generalize UsdmDrv.userMemAlloc cfg s fp size type k = out at halloc
  cases halloc with
  | refused => exact refl s
  | notMapped => exact ⟨rfl, fun _ => rfl⟩
  | added hdata => exact update hdata rfl rfl rfl

lemma devMemAlloc {arg : UserMemInfo} {copyFrom : Bool} {k : KernelAnswers}
    (h : UsdmDrv.devMemAlloc cfg s fp arg copyFrom k copyTo = some (s', ok)) : SameShares s s' := by
  have halloc := userMemAlloc cfg s fp arg.size arg.type k
  unfold UsdmDrv.devMemAlloc at h
  split at h
  · cases h
    exact refl s
  split at h
  · cases h
    exact refl s
  dsimp only at h
  split at h
  · cases h
    exact halloc
  split at h
  · obtain ⟨⟨t', ok'⟩, hfree, heq⟩ := map_eq_some_iff.mp h
    cases heq
    exact halloc.trans (userMemFree hfree)
  · cases h
    exact halloc

lemma memMmap {pgoff size : U64} {remap : Bool}
    (h : UsdmDrv.memMmap s fp pgoff size remap = some (s', ok)) : SameShares s s' := by
  obtain ⟨found, -, heq⟩ := map_eq_some_iff.mp h
  cases found with
  | none =>
    cases heq
    exact refl s
  | some p =>
    dsimp only at heq
    split at heq
    · cases heq
      exact refl s
    split at heq
    · cases heq
      exact refl s
    · cases heq
      exact ⟨rfl, fun _ => rfl⟩

end SameShares

/-! ## Calls that move pages -/

section

variable (h : s.Conserved total)

include h

/-- **Pages move between what is left and what is noted in a file**, which may be opened or closed. -/
theorem Usdm.Conserved.move {o : Option ProcMemList} (hdata : s'.privateData = Function.update s.privateData fp o)
    (hmove : s'.maxHugePages.toNat + ((o.map ProcMemList.hugepagesNr).getD 0).toNat =
      s.maxHugePages.toNat + ((s.share fp).getD 0).toNat) : s'.Conserved total := by
  obtain ⟨files, hfiles, hsum⟩ := h
  have hself : s'.share fp = o.map ProcMemList.hugepagesNr := by simp [Usdm.share, hdata]
  have hrest : ∑ x ∈ files.erase fp, ((s'.share x).getD 0).toNat =
      ∑ x ∈ files.erase fp, ((s.share x).getD 0).toNat := by
    refine sum_congr rfl fun x hx => ?_
    rw [Usdm.share, hdata, Function.update_of_ne (ne_of_mem_erase hx), Usdm.share]
  have hold : ((s.share fp).getD 0).toNat + ∑ x ∈ files.erase fp, ((s.share x).getD 0).toNat =
      ∑ x ∈ files, ((s.share x).getD 0).toNat := by
    by_cases hmem : fp ∈ files
    · exact add_sum_erase files (fun x => ((s.share x).getD 0).toNat) hmem
    · have hnone : s.share fp = none := by simpa [hfiles, Usdm.share] using hmem
      simp [hnone, erase_eq_of_notMem hmem]
  cases o with
  | none =>
    refine ⟨files.erase fp, fun x => ?_, ?_⟩
    · by_cases hx : x = fp <;> simp [hx, hdata, hfiles]
    · change s'.maxHugePages.toNat + 0 = _ at hmove
      rw [hrest]
      omega
  | some list =>
    refine ⟨insert fp files, fun x => ?_, ?_⟩
    · by_cases hx : x = fp <;> simp [hx, hdata, hfiles]
    · rw [← add_sum_erase _ _ (mem_insert_self fp files), erase_insert_eq_erase, hrest, hself]
      omega

lemma Usdm.Conserved.le (hdata : s.privateData fp = some list) :
    s.maxHugePages.toNat + list.hugepagesNr.toNat ≤ total := by
  obtain ⟨files, hfiles, hsum⟩ := h
  have hmem : fp ∈ files := by simp [hfiles, hdata]
  rw [← add_sum_erase files _ hmem] at hsum
  simp only [Usdm.share, hdata, map_some, getD_some] at hsum
  omega

lemma Usdm.Conserved.of_closed (hclosed : ∀ fp, s.privateData fp = none) : s.maxHugePages.toNat = total := by
  obtain ⟨files, hfiles, hsum⟩ := h
  have hempty : files = ∅ := by
    apply eq_empty_of_forall_notMem
    intro fp
    simp [hfiles, hclosed]
  rwa [hempty, sum_empty, Nat.add_zero] at hsum

lemma Usdm.Conserved.devNumHpGet (hfirst : copyTo = true → (s.share fp).getD 0 = 0)
    (hcall : devNumHpGet cfg s fp copyTo = some (s', ok)) : s'.Conserved total := by
  unfold UsdmDrv.devNumHpGet at hcall
  split at hcall
  · cases hcall
    exact h
  next list hdata =>
    -- the share is not more than what is left
    have hle : (if s.maxHugePages < cfg.maxHugePagesPerProcess then s.maxHugePages
        else cfg.maxHugePagesPerProcess).toNat ≤ s.maxHugePages.toNat := by
      split
      · exact Nat.le_refl _
      next hlt => exact not_lt.mp hlt
    generalize (if s.maxHugePages < cfg.maxHugePagesPerProcess then s.maxHugePages
      else cfg.maxHugePagesPerProcess) = share at hcall hle
    split at hcall
    · cases hcall
      exact h
    next hcopy =>
      cases hcall
      refine h.move rfl ?_
      have hnoted : (share.setWidth 64).toNat = share.toNat := by
        rw [toNat_setWidth]
        exact Nat.mod_eq_of_lt (by omega)
      have hleft : (s.maxHugePages - share).toNat = s.maxHugePages.toNat - share.toNat := toNat_sub_of_le hle
      have hnone : (0 : U64).toNat = 0 := rfl
      simp only [hfirst (by simpa using hcopy), map_some, getD_some, hnoted, hleft, hnone]
      omega

lemma Usdm.Conserved.userMemFreeSlabs (htotal : total < 2 ^ 32)
    (hcall : userMemFreeSlabs s fp = some (s', ok)) : s'.Conserved total ∧ (ok = true → s'.share fp = some 0) := by
  unfold UsdmDrv.userMemFreeSlabs at hcall
  split at hcall
  · cases hcall
    exact ⟨h, by simp⟩
  next list hdata =>
    obtain ⟨t, hloop, heq⟩ := map_eq_some_iff.mp hcall
    cases heq
    have hsame := SameShares.freeSlabsLoop hloop
    have hle := h.le hdata
    have hnoted : (list.hugepagesNr.setWidth 32).toNat = list.hugepagesNr.toNat := by
      exact Nat.mod_eq_of_lt (by omega)
    have hleft : (s.maxHugePages + list.hugepagesNr.setWidth 32).toNat =
        s.maxHugePages.toNat + list.hugepagesNr.toNat := by
      rw [toNat_add, hnoted]
      exact Nat.mod_eq_of_lt (by omega)
    refine ⟨hsame.conserved (h.move rfl ?_), fun _ => ?_⟩
    · rw [hleft, Usdm.share, hdata]
      exact Nat.add_zero _
    · rw [hsame.noted]
      simp [Usdm.share]

lemma Usdm.Conserved.memOpen {kzalloc : Bool} (hcall : memOpen s fp kzalloc = some (s', ok)) : s'.Conserved total := by
  unfold UsdmDrv.memOpen at hcall
  split at hcall
  · cases hcall
    exact h
  next hdata =>
    split at hcall
    · cases hcall
      exact h
    · cases hcall
      exact h.move rfl (by simp [Usdm.share, hdata])

lemma Usdm.Conserved.memRelease (htotal : total < 2 ^ 32)
    (hcall : memRelease s fp = some (s', ok)) : s'.Conserved total := by
  unfold UsdmDrv.memRelease at hcall
  split at hcall
  · cases hcall
    exact h
  next list hdata =>
    obtain ⟨⟨t, done⟩, hfree, heq⟩ := map_eq_some_iff.mp hcall
    cases heq
    have hdone : done = true := by
      simp only [UsdmDrv.userMemFreeSlabs, hdata] at hfree
      obtain ⟨t', -, heq'⟩ := map_eq_some_iff.mp hfree
      exact (Prod.mk.inj heq').2.symm
    obtain ⟨hconserved, hback⟩ := h.userMemFreeSlabs htotal hfree
    exact hconserved.move rfl (by simp [hback hdone])

end

/-! ## In every run -/

/-- **The step lemma.** -/
theorem usdmStep_conserved {s s' : Usdm} {e : Event}
    (htotal : total < 2 ^ 32) (h : s.Conserved total) (hfirst : e.FirstShare s)
    (hstep : usdmStep cfg s e = some s') : s'.Conserved total := by
  obtain ⟨-, hmap⟩ := ite_none_right_eq_some.mp hstep
  obtain ⟨⟨t, ok⟩, hcall, rfl⟩ := map_eq_some_iff.mp hmap
  cases e with
  | memOpen => exact h.memOpen hcall
  | devMemAlloc => exact (SameShares.devMemAlloc hcall).conserved h
  | devMemFree fp phyAddr copyFrom =>
    simp only [usdmCall, devMemFree] at hcall
    split at hcall
    · cases hcall
      exact h
    split at hcall
    · cases hcall
      exact h
    · exact (SameShares.userMemFree hcall).conserved h
  | devReleasePid => exact (h.userMemFreeSlabs htotal hcall).1
  | devNumHpGet => exact h.devNumHpGet hfirst hcall
  | memMmap => exact (SameShares.memMmap hcall).conserved h
  | memRelease => exact h.memRelease htotal hcall

/-- **No huge page is lost**, in every run in which a process asks for its share only while none is noted. -/
theorem huge_pages_conserved {cfg : Params} {maxHugePages : U32} {es : List Event} {s : Usdm}
    (hrun : Run (guarded Event.FirstShare (ofFun (usdmStep cfg))) (usdmInit maxHugePages) es s) :
    s.Conserved maxHugePages.toNat ∧ ((∀ fp, s.privateData fp = none) → s.maxHugePages = maxHugePages) := by
  have hconserved : s.Conserved maxHugePages.toNat := by
    refine hrun.invariant (I := Usdm.Conserved maxHugePages.toNat) ?_ ?_
    · rintro s e s' h ⟨hfirst, hstep⟩
      exact usdmStep_conserved maxHugePages.isLt h hfirst hstep
    · exact ⟨∅, by simp [usdmInit], by simp [usdmInit]⟩
  exact ⟨hconserved, fun hclosed => eq_of_toNat_eq (hconserved.of_closed hclosed)⟩

/-- For instance, three processes share ten pages. -/
theorem shares_conserved : ∃ s, Run (guarded Event.FirstShare (ofFun (usdmStep ⟨0, 4⟩))) (usdmInit 10)
        [.memOpen 1 true, .devNumHpGet 1 true, .memOpen 2 true, .devNumHpGet 2 true, .memOpen 3 true,
          .devNumHpGet 3 true, .memRelease 1, .memOpen 1 true, .devNumHpGet 1 true] s ∧
      s.maxHugePages = 0 ∧ s.share 1 = some 4 ∧ s.share 3 = some 2 ∧ s.Conserved 10 := by
  exact (exec_guardFun_run rfl).exists_and fun hrun => ⟨rfl, rfl, rfl, (huge_pages_conserved hrun).1⟩

/-- **A share is lost**, and four of the ten pages are gone. -/
theorem share_lost : ∃ s, Run (ofFun (usdmStep ⟨0, 4⟩)) (usdmInit 10)
        [.memOpen 1 true, .devNumHpGet 1 true, .devNumHpGet 1 true, .memRelease 1] s ∧
      s.memDevNuma.head = none ∧ s.maxHugePages = 6 ∧ ¬ s.Conserved 10 := by
  refine ⟨_, exec_run rfl, rfl, rfl, fun h => absurd (h.of_closed fun fp => ?_) (by decide)⟩
  by_cases hfp : fp = 1
  · rw [hfp]
    rfl
  · simp [hfp, usdmInit]

end QuickAssist.UsdmDrv
