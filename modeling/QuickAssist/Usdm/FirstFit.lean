import QuickAssist.Usdm.Slab

/-!
# The search of a slab is first fit

The search of `mem_alloc` never looks at a unit twice. It skips the ones behind a run that was too short, and then
everything up to the next multiple of the alignment. What is skipped is no place for a block: a run that begins in the
part that was measured ends at the same one, and is shorter; one that begins at a skipped one is none; and what comes
before the next multiple of the alignment is not aligned.
-/

namespace QuickAssist.Usdm

open Lib

/-! ## What is searched for -/

/-- A run of `n` clear units begins at `f`, a multiple of the alignment, where 0 stands for none. -/
structure FreeRun (bitmap : ℕ → U64) (n align f : ℕ) : Prop where
  inside : f + n ≤ bitmapLen * 64
  clear : ∀ i, f ≤ i → i < f + n → bit bitmap i = false
  aligned : align ≠ 0 → align ∣ f

def unitsOf (size : ℕ) : ℕ := (size + unitSize - 1) / unitSize

/-- `mem_alloc` returns the first run of clear units, from the unit `first` on, that has the size and
the alignment, and nothing if there is none. -/
def FirstFit (ctrl : BlockCtrl) (size align first : ℕ) : Prop :=
  match memAlloc ctrl size align with
  | some (f, _) =>
    first ≤ f ∧ FreeRun ctrl.bitmap (unitsOf size) align f ∧
      ∀ g, first ≤ g → FreeRun ctrl.bitmap (unitsOf size) align g → f ≤ g
  | none => ∀ g, first ≤ g → ¬ FreeRun ctrl.bitmap (unitsOf size) align g

/-! ## What a round skips -/

section Skip

variable {bitmap : ℕ → U64} {n align : ℕ} {s : Scan}

lemma not_dvd_of_lt_alignUp {pos g : ℕ} (halign : align ≠ 0) (hle : pos ≤ g)
    (hlt : g < alignUp pos align) : ¬ align ∣ g := by
  rintro ⟨c, rfl⟩
  unfold alignUp at hlt
  by_cases hmod : pos % align = 0
  · rw [if_neg fun h => h.2 hmod] at hlt
    omega
  · rw [if_pos ⟨halign, hmod⟩] at hlt
    have hdiv := Nat.div_add_mod pos align
    -- the multiple lies strictly between two successive ones
    have hlow : pos / align < c := by
      apply Nat.lt_of_mul_lt_mul_left (a := align)
      omega
    have hhigh : align * (pos / align + 1) ≤ align * c := Nat.mul_le_mul_left align hlow
    rw [Nat.mul_add, Nat.mul_one] at hhigh
    omega

section

variable (hpos : s.windowPos < bitmapLen * 64)

include hpos

lemma bit_of_ones {width k : ℕ} (hk : k < memCtzll (~~~ (bitmapRead bitmap s.windowPos >>> (width + 1)))) :
    bit bitmap (s.windowPos + width + 1 + k) = true := by
  have hlt64 : k < 64 := Nat.lt_of_lt_of_le hk (ctz_le _)
  have hone := getLsbD_of_lt_ctz hk
  have hset : (bitmapRead bitmap s.windowPos).getLsbD (width + 1 + k) = true := by
    simpa [hlt64] using hone
  have hinside : width + 1 + k < 64 := by
    by_contra hge
    rw [BitVec.getLsbD_of_ge _ _ (Nat.le_of_not_lt hge)] at hset
    cases hset
  rw [getLsbD_bitmapRead bitmap hpos hinside] at hset
  rwa [Nat.add_assoc, Nat.add_assoc, ← Nat.add_assoc width]

lemma bit_of_width (hword : bitmapRead bitmap s.windowPos ≠ 0) :
    bit bitmap (s.windowPos + memCtzll (bitmapRead bitmap s.windowPos)) = true := by
  obtain ⟨hlt, hone⟩ := getLsbD_ctz hword
  rw [getLsbD_bitmapRead bitmap hpos hlt] at hone
  exact hone

/-- **Nothing is missed.** No run that is long enough begins in what a round skips. -/
theorem not_freeRun_of_skipped (hs : s.Ok bitmap align) (hword : bitmapRead bitmap s.windowPos ≠ 0)
    (hshort : s.blocksFound + memCtzll (bitmapRead bitmap s.windowPos) < n) {g : ℕ} (hfirst : s.firstBlock ≤ g)
    (hlt : g < alignUp (s.windowPos + memCtzll (bitmapRead bitmap s.windowPos) + 1 +
      memCtzll (~~~ (bitmapRead bitmap s.windowPos >>>
        (memCtzll (bitmapRead bitmap s.windowPos) + 1)))) align) : ¬ FreeRun bitmap n align g := by
  intro hrun
  have hmeasured := hs.measured
  have hone := bit_of_width hpos hword
  generalize hwidth : memCtzll (bitmapRead bitmap s.windowPos) = width at *
  generalize hones : memCtzll (~~~ (bitmapRead bitmap s.windowPos >>> (width + 1))) = ones at *
  rcases Nat.lt_or_ge (s.windowPos + width) g with hbehind | hbefore
  · rcases Nat.lt_or_ge g (s.windowPos + width + 1 + ones) with hskipped | hgap
    · -- the run would begin at a one
      have hset := bit_of_ones hpos (hones ▸ (by omega : g - (s.windowPos + width + 1) < ones))
      rw [Nat.add_sub_cancel' (by omega), hrun.clear g (Nat.le_refl g) (by omega)] at hset
      cases hset
    · by_cases halign : align = 0
      · rw [halign, alignUp, if_neg fun h => h.1 rfl] at hlt
        omega
      · exact not_dvd_of_lt_alignUp halign hgap hlt (hrun.aligned halign)
  · -- the run would contain the one that ends the run that was measured
    rw [hrun.clear (s.windowPos + width) hbefore (by omega)] at hone
    cases hone

end

end Skip

/-! ## The search -/

lemma FreeRun.lt {bitmap : ℕ → U64} {n align f : ℕ} (hn : 0 < n)
    (h : FreeRun bitmap n align f) : f < bitmapLen * 64 := by
  have hinside := h.inside
  omega

/-- **The search is complete.** If no run begins before the one that is being measured, then what the
search comes to is before every other, and it only gives up if there is none. -/
theorem memSearch_least {bitmap : ℕ → U64} {n align : ℕ} (fuel : ℕ) {s : Scan} (hn : 0 < n)
    (hs : s.Ok bitmap align) (hpos : s.windowPos < bitmapLen * 64) (hfuel : bitmapLen * 64 ≤ s.windowPos + fuel)
    (hmissed : ∀ g, g < s.firstBlock → ¬ FreeRun bitmap n align g) :
    (∀ f, memSearch bitmap n align fuel s = some f → ∀ g, FreeRun bitmap n align g → f ≤ g) ∧
      (memSearch bitmap n align fuel s = none → ∀ g, ¬ FreeRun bitmap n align g) := by
  induction fuel generalizing s with
  | zero => omega
  | succ fuel ih =>
    rcases memAllocRound_cases bitmap n align s with
      ⟨hround, -⟩ | ⟨pos, hround, rfl, hword, hshort⟩ | ⟨hround, hwidth, hshort⟩
    · -- the search ends here
      unfold memSearch
      rw [hround]
      constructor
      · intro f hf g hrun
        cases hf
        exact Nat.le_of_not_lt fun hlt => hmissed g hlt hrun
      · intro hnone
        cases hnone
    · -- the run is too short, and the window moves behind it
      generalize hpos' : alignUp _ align = pos at hround
      have hle : s.windowPos < pos := by
        rw [← hpos']
        refine Nat.lt_of_lt_of_le ?_ (le_alignUp _ _)
        omega
      have hok : Scan.Ok bitmap align ⟨pos, pos, 0⟩ := hpos' ▸ Scan.ok_alignUp bitmap _ align
      have hmissed' : ∀ g, g < pos → ¬ FreeRun bitmap n align g := by
        intro g hlt
        rcases Nat.lt_or_ge g s.firstBlock with hbefore | hfirst
        · exact hmissed g hbefore
        · exact not_freeRun_of_skipped hpos hs hword hshort hfirst (hpos' ▸ hlt)
      rw [memSearch, hround]
      dsimp only
      by_cases hend : pos < bitmapLen * 64
      · rw [if_pos hend]
        exact ih hok hend (by dsimp only; omega) hmissed'
      · rw [if_neg hend]
        constructor
        · rintro f ⟨⟩
        intro _ g hrun
        exact hmissed' g (Nat.lt_of_lt_of_le (hrun.lt hn) (Nat.le_of_not_lt hend)) hrun
    · -- the window is clear, and the run that is being measured goes on
      have hmeasured := hs.measured
      have hok : Scan.Ok bitmap align ⟨s.windowPos + memCtzll (bitmapRead bitmap s.windowPos),
          s.firstBlock, s.blocksFound + memCtzll (bitmapRead bitmap s.windowPos)⟩ :=
        hs.extend hpos
      rw [memSearch, hround]
      dsimp only
      by_cases hend : s.windowPos + memCtzll (bitmapRead bitmap s.windowPos) < bitmapLen * 64
      · rw [if_pos hend]
        exact ih hok hend (by dsimp only; omega) hmissed
      · rw [if_neg hend]
        constructor
        · rintro f ⟨⟩
        intro _ g hrun
        have hinside := hrun.inside
        -- what is left behind the beginning of the run that was measured is too short
        exact hmissed g (by omega) hrun

/-! ## The allocation -/

section Alloc

variable {ctrl : BlockCtrl} {size align first : ℕ}

lemma divRoundUp_eq_unitsOf (hwrap : size + (unitSize - 1) < 2 ^ 64) : divRoundUp size unitSize = unitsOf size := by
  unfold divRoundUp unitsOf
  unfold unitSize at *
  omega

lemma add_le_of_clear (hbarrier : ctrl.bitmap bitmapLen = BitVec.allOnes 64) {f n : ℕ}
    (hf : f < bitmapLen * 64) (hclear : ∀ i, f ≤ i → i < f + n → bit ctrl.bitmap i = false) :
    f + n ≤ bitmapLen * 64 := by
  by_contra hend
  have hset : bit ctrl.bitmap (bitmapLen * 64) = true := by
    rw [bit, show bitmapLen * 64 / 64 = bitmapLen from rfl, hbarrier]
    rfl
  rw [hclear (bitmapLen * 64) (Nat.le_of_lt hf) (Nat.lt_of_not_le hend)] at hset
  cases hset

lemma memAlloc_eq (hbarrier : ctrl.bitmap bitmapLen = BitVec.allOnes 64) (hsize : 0 < size) :
    memAlloc ctrl size align = (memSearch ctrl.bitmap (divRoundUp size unitSize) align 2048 ⟨0, 0, 0⟩).map
        fun f => (f, ctrl.setBlock f (divRoundUp size unitSize)) := by
  unfold memAlloc
  rw [if_neg (Nat.ne_of_gt hsize)]
  dsimp only
  cases hsearch : memSearch ctrl.bitmap (divRoundUp size unitSize) align 2048 ⟨0, 0, 0⟩ with
  | none => rfl
  | some f =>
    obtain ⟨hlt, -, hclear⟩ := memSearch_spec (Scan.ok_zero _ _) (by decide) hsearch
    have hend := add_le_of_clear hbarrier hlt hclear
    dsimp only
    rw [if_neg (Nat.not_lt_of_le hend)]
    rfl

lemma FreeRun.le_first (hfirst : ∀ i, i < first → bit ctrl.bitmap i = true) {n f : ℕ} (hn : 0 < n)
    (h : FreeRun ctrl.bitmap n align f) : first ≤ f := by
  by_contra hlt
  have hset := hfirst f (Nat.lt_of_not_le hlt)
  rw [h.clear f (Nat.le_refl f) (by omega)] at hset
  cases hset

/-- A size for which rounding up wraps around takes no units, and so the search ends at once. -/
lemma memAlloc_of_wrap (hsize : 0 < size) (hlt : size < 2 ^ 64) (hwrap : 2 ^ 64 ≤ size + (unitSize - 1)) :
    memAlloc ctrl size align = some (0, ctrl.setBlock 0 0) := by
  have hzero : divRoundUp size unitSize = 0 := by
    unfold divRoundUp unitSize at *
    omega
  unfold memAlloc
  rw [if_neg (Nat.ne_of_gt hsize), hzero]
  rfl

/-- **First fit**, exactly for the sizes that can be rounded up to units in 64 bits. -/
theorem memAlloc_firstFit_iff (ctrl : BlockCtrl) (size align first : ℕ)
    (hbarrier : ctrl.bitmap bitmapLen = BitVec.allOnes 64)
    (hfirst : ∀ i, i < first → bit ctrl.bitmap i = true) (hsize : 0 < size) (hlt : size < 2 ^ 64) :
    FirstFit ctrl size align first ↔ size + (unitSize - 1) < 2 ^ 64 := by
  constructor
  · intro hfit
    by_contra hwrap
    rw [FirstFit, memAlloc_of_wrap hsize hlt (Nat.le_of_not_lt hwrap)] at hfit
    -- the run would be longer than the slab
    have hinside := hfit.2.1.inside
    unfold unitsOf unitSize bitmapLen at *
    omega
  · intro hwrap
    have hunits : 0 < unitsOf size := by
      unfold unitsOf unitSize
      omega
    obtain ⟨hleast, hnone⟩ := memSearch_least 2048 hunits (Scan.ok_zero ctrl.bitmap align) (by decide) (by decide)
      fun g hg => absurd hg (Nat.not_lt_zero g)
    rw [FirstFit, memAlloc_eq hbarrier hsize, divRoundUp_eq_unitsOf hwrap]
    cases hsearch : memSearch ctrl.bitmap (unitsOf size) align 2048 ⟨0, 0, 0⟩ with
    | none => exact fun g _ => hnone hsearch g
    | some f =>
      obtain ⟨hf, haligned, hclear⟩ := memSearch_spec (Scan.ok_zero _ _) (by decide) hsearch
      have hrun : FreeRun ctrl.bitmap (unitsOf size) align f := ⟨add_le_of_clear hbarrier hf hclear, hclear, haligned⟩
      exact ⟨hrun.le_first hfirst hunits, hrun, fun g _ => hleast f hsearch g⟩

/-- In a new slab a thousand bytes at a multiple of four units go to the first run behind the control area. -/
theorem memAlloc_firstFit_initSlab : FirstFit (initSlab ⟨fun _ => 0, fun _ => 0⟩ slabSize) 1000 4 5 := by
  refine (memAlloc_firstFit_iff _ _ _ _ rfl ?_ (by decide) (by decide)).mpr (by decide)
  intro i hi
  refine (bit_initSlab ?_ (by unfold bitmapLen; omega)).mpr (Or.inl hi)
  intro j _ _
  simp [bit]

/-- **A size that wraps around.** The largest size of all is given unit 0, which belongs to the control
area, as a run of no units. -/
theorem wrapped_size_takes_first_unit :
    (memAlloc (initSlab ⟨fun _ => 0, fun _ => 0⟩ slabSize) (2 ^ 64 - 1) 0).map Prod.fst = some 0 ∧
      ¬ FirstFit (initSlab ⟨fun _ => 0, fun _ => 0⟩ slabSize) (2 ^ 64 - 1) 0 5 := by
  refine ⟨rfl, ?_⟩
  rintro ⟨hge, -⟩
  exact absurd hge (by decide)

end Alloc

end QuickAssist.Usdm
