import QuickAssist.UsdmDrv.Rollback
import Mathlib.Algebra.BigOperators.Group.List.Basic
import Mathlib.Algebra.GroupWithZero.Nat

/-!
# The amount of memory

`mem_allocated` is one number for all processes. A slab is charged with its size, rounded up to pages, and a page for
the control information if it is large; it is discharged when it is freed, and when the allocation fails after it has
been charged. `memory_accounted` is about the runs in which processes free only their own slabs, and in which a slab
that cannot be mapped for the device is of a type that the driver knows.

**The defect.** What is charged depends on `type ≠ 0` and what is discharged on `type = LARGE`. `page_stays_charged`:
type 2, which is `HUGE_PAGE` in the header that the driver shares with the library, is charged with a page that is
never discharged. The second part of it is the slab that is freed through another file: it is discharged again when
its own file is closed.

**Outside.** The slabs are parts of one address space, so the sizes of those there are and of one that the kernel has
just handed out do not add up to more than it has.
-/

namespace QuickAssist.UsdmDrv

open Lib Function List BitVec Nat

/-! ## The sum -/

/-- The bytes that a slab takes: its size, and a page for the control information if there is one. -/
def KMem.bytes (m : KMem) : ℕ := m.size.toNat + if m.hugeMemCtrl ≠ 0 then pageSize.toNat else 0

def Usdm.bytes (s : Usdm) : ℕ := (s.live.map fun p => (s.kmem p).bytes).sum

structure Usdm.Charged (cfg : Params) (s : Usdm) : Prop where
  sum : s.memAllocated.toNat = s.bytes
  rounded : ∀ p ∈ s.live, pageSize.toNat ∣ (s.kmem p).size.toNat
  quota : cfg.maxMemNuma ≠ 0 → s.memAllocated.toNat ≤ cfg.maxMemNuma.toNat * 1024

def Event.Fits (s : Usdm) : Event → Prop
  | .devMemAlloc _ arg _ k _ => k.slab ≠ 0 → s.bytes + (remappingSize arg.size).toNat + pageSize.toNat < 2 ^ 64
  | _ => True

instance (s : Usdm) (e : Event) : Decidable (e.Fits s) := by
  apply @Event.casesOn _ e <;> intros <;> dsimp only [Event.Fits] <;> infer_instance

def Event.Dischargeable : Event → Prop
  | .devMemAlloc _ arg _ k _ => k.mapFails = true → arg.type = 0 ∨ arg.type = large
  | _ => True

instance (e : Event) : Decidable e.Dischargeable := by
  apply @Event.casesOn _ e <;> intros <;> dsimp only [Event.Dischargeable] <;> infer_instance

/-! ## Arithmetic -/

lemma dvd_remappingSize (size : U64) : pageSize.toNat ∣ (remappingSize size).toNat := by
  have hlow : remappingSize size &&& 0xFFF = 0 := by
    unfold remappingSize pageSize
    rw [BitVec.and_assoc]
    exact and_zero
  have hmod := congrArg BitVec.toNat hlow
  have hmod' : (remappingSize size).toNat % 2 ^ 12 = 0 := by
    rw [← and_two_pow_sub_one_eq_mod]
    exact hmod
  exact dvd_of_mod_eq_zero hmod'

/-- The bytes of a slab are what it is charged, as long as they do not wrap around. -/
lemma KMem.toNat_footprint {m : KMem} (h : m.bytes < 2 ^ 64) : m.footprint.toNat = m.bytes := by
  unfold KMem.footprint KMem.bytes at *
  by_cases hctrl : m.hugeMemCtrl ≠ 0
  · rw [if_pos hctrl] at h ⊢
    rw [if_pos hctrl]
    exact mod_eq_of_lt h
  · rw [if_neg hctrl] at h ⊢
    rw [if_neg hctrl]
    exact mod_eq_of_lt h

section Steps

variable {cfg : Params} {s : Usdm} {size : U64} {type : U32} {k : KernelAnswers}

lemma toNat_quotaKBytes (hfits : s.memAllocated.toNat + (remappingSize size).toNat + pageSize.toNat < 2 ^ 64) :
    (quotaKBytes s size type).toNat = (s.memAllocated.toNat + (remappingSize size).toNat + 1023) / 1024 +
        if type ≠ 0 then 4 else 0 := by
  have hpage : pageSize.toNat = 4096 := rfl
  have hkb : (inKBytes (s.memAllocated + remappingSize size)).toNat =
      (s.memAllocated.toNat + (remappingSize size).toNat + 1023) / 1024 := by
    unfold inKBytes
    rw [toNat_udiv, toNat_add, toNat_add]
    have h₁ : (1023 : U64).toNat = 1023 := rfl
    have h₂ : (1024 : U64).toNat = 1024 := rfl
    rw [h₁, h₂, mod_eq_of_lt (by omega : _ < 2 ^ 64), mod_eq_of_lt (by omega)]
  unfold quotaKBytes
  split
  · have hfour : (pageSize / 1024).toNat = 4 := by decide
    rw [toNat_add, hkb, hfour]
    exact mod_eq_of_lt (by omega)
  · rw [hkb]
    rfl

lemma Served.within_quota (h : Served cfg s size type k)
    (hfits : s.memAllocated.toNat + (remappingSize size).toNat + pageSize.toNat < 2 ^ 64)
    (hquota : cfg.maxMemNuma ≠ 0) :
    s.memAllocated.toNat + (newKMem size type k).bytes ≤ cfg.maxMemNuma.toNat * 1024 := by
  have hmax : (cfg.maxMemNuma.setWidth 64).toNat = cfg.maxMemNuma.toNat := by
    rw [toNat_setWidth]
    exact mod_eq_of_lt (by omega)
  have hne : cfg.maxMemNuma.setWidth 64 ≠ 0 := by
    intro hzero
    refine hquota (eq_of_toNat_eq ?_)
    rw [← hmax, hzero]
    rfl
  have hle : ¬ cfg.maxMemNuma.setWidth 64 < quotaKBytes s size type := fun hlt => h.quota ⟨hne, hlt⟩
  rw [lt_def, hmax, toNat_quotaKBytes hfits] at hle
  have hpage : pageSize.toNat = 4096 := rfl
  unfold KMem.bytes newKMem
  dsimp only
  by_cases htype : type ≠ 0
  · rw [if_pos htype] at hle
    rw [if_pos htype, if_pos (h.ctrlPage htype), hpage]
    omega
  · rw [if_neg htype, if_neg (by simp)]
    omega

lemma bytes_newKMem_le (size : U64) (type : U32) (k : KernelAnswers) :
    (newKMem size type k).bytes ≤ (remappingSize size).toNat + pageSize.toNat := by
  refine Nat.add_le_add_left ?_ _
  split
  · exact Nat.le_refl _
  · exact Nat.zero_le _

/-! ## Steps keep the amount of memory right -/

lemma bytes_addSlab (s : Usdm) (fp : ℕ) (list : ProcMemList) {p : ℕ} (kmem : KMem) (hp : p ∉ s.live) :
    (addSlab s fp list p kmem).bytes = kmem.bytes + s.bytes := by
  unfold Usdm.bytes addSlab
  dsimp only
  rw [map_cons, sum_cons, update_self]
  have hmap : (s.live.map fun q => (update s.kmem p kmem q).bytes) = s.live.map fun q => (s.kmem q).bytes := by
    refine map_congr_left fun q hq => ?_
    have hne : q ≠ p := fun heq => hp (heq ▸ hq)
    rw [update_of_ne hne]
  rw [hmap]

lemma Usdm.Charged.freeSlab (h : s.Charged cfg) {fp p : ℕ} (list : ProcMemList)
    (hp : p ∈ s.live) : (freeSlab s fp list p).Charged cfg := by
  have hsum : (s.kmem p).bytes + (UsdmDrv.freeSlab s fp list p).bytes = s.bytes :=
    sum_map_erase (fun q => (s.kmem q).bytes) hp
  have heq := h.sum
  have hfoot : (s.kmem p).footprint.toNat = (s.kmem p).bytes := KMem.toNat_footprint (by omega)
  have hmem : (UsdmDrv.freeSlab s fp list p).memAllocated.toNat = s.memAllocated.toNat - (s.kmem p).bytes := by
    rw [memAllocated_freeSlab, toNat_sub_of_le (by rw [le_def, hfoot]; omega), hfoot]
  refine ⟨by omega, ?_, ?_⟩
  · intro q hq
    exact h.rounded q (mem_of_mem_erase hq)
  · intro hquota
    have hle := h.quota hquota
    omega

lemma carried_charged (cfg : Params) : UsdmInv.Carried (Usdm.Charged cfg) := by
  refine ⟨?_, fun list _ hp hJ => hJ.freeSlab list hp⟩
  intro s s' h hlive hkmem hmem
  have hbytes : s'.bytes = s.bytes := by
    unfold Usdm.bytes
    rw [hlive, hkmem]
  refine ⟨by rw [hmem, hbytes, h.sum], ?_, ?_⟩
  · rw [hlive, hkmem]
    exact h.rounded
  · rw [hmem]
    exact h.quota

lemma Usdm.Charged.userMemAlloc (h : s.Charged cfg) (hfresh : k.Fresh s)
    (hfits : k.slab ≠ 0 → s.bytes + (remappingSize size).toNat + pageSize.toNat < 2 ^ 64)
    (htype : k.mapFails = true → type = 0 ∨ type = large) (fp : ℕ) :
    (userMemAlloc cfg s fp size type k).1.Charged cfg := by
  have halloc := userMemAlloc_allocated cfg s fp size type k
  generalize UsdmDrv.userMemAlloc cfg s fp size type k = out at halloc
  cases halloc with
  | refused => exact h
  | notMapped hopen hserved hfails =>
    have hmem : s.memAllocated + undischarged type = s.memAllocated := by
      rw [undischarged, if_pos (htype hfails)]
      exact BitVec.add_zero _
    exact (carried_charged cfg).congr h rfl rfl hmem
  | @added list p hdata hserved hfails hp =>
    have hnew := (hfresh.1 p hp).1
    have hsum := h.sum
    have hroom := hfits hserved.slab
    rw [← hsum] at hroom
    have hle := bytes_newKMem_le size type k
    have hbytes := bytes_addSlab { s with memAllocated := s.memAllocated + charge size type } fp list
      (newKMem size type k) hnew
    have hmem : (s.memAllocated + charge size type).toNat = s.memAllocated.toNat + (newKMem size type k).bytes := by
      rw [hserved.charge_eq, toNat_add, KMem.toNat_footprint (by omega)]
      exact mod_eq_of_lt (by omega)
    refine ⟨?_, ?_, ?_⟩
    · rw [hbytes]
      change (s.memAllocated + charge size type).toNat = (newKMem size type k).bytes + s.bytes
      omega
    · refine forall_mem_cons.mpr ⟨?_, fun q hq => ?_⟩
      · simp only [addSlab, update_self]
        exact dvd_remappingSize size
      · have hne : q ≠ p := fun heq => hnew (heq ▸ hq)
        simp only [addSlab, update_of_ne hne]
        exact h.rounded q hq
    · intro hquota
      have hwithin := hserved.within_quota hroom hquota
      change (s.memAllocated + charge size type).toNat ≤ _
      omega

end Steps

/-! ## In every run -/

/-- What the runs are that are considered: the slabs fit beside each other, processes free only their own
slabs, and what cannot be mapped is of a type that the driver knows. -/
def Event.Accountable (s : Usdm) (e : Event) : Prop := e.Fits s ∧ e.FreesOwn s ∧ e.Dischargeable
  deriving Decidable

/-- **The step lemma.** -/
theorem usdmStep_charged {cfg : Params} {s s' : Usdm} {e : Event} (hinv : s.InvFor fun _ => True)
    (h : s.Charged cfg) (he : e.Accountable s) (hstep : usdmStep cfg s e = some s') :
    s'.InvFor (fun _ => True) ∧ s'.Charged cfg := by
  obtain ⟨hfits, hown, htype⟩ := he
  refine usdmStep_carried (carried_charged cfg) hinv h hown ?_ hstep
  rintro fp arg copyFrom k copyTo rfl hfresh
  exact h.userMemAlloc hfresh hfits htype fp

/-- **The amount of memory is right in every run**, and an allocation that fails leaves it as it was unless it
leaves something behind. -/
theorem memory_accounted {cfg : Params} {maxHugePages : U32} {es : List Event} {s : Usdm}
    (hrun : Run (guarded Event.Accountable (ofFun (usdmStep cfg))) (usdmInit maxHugePages) es s) :
    s.Charged cfg ∧ ∀ fp arg copyFrom k copyTo s', k.Fresh s →
        devMemAlloc cfg s fp arg copyFrom k copyTo = some (s', false) →
        ¬ LeavesTrace cfg s fp arg copyFrom k → s'.memAllocated = s.memAllocated := by
  have hboth : s.InvFor (fun _ => True) ∧ s.Charged cfg := by
    refine hrun.invariant (I := fun s => s.InvFor (fun _ => True) ∧ s.Charged cfg) ?_ ?_
    · rintro s e s' ⟨hinv, h⟩ ⟨he, hstep⟩
      exact usdmStep_charged hinv h he hstep
    · refine ⟨usdmInit_inv _ maxHugePages, rfl, ?_, fun _ => Nat.zero_le _⟩
      intro p hp
      cases hp
  refine ⟨hboth.2, ?_⟩
  intro fp arg copyFrom k copyTo s' hfresh hfailed hnot
  exact ((devMemAlloc_failed hfailed).unchanged hboth.1 hfresh hnot).memAllocated

/-- For instance: two processes share a quota of 20 kilobytes. The third request is over it. -/
theorem shared_quota_accounted : ∃ s, Run (guarded Event.Accountable (ofFun (usdmStep ⟨20, 0⟩))) (usdmInit 0)
        [.memOpen 1 true, .memOpen 2 true,
          .devMemAlloc 1 ⟨5000, 1, 0⟩ true ⟨0x5000, some 64, 0x1000, 0x200000, false⟩ true,
          .devMemAlloc 2 ⟨4096, 0, 0⟩ true ⟨0, some 128, 0x3000, 0x202000, false⟩ true,
          .devMemAlloc 2 ⟨4096, 1, 0⟩ true ⟨0x7000, some 192, 0x6000, 0x203000, false⟩ true] s ∧
      s.live = [128, 64] ∧ s.memAllocated = 16384 ∧ s.Charged ⟨20, 0⟩ := by
  exact (exec_guardFun_run rfl).exists_and fun hrun => ⟨rfl, rfl, (memory_accounted hrun).1⟩

/-! ## What is not discharged, and what is discharged twice -/

/-- **A page stays charged** when a slab cannot be mapped; one that is freed through another file is discharged
twice. -/
theorem page_stays_charged : (∃ s, Run (ofFun (usdmStep ⟨0, 0⟩)) (usdmInit 0) [.memOpen 1 true,
          .devMemAlloc 1 ⟨4096, 2, 0⟩ true ⟨0x3000, some 64, 0x1000, 0x200000, true⟩ true] s ∧
      s.live = [] ∧ s.memAllocated = 4096 ∧ ¬ s.Charged ⟨0, 0⟩) ∧ ∃ s, Run (ofFun (usdmStep ⟨0, 0⟩)) (usdmInit 0)
        [.memOpen 1 true, .memOpen 2 true,
          .devMemAlloc 1 ⟨4096, 0, 0⟩ true ⟨0, some 64, 0x1000, 0x200000, false⟩ true,
          .devMemAlloc 2 ⟨8192, 0, 0⟩ true ⟨0, some 128, 0x3000, 0x202000, false⟩ true,
          .devMemFree 2 0x200000 true, .memRelease 1] s ∧
      s.live = [128] ∧ (s.kmem 128).size = 8192 ∧ s.memAllocated = 4096 ∧ ¬ s.Charged ⟨0, 0⟩ := by
  constructor
  · refine ⟨_, exec_run rfl, rfl, rfl, fun h => ?_⟩
    exact absurd h.sum (by decide)
  · refine ⟨_, exec_run rfl, rfl, rfl, rfl, fun h => ?_⟩
    exact absurd h.sum (by decide)

end QuickAssist.UsdmDrv
