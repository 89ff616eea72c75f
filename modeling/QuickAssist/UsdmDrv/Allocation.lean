import QuickAssist.UsdmDrv.Slabs

/-!
# What an allocation does

`userMemAlloc` makes its checks, charges the memory, and maps the slab for the device. The part up to the mapping is
the same for small and for large slabs, but for a page: that of the control information. `userMemAlloc_eq` is the whole
function in one equation.
-/

namespace QuickAssist.UsdmDrv

open Lib

/-! ## The checks -/

def newKMem (size : U64) (type : U32) (k : KernelAnswers) : KMem :=
  ⟨k.slab, if type ≠ 0 then k.ctrlPage else 0, remappingSize size, k.phys⟩

def charge (size : U64) (type : U32) : U64 := if type ≠ 0 then remappingSize size + pageSize else remappingSize size

def quotaKBytes (s : Usdm) (size : U64) (type : U32) : U64 :=
  if type ≠ 0 then inKBytes (s.memAllocated + remappingSize size) + pageSize / 1024
  else inKBytes (s.memAllocated + remappingSize size)

def WithinQuota (cfg : Params) (s : Usdm) (size : U64) (type : U32) : Prop :=
  ¬ (cfg.maxMemNuma.setWidth 64 ≠ 0 ∧ cfg.maxMemNuma.setWidth 64 < quotaKBytes s size type)
  deriving Decidable

/-- The checks of `userMemAlloc` are passed, and the kernel has the memory that it is asked for. -/
@[mk_iff] structure Served (cfg : Params) (s : Usdm) (size : U64) (type : U32) (k : KernelAnswers) :
    Prop where
  nonzero : size ≠ 0
  quota : WithinQuota cfg s size type
  ctrlPage : type ≠ 0 → k.ctrlPage ≠ 0
  kmem : k.kmem.isSome
  slab : k.slab ≠ 0
  aligned : isPageAligned k.slab = true

instance (cfg : Params) (s : Usdm) (size : U64) (type : U32) (k : KernelAnswers) :
    Decidable (Served cfg s size type k) :=
  decidable_of_iff' _ (served_iff cfg s size type k)

section Equation

variable {cfg : Params} {s : Usdm} {fp : ℕ} {list : ProcMemList} {size : U64} {type : U32} {k : KernelAnswers}

/-- **The checks in one equation.** They are made in another order for a small slab than for a large one;
what comes of them is the same. -/
theorem checks_eq {α : Type*} (refused : α) (served : ℕ → α) (servedSmall : ℕ → α) : (if size = 0 then refused
      else if type ≠ 0 then
        if cfg.maxMemNuma.setWidth 64 ≠ 0 ∧ cfg.maxMemNuma.setWidth 64 <
            inKBytes (s.memAllocated + remappingSize size) + pageSize / 1024 then refused
        else if k.ctrlPage = 0 then refused
        else
          match k.kmem with
          | none => refused
          | some p => if k.slab = 0 ∨ ¬ isPageAligned k.slab then refused else served p
      else if cfg.maxMemNuma.setWidth 64 ≠ 0 ∧ cfg.maxMemNuma.setWidth 64 <
          inKBytes (s.memAllocated + remappingSize size) then refused
      else if k.slab = 0 ∨ ¬ isPageAligned k.slab then refused
      else
        match k.kmem with
        | none => refused
        | some p => servedSmall p) =
      if Served cfg s size type k then
        if type ≠ 0 then served (k.kmem.getD 0) else servedSmall (k.kmem.getD 0)
      else refused := by
  by_cases htype : type ≠ 0
  · -- a large slab needs a page for the control information
    simp only [served_iff, WithinQuota, quotaKBytes, if_pos htype]
    rcases k.kmem with _ | p
    · simp
    · grind
  · simp only [served_iff, WithinQuota, quotaKBytes, if_neg htype]
    rcases k.kmem with _ | p
    · simp
    · grind

/-- **An allocation in one equation**, when the file is open. -/
theorem userMemAlloc_eq (hdata : s.privateData fp = some list) : userMemAlloc cfg s fp size type k =
      if Served cfg s size type k then
        mapSlab { s with memAllocated := s.memAllocated + charge size type } fp list
          (k.kmem.getD 0) (newKMem size type k) type k.mapFails
      else (s, false) := by
  unfold userMemAlloc
  rw [hdata]
  refine (checks_eq _ _ _).trans (if_congr Iff.rfl ?_ rfl)
  unfold charge newKMem
  split <;> rfl

def undischarged (type : U32) : U64 := if type = 0 ∨ type = large then 0 else pageSize

lemma mapSlab_eq (p : ℕ) :
    mapSlab { s with memAllocated := s.memAllocated + charge size type } fp list p (newKMem size type k)
        type k.mapFails =
      if k.mapFails then ({ s with memAllocated := s.memAllocated + undischarged type }, false)
      else (addSlab { s with memAllocated := s.memAllocated + charge size type } fp list p
        (newKMem size type k), true) := by
  unfold mapSlab
  split
  · have hsize : (newKMem size type k).size = remappingSize size := rfl
    have hmem : (if type = large then s.memAllocated + charge size type - pageSize
        else s.memAllocated + charge size type) - remappingSize size = s.memAllocated + undischarged type := by
      unfold charge undischarged
      by_cases hzero : type = 0
      · subst hzero
        rw [if_neg (by decide), if_neg (by decide), if_pos (Or.inl rfl)]
        grind
      · by_cases hlarge : type = large
        · grind
        · grind
    dsimp only
    rw [hsize, hmem]
  · rfl

inductive Allocated (cfg : Params) (s : Usdm) (fp : ℕ) (size : U64) (type : U32)
    (k : KernelAnswers) : Usdm × Bool → Prop
  | refused (hrefused : ¬ ((s.privateData fp).isSome ∧ Served cfg s size type k)) :
      Allocated cfg s fp size type k (s, false)
  | notMapped (hopen : (s.privateData fp).isSome) (hserved : Served cfg s size type k)
      (hfails : k.mapFails = true) :
      Allocated cfg s fp size type k
        ({ s with memAllocated := s.memAllocated + undischarged type }, false)
  | added {list : ProcMemList} {p : ℕ} (hdata : s.privateData fp = some list)
      (hserved : Served cfg s size type k) (hfails : k.mapFails = false) (hp : k.kmem = some p) :
      Allocated cfg s fp size type k
        (addSlab { s with memAllocated := s.memAllocated + charge size type } fp list p
          (newKMem size type k), true)

/-- **One of them it is.** -/
theorem userMemAlloc_allocated (cfg : Params) (s : Usdm) (fp : ℕ) (size : U64)
    (type : U32) (k : KernelAnswers) : Allocated cfg s fp size type k (userMemAlloc cfg s fp size type k) := by
  cases hdata : s.privateData fp with
  | none =>
    have heq : userMemAlloc cfg s fp size type k = (s, false) := by
      unfold userMemAlloc
      rw [hdata]
      split <;> rfl
    rw [heq]
    refine .refused ?_
    rw [hdata]
    exact fun hopen => absurd hopen.1 Bool.false_ne_true
  | some list =>
    rw [userMemAlloc_eq hdata]
    split
    next hserved =>
      obtain ⟨p, hp⟩ := Option.isSome_iff_exists.mp hserved.kmem
      rw [mapSlab_eq, hp, Option.getD_some]
      cases hfails : k.mapFails with
      | true => exact .notMapped (by rw [hdata]; rfl) hserved hfails
      | false => exact .added hdata hserved hfails hp
    next hserved => exact .refused fun hopen => hserved hopen.2

end Equation

end QuickAssist.UsdmDrv
