import QuickAssist.Lib.Run
import QuickAssist.UsdmDrv.Allocation
import Mathlib.Data.List.Perm.Subperm

/-!
# Whose slabs they are

A slab is found by its physical address alone, in a table that all files share, and it is taken out of the list of the
file through which it is *freed*. Nothing compares that file with the one through which it was allocated.

**The defect.** `foreign_free_corrupts`: one process frees the slab of another one. The list of the other one still
begins with the slab that is gone, and the first one has `2 ^ 64 - 1` allocations. The address to be freed after a
failed copy, in an allocation, is the one that the process passed in, so the condition is also on that address.
-/

namespace QuickAssist.UsdmDrv

open Lib Function List Option

variable {A : Access → Prop} {s : Usdm} {slabs : ℕ → List ℕ} {chain : U64 → List ℕ} {procs xs live : List ℕ}
  {fp p : ℕ} {list : ProcMemList} {J : Usdm → Prop} {cfg : Params}

/-! ## The property -/

def procEnds (privateData : ℕ → Option ProcMemList) (fp : ℕ) : Ends ℕ :=
  match privateData fp with
  | some list => list.slabs
  | none => ⟨none, none⟩

/-- The lists of the driver are those of `slabs` for each file, of `chain` for each key of the hash
and of `procs` for the files, and they are as they should be. -/
structure OwnedBy (s : Usdm) (slabs : ℕ → List ℕ) (chain : U64 → List ℕ) (procs : List ℕ) : Prop where
  lists : ∀ fp, Linked s.kernelLinks (procEnds s.privateData fp) (slabs fp)
  chains : ∀ key, Linked s.hashLinks (s.slabList key) (chain key)
  files : Linked s.procLinks s.memDevNuma procs
  mem_files : ∀ fp, fp ∈ procs ↔ (s.privateData fp).isSome
  count : ∀ fp list, s.privateData fp = some list → list.allocsNr.toNat = (slabs fp).length
  unique : ∀ key, ∀ p ∈ chain key, ∃! fp, (s.privateData fp).isSome ∧ p ∈ slabs fp
  /-- Slabs were only freed and mapped through the file they were allocated through. -/
  accesses : ∀ a ∈ s.accesses, a.file = a.allocatedBy

def Usdm.Owned (s : Usdm) : Prop := ∃ slabs chain procs, OwnedBy s slabs chain procs

def NamesOwn (s : Usdm) (fp : ℕ) (phyAddr : U64) : Prop :=
  ∀ p, findSlab s phyAddr = some (some p) → s.allocatedBy p = fp

instance (s : Usdm) (fp : ℕ) (phyAddr : U64) : Decidable (NamesOwn s fp phyAddr) :=
  match hfind : findSlab s phyAddr with
  | some (some p) => decidable_of_iff (s.allocatedBy p = fp)
      ⟨fun h q hq => by cases hfind.symm.trans hq; exact h, fun h => h p hfind⟩
  | some none => .isTrue fun q hq => by cases hfind.symm.trans hq
  | none => .isTrue fun q hq => by cases hfind.symm.trans hq

/-- What a process may ask for: it frees and maps its own slabs. The address that it passes to an
allocation matters if the answer cannot be copied. -/
def Event.Own (s : Usdm) : Event → Prop
  | .devMemAlloc fp arg _ _ copyTo => copyTo = false → NamesOwn s fp arg.phyAddr
  | .devMemFree fp phyAddr _ => NamesOwn s fp phyAddr
  | .memMmap fp pgoff _ _ => NamesOwn s fp (pgoff <<< 12)
  | _ => True

instance (s : Usdm) (e : Event) : Decidable (e.Own s) := by
  apply @Event.casesOn _ e <;> intros <;> dsimp only [Event.Own] <;> infer_instance

/-! ## Families of lists -/

lemma length_lt_of_bound (hnodup : xs.Nodup) (hbound : ∀ p ∈ xs, 0 < p ∧ p < 2 ^ 64) : xs.length < 2 ^ 64 := by
  have hsub : xs ⊆ List.range' 1 (2 ^ 64 - 1) := by
    intro p hp
    obtain ⟨hpos, hlt⟩ := hbound p hp
    rw [mem_range'_1]
    omega
  have hle := (hnodup.subperm hsub).length_le
  rw [length_range'] at hle
  omega

lemma procEnds_update (privateData : ℕ → Option ProcMemList) (fp : ℕ) (list : ProcMemList) :
    procEnds (update privateData fp (some list)) = update (procEnds privateData) fp list.slabs := by
  funext fp'
  by_cases hfp : fp' = fp
  · subst hfp
    simp [procEnds]
  · simp only [procEnds, update_of_ne hfp]

lemma isSome_update {privateData : ℕ → Option ProcMemList} {fp : ℕ}
    (hdata : privateData fp = some list) (list' : ProcMemList) (fp' : ℕ) :
    (update privateData fp (some list') fp').isSome ↔ (privateData fp').isSome := by
  by_cases hfp : fp' = fp
  · subst hfp
    rw [update_self, hdata]
    exact Iff.rfl
  · rw [update_of_ne hfp]

lemma mem_update_add {ι : Type*} [DecidableEq ι] {xs : ι → List ℕ} {ys : List ℕ}
    {f : ℕ → ι} (hmem : ∀ i q, q ∈ xs i ↔ q ∈ live ∧ f q = i) (hp : p ∉ live) {i : ι}
    (hys : ∀ q, q ∈ ys ↔ q = p ∨ q ∈ xs i) : ∀ j q, q ∈ update xs i ys j ↔ q ∈ p :: live ∧ update f p i q = j := by
  intro j q
  by_cases hj : j = i
  · subst hj
    rw [update_self, hys, hmem]
    by_cases hq : q = p
    · subst hq
      simp
    · simp [hq]
  · rw [update_of_ne hj, hmem]
    by_cases hq : q = p
    · subst hq
      simp [hp, Ne.symm hj]
    · simp [hq]

lemma mem_update_erase {ι : Type*} [DecidableEq ι] {xs : ι → List ℕ}
    {f : ℕ → ι} (hmem : ∀ i q, q ∈ xs i ↔ q ∈ live ∧ f q = i) (hlive : live.Nodup)
    (hnodup : ∀ i, (xs i).Nodup) (p : ℕ) :
    ∀ j q, q ∈ update xs (f p) ((xs (f p)).erase p) j ↔ q ∈ live.erase p ∧ f q = j := by
  intro j q
  rw [hlive.mem_erase_iff]
  by_cases hj : j = f p
  · subst hj
    rw [update_self, (hnodup _).mem_erase_iff, hmem, and_assoc]
  · rw [update_of_ne hj, hmem]
    constructor
    · rintro ⟨hq, rfl⟩
      exact ⟨⟨fun heq => hj (by rw [heq]), hq⟩, rfl⟩
    · rintro ⟨⟨-, hq⟩, hfq⟩
      exact ⟨hq, hfq⟩

/-! ## The invariant -/

/-- The slabs in the lists are the slabs there are. What was freed and mapped satisfies `A`: that it was
through the file of the slab, or nothing at all. -/
structure UsdmInv (A : Access → Prop) (s : Usdm) (slabs : ℕ → List ℕ) (chain : U64 → List ℕ)
    (procs : List ℕ) : Prop where
  kernel : LinkedFamily s.kernelLinks (procEnds s.privateData) slabs
  hash : LinkedFamily s.hashLinks s.slabList chain
  files : Linked s.procLinks s.memDevNuma procs
  mem_files : ∀ fp, fp ∈ procs ↔ (s.privateData fp).isSome
  mem_slabs : ∀ fp p, p ∈ slabs fp ↔ p ∈ s.live ∧ s.allocatedBy p = fp
  mem_chain : ∀ key p, p ∈ chain key ↔ p ∈ s.live ∧ getKey (s.kmem p).phyAddr = key
  count : ∀ fp list, s.privateData fp = some list → list.allocsNr.toNat = (slabs fp).length
  live : s.live.Nodup
  bound : ∀ p ∈ s.live, 0 < p ∧ p < 2 ^ 64
  phys : ∀ p ∈ s.live, ∀ q ∈ s.live, (s.kmem p).phyAddr = (s.kmem q).phyAddr → p = q
  accesses : ∀ a ∈ s.accesses, A a

namespace UsdmInv

lemma isSome_of_mem (h : UsdmInv A s slabs chain procs) (hp : p ∈ slabs fp) : (s.privateData fp).isSome := by
  have hhead := (h.kernel.linked fp).head
  unfold procEnds at hhead
  cases hdata : s.privateData fp with
  | some list => rfl
  | none =>
    rw [hdata] at hhead
    have hnil : slabs fp = [] := List.head?_eq_none_iff.mp hhead.symm
    rw [hnil] at hp
    cases hp

lemma ownedBy (h : UsdmInv (fun a => a.file = a.allocatedBy) s slabs chain procs) : OwnedBy s slabs chain procs := by
  refine ⟨h.kernel.linked, h.hash.linked, h.files, h.mem_files, h.count, ?_, h.accesses⟩
  intro key p hp
  obtain ⟨hlive, -⟩ := (h.mem_chain key p).mp hp
  have hmem : p ∈ slabs (s.allocatedBy p) := (h.mem_slabs _ p).mpr ⟨hlive, rfl⟩
  refine ⟨s.allocatedBy p, ⟨h.isSome_of_mem hmem, hmem⟩, ?_⟩
  rintro fp ⟨-, hfp⟩
  exact ((h.mem_slabs fp p).mp hfp).2.symm

section

variable (h : UsdmInv A s slabs chain procs)

include h

lemma findSlab_spec (id : U64) :
    ∃ r, findSlab s id = some r ∧ ∀ p, r = some p ↔ p ∈ s.live ∧ (s.kmem p).phyAddr = id := by
  have hchain := h.hash.linked (getKey id)
  have hlength : (chain (getKey id)).length ≤ s.live.length := by
    refine (hchain.nodup.subperm ?_).length_le
    intro p hp
    exact ((h.mem_chain _ p).mp hp).1
  refine ⟨_, hchain.search_eq (fun p => decide ((s.kmem p).phyAddr = id)) hlength, ?_⟩
  intro p
  constructor
  · intro hfind
    have hphys := List.find?_some hfind
    exact ⟨((h.mem_chain _ p).mp (mem_of_find?_eq_some hfind)).1, by simpa using hphys⟩
  · rintro ⟨hlive, hphys⟩
    have hmem : p ∈ chain (getKey id) := (h.mem_chain _ p).mpr ⟨hlive, by rw [hphys]⟩
    have hsome : ((chain (getKey id)).find? fun p => decide ((s.kmem p).phyAddr = id)).isSome :=
      List.find?_isSome.mpr ⟨p, hmem, decide_eq_true hphys⟩
    obtain ⟨q, hq⟩ := isSome_iff_exists.mp hsome
    have hqlive := ((h.mem_chain _ q).mp (mem_of_find?_eq_some hq)).1
    have hcond := List.find?_some hq
    have hqphys : (s.kmem q).phyAddr = id := by simpa using hcond
    obtain rfl := h.phys q hqlive p hlive (hqphys.trans hphys.symm)
    exact hq

/-! ## Steps keep the invariant -/

lemma count_update (fp : ℕ) {list' : ProcMemList} (hcount : list'.allocsNr.toNat = xs.length) :
    ∀ fp' l, update s.privateData fp (some list') fp' = some l →
      l.allocsNr.toNat = (update slabs fp xs fp').length := by
  intro fp' l hl
  by_cases hfp : fp' = fp
  · subst hfp
    rw [update_self] at hl ⊢
    cases hl
    exact hcount
  · rw [update_of_ne hfp] at hl ⊢
    exact h.count fp' l hl

lemma length_slabs_le (fp : ℕ) : (slabs fp).length ≤ s.live.length := by
  refine ((h.kernel.linked fp).nodup.subperm ?_).length_le
  intro p hp
  exact ((h.mem_slabs fp p).mp hp).1

lemma notMem_of_notMem_live (hp : p ∉ s.live) : (∀ fp, p ∉ slabs fp) ∧ ∀ key, p ∉ chain key :=
  ⟨fun fp hmem => hp ((h.mem_slabs fp p).mp hmem).1, fun key hmem => hp ((h.mem_chain key p).mp hmem).1⟩

lemma addSlab (hdata : s.privateData fp = some list) (hp : p ∉ s.live) (hbound : 0 < p ∧ p < 2 ^ 64) (kmem : KMem)
    (hphys : ∀ q ∈ s.live, (s.kmem q).phyAddr ≠ kmem.phyAddr) :
    UsdmInv A (addSlab s fp list p kmem) (update slabs fp (slabs fp ++ [p]))
      (update chain (getKey kmem.phyAddr) (p :: chain (getKey kmem.phyAddr))) procs := by
  obtain ⟨hslabs, hchain⟩ := h.notMem_of_notMem_live hp
  have hends : procEnds s.privateData fp = list.slabs := by simp only [procEnds, hdata]
  have hlive : (p :: s.live).Nodup := nodup_cons.mpr ⟨hp, h.live⟩
  have hboundLive : ∀ q ∈ p :: s.live, 0 < q ∧ q < 2 ^ 64 := forall_mem_cons.mpr ⟨hbound, h.bound⟩
  have hne : ∀ q ∈ s.live, q ≠ p := by
    rintro q hq rfl
    exact hp hq
  have hkernel := h.kernel.addEnd hslabs fp
  rw [hends, ← procEnds_update s.privateData fp ⟨list.allocsNr + 1, list.hugepagesNr, _⟩] at hkernel
  refine ⟨hkernel, h.hash.addHead hchain (getKey kmem.phyAddr), h.files, ?_, ?_, ?_, ?_, hlive,
    hboundLive, ?_, h.accesses⟩
  · intro fp'
    rw [h.mem_files]
    exact (isSome_update hdata _ fp').symm
  · refine mem_update_add h.mem_slabs hp ?_
    intro q
    rw [mem_append, mem_singleton, or_comm]
  · intro key q
    have hkey := Function.apply_update (fun _ m => getKey (KMem.phyAddr m)) s.kmem p kmem q
    rw [mem_update_add h.mem_chain hp (fun _ => mem_cons) key q]
    simp only [UsdmDrv.addSlab, hkey]
  · refine h.count_update _ ?_
    have hlt := length_lt_of_bound hlive hboundLive
    have hle := h.length_slabs_le fp
    rw [length_cons] at hlt
    have hone : (1 : U64).toNat = 1 := rfl
    rw [BitVec.toNat_add, h.count fp list hdata, length_append]
    exact Nat.mod_eq_of_lt (by omega)
  · intro q hq r hr heq
    simp only [UsdmDrv.addSlab, mem_cons] at hq hr heq
    rcases hq with rfl | hq
    · rcases hr with rfl | hr
      · rfl
      · rw [update_self, update_of_ne (hne r hr)] at heq
        exact absurd heq.symm (hphys r hr)
    · rcases hr with rfl | hr
      · rw [update_self, update_of_ne (hne q hq)] at heq
        exact absurd heq (hphys q hq)
      · rw [update_of_ne (hne q hq), update_of_ne (hne r hr)] at heq
        exact h.phys q hq r hr heq

lemma freeSlab (hA : ∀ fp, A ⟨fp, fp⟩) (hdata : s.privateData (s.allocatedBy p) = some list) (hp : p ∈ s.live) :
    UsdmInv A (freeSlab s (s.allocatedBy p) list p)
      (update slabs (s.allocatedBy p) ((slabs (s.allocatedBy p)).erase p))
      (update chain (getKey (s.kmem p).phyAddr) ((chain (getKey (s.kmem p).phyAddr)).erase p)) procs := by
  have hslab : p ∈ slabs (s.allocatedBy p) := (h.mem_slabs _ p).mpr ⟨hp, rfl⟩
  have hchain : p ∈ chain (getKey (s.kmem p).phyAddr) := (h.mem_chain _ p).mpr ⟨hp, rfl⟩
  have hends : procEnds s.privateData (s.allocatedBy p) = list.slabs := by
    simp only [procEnds, hdata]
  have hsub : ∀ q ∈ s.live.erase p, q ∈ s.live := fun q => mem_of_mem_erase
  have hkernel := h.kernel.remove hslab
  rw [hends, ← procEnds_update s.privateData _ ⟨list.allocsNr - 1, list.hugepagesNr, _⟩] at hkernel
  refine ⟨hkernel, h.hash.remove hchain, h.files, ?_, ?_, ?_, ?_, h.live.erase p, ?_, ?_, ?_⟩
  · intro fp'
    rw [h.mem_files]
    exact (isSome_update hdata _ fp').symm
  · exact mem_update_erase h.mem_slabs h.live (fun fp => (h.kernel.linked fp).nodup) p
  · exact mem_update_erase h.mem_chain h.live (fun key => (h.hash.linked key).nodup) p
  · refine h.count_update _ ?_
    have hlength := length_erase_of_mem hslab
    have hpos := length_pos_of_mem hslab
    have hcount := h.count _ list hdata
    have hone : (1 : U64).toNat = 1 := rfl
    rw [hlength, BitVec.toNat_sub_of_le (by rw [BitVec.le_def, hone]; omega), hone, hcount]
  · intro q hq
    exact h.bound q (hsub q hq)
  · intro q hq r hr
    exact h.phys q (hsub q hq) r (hsub r hr)
  · exact forall_mem_cons.mpr ⟨hA _, h.accesses⟩

lemma setMemAllocated (m : U64) : UsdmInv A { s with memAllocated := m } slabs chain procs := { h with }

lemma access {a : Access} (ha : A a) : UsdmInv A { s with accesses := a :: s.accesses } slabs chain procs :=
  { h with accesses := forall_mem_cons.mpr ⟨ha, h.accesses⟩ }

lemma setHugepages (hdata : s.privateData fp = some list) (maxHugePages : U32) (hugepagesNr : U64) :
    UsdmInv A { s with
      maxHugePages := maxHugePages
      privateData := update s.privateData fp (some { list with hugepagesNr := hugepagesNr }) }
      slabs chain procs := by
  refine { h with
    kernel := ?_, mem_files := fun fp' => (h.mem_files fp').trans (isSome_update hdata _ fp').symm, count := ?_ }
  · have hends : procEnds s.privateData fp = list.slabs := by simp only [procEnds, hdata]
    rw [procEnds_update, ← hends, update_eq_self]
    exact h.kernel
  · have hlist : ({ list with hugepagesNr := hugepagesNr } : ProcMemList).allocsNr.toNat =
        (slabs fp).length := h.count fp list hdata
    have hcount := h.count_update fp hlist
    rw [update_eq_self] at hcount
    exact hcount

end

/-- A property of the slabs and of the amount of memory that is kept when a slab is freed through its
own file. -/
structure Carried (J : Usdm → Prop) : Prop where
  congr : ∀ {s s' : Usdm}, J s → s'.live = s.live → s'.kmem = s.kmem → s'.memAllocated = s.memAllocated → J s'
  free : ∀ {s : Usdm} {p : ℕ} (list : ProcMemList), s.live.Nodup → p ∈ s.live → J s →
    J (UsdmDrv.freeSlab s (s.allocatedBy p) list p)

lemma freeSlabsLoop (h : UsdmInv A s slabs chain procs) (hA : ∀ fp, A ⟨fp, fp⟩)
    {J : Usdm → Prop} (hcarried : Carried J) (hJ : J s) (hopen : (s.privateData fp).isSome) {n : ℕ}
    (hn : (slabs fp).length ≤ n) : ∃ s' slabs' chain', freeSlabsLoop fp n s (slabs fp).head? = some s' ∧
      UsdmInv A s' slabs' chain' procs ∧ slabs' fp = [] ∧ (s'.privateData fp).isSome ∧ J s' := by
  generalize hxs : slabs fp = xs at hn
  induction xs generalizing s slabs chain n with
  | nil =>
    refine ⟨s, slabs, chain, ?_, h, hxs, hopen, hJ⟩
    cases n <;> rfl
  | cons p rest ih =>
    obtain ⟨n, rfl⟩ : ∃ k, n = k + 1 := ⟨n - 1, by rw [length_cons] at hn; omega⟩
    obtain ⟨list, hdata⟩ := isSome_iff_exists.mp hopen
    obtain ⟨hlive, rfl⟩ := (h.mem_slabs fp p).mp (by rw [hxs]; exact mem_cons_self)
    have hfree := h.freeSlab hA hdata hlive
    have hnext := ((h.kernel.linked _).links [] p rest (by rw [hxs]; rfl)).2
    have hrest : update slabs (s.allocatedBy p) ((slabs (s.allocatedBy p)).erase p) (s.allocatedBy p) = rest := by
      rw [update_self, hxs, erase_cons_head]
    obtain ⟨s', slabs', chain', hloop, hinv, hnil, hopen', hJ'⟩ := ih hfree
      (hcarried.free list h.live hlive hJ) ((isSome_update hdata _ _).mpr hopen) hrest (Nat.le_of_succ_le_succ hn)
    refine ⟨s', slabs', chain', ?_, hinv, hnil, hopen', hJ'⟩
    simp only [List.head?_cons, UsdmDrv.freeSlabsLoop, hdata, bind_some, hnext]
    exact hloop

lemma namesOwn_iff (h : UsdmInv A s slabs chain procs) (id : U64) :
    NamesOwn s fp id ↔ ∀ p ∈ s.live, (s.kmem p).phyAddr = id → s.allocatedBy p = fp := by
  obtain ⟨r, hfind, hr⟩ := h.findSlab_spec id
  unfold NamesOwn
  rw [hfind]
  constructor
  · intro hown p hp hphys
    exact hown p (by rw [(hr p).mpr ⟨hp, hphys⟩])
  · intro hown p hp
    obtain ⟨hlive, hphys⟩ := (hr p).mp (Option.some.inj hp)
    exact hown p hlive hphys

end UsdmInv

def Usdm.InvFor (A : Access → Prop) (s : Usdm) : Prop := ∃ slabs chain procs, UsdmInv A s slabs chain procs

/-- The invariant, when slabs were only freed and mapped through the file they were allocated through. -/
def Usdm.Inv (s : Usdm) : Prop := s.InvFor fun a => a.file = a.allocatedBy

/-- The call comes to an end, with the invariant and with what is carried along. -/
def Keeps (A : Access → Prop) (J : Usdm → Prop) (call : Option (Usdm × Bool)) : Prop :=
  ∃ r, call = some r ∧ r.1.InvFor A ∧ J r.1

lemma Keeps.same (h : s.InvFor A) (hJ : J s) (ok : Bool) : Keeps A J (some (s, ok)) := ⟨_, rfl, h, hJ⟩

section Steps

lemma Usdm.InvFor.userMemFree (h : s.InvFor A) (hcarried : UsdmInv.Carried J) (hJ : J s)
    (hA : ∀ fp, A ⟨fp, fp⟩) {id : U64}
    (hown : ∀ p ∈ s.live, (s.kmem p).phyAddr = id → s.allocatedBy p = fp) : Keeps A J (userMemFree s fp id) := by
  have hsame := Keeps.same h hJ false
  obtain ⟨slabs, chain, procs, h⟩ := h
  unfold UsdmDrv.userMemFree
  cases hdata : s.privateData fp with
  | none => exact hsame
  | some list =>
    obtain ⟨r, hfind, hr⟩ := h.findSlab_spec id
    simp only [hfind]
    cases r with
    | none => exact hsame
    | some p =>
      obtain ⟨hlive, hphys⟩ := (hr p).mp rfl
      obtain rfl := hown p hlive hphys
      exact ⟨_, rfl, ⟨_, _, _, h.freeSlab hA hdata hlive⟩, hcarried.free list h.live hlive hJ⟩

lemma own_addSlab {kmem : KMem} {id : U64} (hp : p ∉ s.live)
    (hown : ∀ q ∈ s.live, (s.kmem q).phyAddr = id → s.allocatedBy q = fp) :
    ∀ q ∈ (addSlab s fp list p kmem).live, ((addSlab s fp list p kmem).kmem q).phyAddr = id →
      (addSlab s fp list p kmem).allocatedBy q = fp := by
  intro q hq hphys
  simp only [addSlab, mem_cons] at hq hphys ⊢
  rcases hq with rfl | hq
  · exact update_self q fp s.allocatedBy
  · have hne : q ≠ p := by
      rintro rfl
      exact hp hq
    rw [update_of_ne hne] at hphys ⊢
    exact hown q hq hphys

lemma UsdmInv.allocate {k : KernelAnswers} (h : UsdmInv A s slabs chain procs)
    (hfresh : k.Fresh s) (hdata : s.privateData fp = some list) (hp : k.kmem = some p) (m size : U64) (type : U32) :
    UsdmInv A (UsdmDrv.addSlab { s with memAllocated := m } fp list p (newKMem size type k))
      (update slabs fp (slabs fp ++ [p])) (update chain (getKey k.phys) (p :: chain (getKey k.phys))) procs := by
  obtain ⟨hnew, hbound⟩ := hfresh.1 p hp
  exact (h.setMemAllocated m).addSlab hdata hnew hbound (newKMem size type k) hfresh.2

lemma UsdmInv.slabs_of_closed (h : UsdmInv A s slabs chain procs) (hdata : s.privateData fp = none) :
    slabs fp = [] := by
  rw [eq_nil_iff_forall_not_mem]
  intro p hp
  have hopen := h.isSome_of_mem hp
  rw [hdata] at hopen
  cases hopen

lemma carried_true : UsdmInv.Carried fun _ => True := ⟨fun _ _ _ _ => trivial, fun _ _ _ _ => trivial⟩

lemma UsdmInv.userMemFreeSlabs {procs : List ℕ} (h : UsdmInv A s slabs chain procs)
    (hA : ∀ fp, A ⟨fp, fp⟩) (hdata : s.privateData fp = some list) (hcarried : Carried J) (hJ : J s) :
    ∃ s' slabs' chain', userMemFreeSlabs s fp = some (s', true) ∧
      UsdmInv A s' slabs' chain' procs ∧ slabs' fp = [] ∧ (s'.privateData fp).isSome ∧ J s' := by
  have hset := h.setHugepages hdata (s.maxHugePages + list.hugepagesNr.setWidth 32) 0
  obtain ⟨s', slabs', chain', hloop, hinv, hnil, hopen, hJ'⟩ := hset.freeSlabsLoop hA
    hcarried (hcarried.congr hJ rfl rfl rfl)
    ((isSome_update hdata _ fp).mpr (by rw [hdata]; rfl)) (h.length_slabs_le fp)
  refine ⟨s', slabs', chain', ?_, hinv, hnil, hopen, hJ'⟩
  have hhead : list.slabs.head = (slabs fp).head? := by
    have hends := (h.kernel.linked fp).head
    simpa only [procEnds, hdata] using hends
  simp only [UsdmDrv.userMemFreeSlabs, hdata, hhead, hloop, map_some]

variable (h : s.InvFor A) (hcarried : UsdmInv.Carried J) (hJ : J s)

include h hcarried hJ

lemma Usdm.InvFor.devMemAlloc (hA : ∀ fp, A ⟨fp, fp⟩) {k : KernelAnswers} (hfresh : k.Fresh s)
    {arg : UserMemInfo} (hJ' : J (userMemAlloc cfg s fp arg.size arg.type k).1) (copyFrom : Bool)
    {copyTo : Bool} (hown : copyTo = false → NamesOwn s fp arg.phyAddr) :
    Keeps A J (devMemAlloc cfg s fp arg copyFrom k copyTo) := by
  obtain ⟨slabs, chain, procs, hs⟩ := id h
  unfold UsdmDrv.devMemAlloc
  split
  · exact .same h hJ false
  split
  · exact .same h hJ false
  have halloc := userMemAlloc_allocated cfg s fp arg.size arg.type k
  generalize userMemAlloc cfg s fp arg.size arg.type k = out at halloc hJ'
  cases halloc with
  | refused hrefused => exact ⟨_, rfl, h, hJ'⟩
  | notMapped hopen hserved hfails => exact ⟨_, rfl, ⟨_, _, _, hs.setMemAllocated _⟩, hJ'⟩
  | @added list p hdata hserved hfails hp =>
    have hadd := hs.allocate hfresh hdata hp (s.memAllocated + charge arg.size arg.type) arg.size arg.type
    cases copyTo with
    | true => exact ⟨_, rfl, ⟨_, _, _, hadd⟩, hJ'⟩
    | false =>
      obtain ⟨r, hr, hinv, hJr⟩ := Usdm.InvFor.userMemFree ⟨_, _, _, hadd⟩ hcarried hJ' hA
        (own_addSlab (hfresh.1 p hp).1 ((hs.namesOwn_iff arg.phyAddr).mp (hown rfl)))
      refine ⟨(r.1, false), ?_, hinv, hJr⟩
      simp [hr]

lemma Usdm.InvFor.memMmap {pgoff : U64} (size : U64) (remap : Bool)
    (hmaps : ∀ p, findSlab s (pgoff <<< 12) = some (some p) → A ⟨fp, s.allocatedBy p⟩) :
    Keeps A J (memMmap s fp pgoff size remap) := by
  have hsame := Keeps.same h hJ false
  obtain ⟨slabs, chain, procs, h⟩ := h
  unfold UsdmDrv.memMmap UsdmDrv.userMemGetInfo
  cases hdata : s.privateData fp with
  | none => exact hsame
  | some list =>
    obtain ⟨r, hfind, hr⟩ := h.findSlab_spec (pgoff <<< 12)
    simp only [hfind, map_some]
    cases r with
    | none => exact hsame
    | some p =>
      dsimp only
      split_ifs
      · exact hsame
      · exact hsame
      · exact ⟨_, rfl, ⟨_, _, _, h.access (hmaps p hfind)⟩, hcarried.congr hJ rfl rfl rfl⟩

lemma Usdm.InvFor.memOpen (kzalloc : Bool) : Keeps A J (memOpen s fp kzalloc) := by
  have hsame := Keeps.same h hJ
  obtain ⟨slabs, chain, procs, h⟩ := h
  unfold UsdmDrv.memOpen
  cases hdata : s.privateData fp with
  | some list => exact hsame true
  | none =>
    dsimp only
    split
    · exact hsame false
    have hends : procEnds s.privateData fp = ⟨none, none⟩ := by simp only [procEnds, hdata]
    have hnotMem : fp ∉ procs := by
      rw [h.mem_files, hdata]
      exact Bool.false_ne_true
    refine ⟨_, rfl, ⟨slabs, chain, procs ++ [fp], ?_⟩, hcarried.congr hJ rfl rfl rfl⟩
    refine { h with kernel := ?_, files := h.files.addEnd hnotMem, mem_files := ?_, count := ?_ }
    · rw [procEnds_update, ← hends, update_eq_self]
      exact h.kernel
    · intro fp'
      rw [mem_append, h.mem_files]
      by_cases hfp : fp' = fp
      · subst hfp
        simp
      · simp [hfp]
    · have hlist : (⟨0, 0, ⟨none, none⟩⟩ : ProcMemList).allocsNr.toNat = (slabs fp).length := by
        rw [h.slabs_of_closed hdata]
        rfl
      have hcount := h.count_update fp hlist
      rw [update_eq_self] at hcount
      exact hcount

lemma Usdm.InvFor.devReleasePid (hA : ∀ fp, A ⟨fp, fp⟩) : Keeps A J (devReleasePid s fp) := by
  cases hdata : s.privateData fp with
  | none =>
    have heq : UsdmDrv.userMemFreeSlabs s fp = some (s, false) := by
      simp only [UsdmDrv.userMemFreeSlabs, hdata]
    exact ⟨_, heq, h, hJ⟩
  | some list =>
    obtain ⟨slabs, chain, procs, h⟩ := h
    obtain ⟨s', slabs', chain', hfree, hinv, -, -, hJ'⟩ := h.userMemFreeSlabs hA hdata hcarried hJ
    exact ⟨_, hfree, ⟨_, _, _, hinv⟩, hJ'⟩

lemma Usdm.InvFor.memRelease (hA : ∀ fp, A ⟨fp, fp⟩) : Keeps A J (memRelease s fp) := by
  unfold UsdmDrv.memRelease
  cases hdata : s.privateData fp with
  | none => exact .same h hJ true
  | some list =>
    obtain ⟨slabs, chain, procs, h⟩ := h
    obtain ⟨s', slabs', chain', hfree, hinv, hnil, hopen, hJ'⟩ := h.userMemFreeSlabs hA hdata hcarried hJ
    simp only [hfree, map_some]
    obtain ⟨l₁, l₂, rfl⟩ := append_of_mem ((hinv.mem_files fp).mpr hopen)
    have hends : procEnds s'.privateData fp = ⟨none, none⟩ := by
      have hlinked := hinv.kernel.linked fp
      rw [hnil] at hlinked
      generalize procEnds s'.privateData fp = e at hlinked
      obtain ⟨hd, tl⟩ := e
      rw [show hd = none from hlinked.head, show tl = none from hlinked.tail]
    have hsame : procEnds (update s'.privateData fp none) = procEnds s'.privateData := by
      funext fp'
      by_cases hfp : fp' = fp
      · rw [hfp, hends]
        simp [procEnds]
      · simp only [procEnds, update_of_ne hfp]
    have hnodup := hinv.files.nodup
    refine ⟨_, rfl, ⟨slabs', chain', l₁ ++ l₂, ?_⟩, hcarried.congr hJ' rfl rfl rfl⟩
    refine { hinv with kernel := ?_, files := hinv.files.remove, mem_files := ?_, count := ?_ }
    · rw [hsame]
      exact hinv.kernel
    · intro fp'
      have hmem := hinv.mem_files fp'
      show fp' ∈ l₁ ++ l₂ ↔ (update s'.privateData fp none fp').isSome
      by_cases hfp : fp' = fp
      · subst hfp
        have hnotMem : fp' ∉ l₁ ++ l₂ := (nodup_middle.mp hnodup).notMem
        simp [update_self, mem_append.not.mp hnotMem]
      · rw [update_of_ne hfp, ← hmem]
        simp [hfp]
    · exact (forall_update_iff s'.privateData fun fp' o => ∀ l, o = some l → l.allocsNr.toNat = _).mpr
        ⟨fun _ h => (nomatch h), fun fp' _ => hinv.count fp'⟩

lemma Usdm.InvFor.devNumHpGet (copyTo : Bool) : Keeps A J (devNumHpGet cfg s fp copyTo) := by
  unfold UsdmDrv.devNumHpGet
  cases hdata : s.privateData fp with
  | none => exact .same h hJ false
  | some list =>
    dsimp only
    split
    · exact .same h hJ false
    · obtain ⟨slabs, chain, procs, h⟩ := h
      exact ⟨_, rfl, ⟨_, _, _, h.setHugepages hdata _ _⟩, hcarried.congr hJ rfl rfl rfl⟩

end Steps

/-- A process frees its own slabs. The address that it passes to an allocation matters if the answer
cannot be copied. -/
def Event.FreesOwn (s : Usdm) : Event → Prop
  | .devMemAlloc fp arg _ _ copyTo => copyTo = false → NamesOwn s fp arg.phyAddr
  | .devMemFree fp phyAddr _ => NamesOwn s fp phyAddr
  | _ => True

instance (s : Usdm) (e : Event) : Decidable (e.FreesOwn s) := by
  apply @Event.casesOn _ e <;> intros <;> dsimp only [Event.FreesOwn] <;> infer_instance

section Steps

variable {e : Event}

/-- **The step lemma.** A call through which a process frees only its own slabs comes to an end and keeps
the invariant, together with anything else that is carried along. -/
theorem usdmCall_inv (cfg : Params) (h : s.InvFor A) (hA : ∀ fp, A ⟨fp, fp⟩) (hcarried : UsdmInv.Carried J)
    (hJ : J s) (hpossible : e.Possible s) (hown : e.FreesOwn s)
    (halloc : ∀ fp arg copyFrom k copyTo, e = .devMemAlloc fp arg copyFrom k copyTo →
      J (userMemAlloc cfg s fp arg.size arg.type k).1)
    (hmaps : ∀ fp pgoff size remap p, e = .memMmap fp pgoff size remap →
      findSlab s (pgoff <<< 12) = some (some p) → A ⟨fp, s.allocatedBy p⟩) : Keeps A J (usdmCall cfg s e) := by
  cases e with
  | memOpen fp kzalloc => exact h.memOpen hcarried hJ kzalloc
  | devMemAlloc fp arg copyFrom k copyTo =>
    exact h.devMemAlloc hcarried hJ hA hpossible (halloc _ _ _ _ _ rfl) copyFrom hown
  | devMemFree fp phyAddr copyFrom =>
    simp only [usdmCall, UsdmDrv.devMemFree]
    split
    · exact .same h hJ false
    split
    · exact .same h hJ false
    · obtain ⟨slabs, chain, procs, hs⟩ := id h
      exact h.userMemFree hcarried hJ hA ((hs.namesOwn_iff phyAddr).mp hown)
  | devReleasePid fp => exact h.devReleasePid hcarried hJ hA
  | devNumHpGet fp copyTo => exact h.devNumHpGet hcarried hJ copyTo
  | memMmap fp pgoff size remap =>
    exact h.memMmap hcarried hJ size remap fun p hfind => hmaps fp pgoff size remap p rfl hfind
  | memRelease fp => exact h.memRelease hcarried hJ hA

lemma usdmStep_carried {s' : Usdm} (hcarried : UsdmInv.Carried J)
    (h : s.InvFor fun _ => True) (hJ : J s) (hown : e.FreesOwn s)
    (halloc : ∀ fp arg copyFrom k copyTo, e = .devMemAlloc fp arg copyFrom k copyTo → k.Fresh s →
      J (userMemAlloc cfg s fp arg.size arg.type k).1)
    (hstep : usdmStep cfg s e = some s') : s'.InvFor (fun _ => True) ∧ J s' := by
  obtain ⟨hpossible, hcall⟩ := ite_none_right_eq_some.mp hstep
  obtain ⟨r, hr, hinv, hJ'⟩ := usdmCall_inv cfg h (fun _ => trivial) hcarried hJ hpossible hown
    (fun fp arg copyFrom k copyTo he => halloc fp arg copyFrom k copyTo he (by subst he; exact hpossible))
    (fun _ _ _ _ _ _ _ => trivial)
  rw [hr] at hcall
  cases hcall
  exact ⟨hinv, hJ'⟩

lemma usdmStep_inv (h : s.Inv) (hpossible : e.Possible s) (hown : e.Own s) :
    ∃ s', usdmStep cfg s e = some s' ∧ s'.Inv := by
  have hfrees : e.FreesOwn s := by
    cases e with
    | devMemAlloc | devMemFree => exact hown
    | memOpen | devReleasePid | devNumHpGet | memMmap | memRelease => trivial
  obtain ⟨r, hr, hinv, -⟩ := usdmCall_inv cfg h (fun _ => rfl) carried_true trivial hpossible
    hfrees (fun _ _ _ _ _ _ => trivial) (by
      rintro fp pgoff size remap p rfl hfind
      exact (hown p hfind).symm)
  refine ⟨r.1, ?_, hinv⟩
  rw [usdmStep, if_pos hpossible, hr]
  rfl

end Steps

lemma usdmInit_inv (A : Access → Prop) (maxHugePages : U32) : (usdmInit maxHugePages).InvFor A := by
  refine ⟨fun _ => [], fun _ => [], [], LinkedFamily.nil _, LinkedFamily.nil _, Linked.nil _, ?_, ?_,
    ?_, ?_, nodup_nil, ?_, ?_, ?_⟩
  all_goals simp [usdmInit]

/-! ## Every run -/

/-- **Every slab belongs to one file**, in every run in which processes free and map only slabs that they have
allocated. -/
theorem slabs_owned {cfg : Params} {maxHugePages : U32} {es : List Event} {s : Usdm}
    (hrun : Run (guarded Event.Own (ofFun (usdmStep cfg))) (usdmInit maxHugePages) es s) :
    s.Owned ∧ ∀ e : Event, e.Possible s → e.Own s → ∃ s', usdmStep cfg s e = some s' := by
  have hinv : s.Inv := by
    refine hrun.invariant (I := Usdm.Inv) ?_ (usdmInit_inv _ maxHugePages)
    rintro s e s' hs ⟨hown, hstep⟩
    have hpossible : e.Possible s := (ite_none_right_eq_some.mp hstep).1
    obtain ⟨t, ht, hinv⟩ := usdmStep_inv hs hpossible hown
    obtain rfl := Option.some.inj (ht.symm.trans hstep)
    exact hinv
  refine ⟨?_, ?_⟩
  · obtain ⟨slabs, chain, procs, h⟩ := hinv
    exact ⟨slabs, chain, procs, h.ownedBy⟩
  · intro e hpossible hown
    obtain ⟨s', hs', -⟩ := usdmStep_inv hinv hpossible hown
    exact ⟨s', hs'⟩

/-- For instance, two processes have a slab each in the same chain. -/
theorem own_slabs_owned : ∃ s, Run (guarded Event.Own (ofFun (usdmStep ⟨0, 0⟩))) (usdmInit 0)
        [.memOpen 1 true, .memOpen 2 true,
          .devMemAlloc 1 ⟨4096, 0, 0⟩ true ⟨0, some 64, 0x1000, 0x200000, false⟩ true,
          .devMemAlloc 2 ⟨8192, 1, 0⟩ true ⟨0x3000, some 128, 0x4000, 0x201000, false⟩ true,
          .memMmap 2 0x201 8192 true, .devMemFree 2 0x201000 true] s ∧ s.live = [64] ∧ s.accesses = [⟨2, 2⟩, ⟨2, 2⟩] ∧
      (s.Owned ∧ ∀ e : Event, e.Possible s → e.Own s → ∃ s', usdmStep ⟨0, 0⟩ s e = some s') := by
  exact (exec_guardFun_run rfl).exists_and fun hrun => ⟨rfl, rfl, slabs_owned hrun⟩

/-! ## The slab of another process -/

/-- **One process frees the slab of another one**, whose list still begins with it. -/
theorem foreign_free_corrupts : ∃ s, Run (ofFun (usdmStep ⟨0, 0⟩)) (usdmInit 0) [.memOpen 1 true, .memOpen 2 true,
          .devMemAlloc 1 ⟨4096, 0, 0⟩ true ⟨0, some 64, 0x1000, 0x200000, false⟩ true,
          .devMemFree 2 0x200000 true] s ∧
      s.live = [] ∧ (s.privateData 1).map (fun list => list.slabs.head) = some (some 64) ∧
      (s.privateData 2).map ProcMemList.allocsNr = some (BitVec.allOnes 64) ∧ s.accesses = [⟨2, 1⟩] ∧ ¬ s.Owned := by
  refine ⟨_, exec_run rfl, rfl, rfl, rfl, rfl, ?_⟩
  rintro ⟨slabs, chain, procs, howned⟩
  have hfile := howned.accesses ⟨2, 1⟩ mem_cons_self
  exact absurd hfile (by decide)

end QuickAssist.UsdmDrv
