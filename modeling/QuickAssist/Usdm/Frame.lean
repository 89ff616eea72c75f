import QuickAssist.Usdm.Safety

/-!
# What the heap leaves alone

Between the opening of the file and the return to the caller, the functions of the heap change slabs, lists and the
page table. They leave alone whether the file is open, the kind of pages, the walker and what the caller holds, and
what they store is for pages of the kind in use: `Kept`.
-/

namespace QuickAssist.Usdm

open Lib

structure Kept (h h' : Heap) : Prop where
  fd : h'.fd = h.fd
  hugepagesEnabled : h'.hugepagesEnabled = h.hugepagesEnabled
  loadKeyHpg : h'.loadKeyHpg = h.loadKeyHpg
  live : h'.live = h.live
  stored : ∀ hpEn ∈ h'.stored, hpEn ∈ h.stored ∨ hpEn = h.hugepagesEnabled

namespace Kept

variable {h h' h'' : Heap}

lemma refl (h : Heap) : Kept h h := ⟨rfl, rfl, rfl, rfl, fun _ hmem => Or.inl hmem⟩

lemma trans (hkept : Kept h h') (hkept' : Kept h' h'') : Kept h h'' := by
  refine ⟨hkept'.fd.trans hkept.fd, hkept'.hugepagesEnabled.trans hkept.hugepagesEnabled,
    hkept'.loadKeyHpg.trans hkept.loadKeyHpg, hkept'.live.trans hkept.live, ?_⟩
  intro hpEn hmem
  rcases hkept'.stored hpEn hmem with hmem | heq
  · exact hkept.stored hpEn hmem
  · exact Or.inr (heq.trans hkept.hugepagesEnabled)

lemma of_eq (hfd : h'.fd = h.fd) (hhpg : h'.hugepagesEnabled = h.hugepagesEnabled)
    (hkey : h'.loadKeyHpg = h.loadKeyHpg) (hlive : h'.live = h.live) (hstored : h'.stored = h.stored) : Kept h h' :=
  ⟨hfd, hhpg, hkey, hlive, fun _ hmem => Or.inl (hstored ▸ hmem)⟩

end Kept

section Functions

variable (h : Heap) (a : Answers) (size align : ℕ) (node : ℤ)

lemma kept_freeSlab (p : ℕ) : Kept h (freeSlab h p) := by
  unfold freeSlab delSlabFromHash
  dsimp only
  split <;> exact Kept.of_eq rfl rfl rfl rfl rfl

/-- **What one move does.** -/
theorem Kept.move {a : Answers} {New : Heap → ℕ → DevMemInfo → Prop} {x y : Heap × List ℕ} (hkept : Kept h x.1)
    (hmove : Move a New x y) : Kept h y.1 := by
  refine hkept.trans ?_
  cases hmove with
  | shift hshift => cases hshift <;> exact Kept.of_eq rfl rfl rfl rfl rfl
  | add => exact ⟨rfl, rfl, rfl, rfl, fun hpEn hmem => (List.mem_cons.mp hmem).symm⟩
  | free => exact kept_freeSlab _ _

/-- **An allocation**, after the opening of the file. -/
theorem kept_allocAddr : Kept (qaeOpenFd h a).1 (allocAddr h a size node align).1 := by
  have hmoves : Moves a (fun _ _ _ => True) ((qaeOpenFd h a).1, []) ((allocAddr h a size node align).1, []) :=
    moves_allocAddr fun _ _ _ _ _ _ _ => trivial
  exact hmoves.invariant (I := fun x => Kept (qaeOpenFd h a).1 x.1) (fun _ _ hkept hmove => hkept.move _ hmove)
    (Kept.refl _)

/-- **A free**, after the opening of the file. -/
theorem kept_freeAddr (va : ℕ) : Kept (qaeOpenFd h a).1 (freeAddr h a va).1 := by
  unfold freeAddr
  cases qaeOpenFd h a with
  | mk h₁ ok =>
    cases ok with
    | false => exact Kept.refl h₁
    | true =>
      dsimp only
      cases findSlabInHash h₁ va with
      | none => exact Kept.refl h₁
      | some p =>
        have hemptied : ∀ ctrl n, Kept h₁
            { (h₁.setCtrl p ctrl).setAllocations p n with userMemList := h₁.userMemList.erase p } :=
          fun _ _ => Kept.of_eq rfl rfl rfl rfl rfl
        have hlarge : Kept h₁ { h₁ with userLargeMemList := h₁.userLargeMemList.erase p } :=
          Kept.of_eq rfl rfl rfl rfl rfl
        dsimp only
        split
        · exact hlarge.trans (kept_freeSlab _ p)
        · split
          · exact Kept.of_eq rfl rfl rfl rfl rfl
          · unfold pushSlab
            dsimp only
            split
            · exact Kept.of_eq rfl rfl rfl rfl rfl
            · exact (hemptied _ _).trans (kept_freeSlab _ p)

lemma live_qaeOpenFd : (qaeOpenFd h a).1.live = h.live := by
  unfold qaeOpenFd
  split
  · rfl
  · split <;> rfl

lemma fd_qaeOpenFd (hok : (qaeOpenFd h a).2 = true) : (qaeOpenFd h a).1.fd = true := by
  unfold qaeOpenFd at hok ⊢
  split
  · assumption
  · rename_i hfd
    rw [if_neg hfd] at hok
    split
    · rfl
    · rename_i hopen
      rw [if_neg hopen] at hok
      cases hok

end Functions

/-- **A call that allocates**, but for what the caller holds. -/
theorem kept_qaeMemAllocNUMA {h : Heap} (hfd : h.fd = true) (a : Answers) (size : U64) (node : ℤ)
    (align : U64) : Kept h { qaeMemAllocNUMA h a size node align with live := h.live } := by
  have hkept := kept_allocAddr h a size.toNat align.toNat node
  rw [qaeOpenFd_of_open hfd] at hkept
  unfold qaeMemAllocNUMA
  split
  · cases halloc : allocAddr h a size.toNat node align.toNat with
    | mk h₁ r =>
      rw [halloc] at hkept
      have hkept₁ : Kept h { h₁ with live := h.live } := hkept.trans (Kept.of_eq rfl rfl rfl hkept.live.symm rfl)
      cases r with
      | none => exact hkept₁
      | some addr =>
        dsimp only
        split <;> exact hkept₁
  · exact Kept.refl h

/-- **A call that frees**, but for what the caller holds. -/
theorem kept_qaeMemFreeNUMA {h : Heap} (hfd : h.fd = true) (a : Answers) (va : ℕ) :
    Kept h { qaeMemFreeNUMA h a va with live := h.live } := by
  have hkept := kept_freeAddr h a va
  rw [qaeOpenFd_of_open hfd] at hkept
  unfold qaeMemFreeNUMA
  split
  · cases hfree : freeAddr h a va with
    | mk h₁ ok =>
      rw [hfree] at hkept
      have hkept₁ : Kept h { h₁ with live := h.live } := hkept.trans (Kept.of_eq rfl rfl rfl hkept.live.symm rfl)
      cases ok with
      | false | true => exact hkept₁
  · exact Kept.refl h

end QuickAssist.Usdm
