import Mathlib.Algebra.BigOperators.Group.List.Basic
import Mathlib.Algebra.Ring.Int.Defs
import Mathlib.Data.List.ReduceOption

/-!
# The references of the crypto service

A transform of the kernel holds a reference on a crypto instance, which is counted in the `refctr` of the instance and
in the `ref_count` of its device. When the device is shut down, the service drops the references that are left and
frees its instances.

**The defect.** The loop that drops the references of an instance is bounded by the counter that its body lowers, so
it stops half way: `freeInstances_drops_iff`. The device stays in use, and a reset does not start it again.
-/

namespace QuickAssist.KernelCrypto

open List

variable {ρ : Type*}

/-- Source: `struct qat_crypto_instance`. -/
structure Instance (ρ : Type*) where
  refctr : ℤ
  symTx : Option ρ
  symRx : Option ρ
  pkeTx : Option ρ
  pkeRx : Option ρ

/-- Of `struct adf_accel_dev` what is used here, the references on its module, and the rings that were removed. -/
structure Device (ρ : Type*) where
  refCount : ℤ
  moduleRefs : ℤ
  cryptoList : List (Instance ρ)
  removed : List ρ

def adfDevInUse (dev : Device ρ) : Bool := dev.refCount != 0

def adfDevPut (dev : Device ρ) : Device ρ :=
  let dev := { dev with refCount := dev.refCount - 1 }
  if dev.refCount = 0 then { dev with moduleRefs := dev.moduleRefs - 1 } else dev

def putInstance (s : Instance ρ × Device ρ) : Instance ρ × Device ρ :=
  ({ s.1 with refctr := s.1.refctr - 1 }, adfDevPut s.2)

/-- Source: the inner loop of `qat_crypto_free_instances`. -/
def putAll (i : ℤ) (s : Instance ρ × Device ρ) : Instance ρ × Device ρ :=
  if i < s.1.refctr then putAll (i + 1) (putInstance s) else s
termination_by (s.1.refctr - i).toNat
decreasing_by
  simp only [putInstance]
  omega

/-- Source: the outer loop of `qat_crypto_free_instances`. The result has the instances as they are when they are
freed. -/
def freeEach : List (Instance ρ) → Device ρ → List (Instance ρ) × Device ρ
  | [], dev => ([], dev)
  | inst :: list, dev =>
    let (inst, dev) := putAll 0 (inst, dev)
    let rings := [inst.symTx, inst.symRx, inst.pkeTx, inst.pkeRx].reduceOption
    let (freed, dev) := freeEach list { dev with removed := dev.removed ++ rings, cryptoList := list }
    (inst :: freed, dev)

def freeInstances (dev : Device ρ) : List (Instance ρ) × Device ρ := freeEach dev.cryptoList dev

/-- How many references on an instance are dropped. -/
def dropped (refctr : ℤ) : ℤ := ((refctr + 1) / 2).toNat

lemma refCount_adfDevPut (dev : Device ρ) : (adfDevPut dev).refCount = dev.refCount - 1 := by
  unfold adfDevPut
  dsimp only
  split <;> rfl

lemma putAll_spec (i : ℤ) (s : Instance ρ × Device ρ) :
    (putAll i s).1.refctr = s.1.refctr - dropped (s.1.refctr - i) ∧
      (putAll i s).2.refCount = s.2.refCount - dropped (s.1.refctr - i) := by
  unfold dropped
  fun_induction putAll i s with
  | case1 i s hlt ih =>
    rw [ih.1, ih.2]
    simp only [putInstance, refCount_adfDevPut]
    omega
  | case2 i s hge => omega

lemma freeEach_spec (list : List (Instance ρ)) (dev : Device ρ) :
    (freeEach list dev).1.map Instance.refctr = list.map (fun inst => inst.refctr - dropped inst.refctr) ∧
      (freeEach list dev).2.refCount = dev.refCount - (list.map fun inst => dropped inst.refctr).sum := by
  induction list generalizing dev with
  | nil => simp [freeEach]
  | cons inst list ih =>
    obtain ⟨hrefctr, hcount⟩ := putAll_spec 0 (inst, dev)
    rw [sub_zero] at hrefctr hcount
    simp only [freeEach, map_cons, sum_cons, ih, hrefctr, hcount, true_and]
    omega

/-- The service has dropped all its references, and the reset sees only those of others. -/
structure Drops (dev : Device ρ) : Prop where
  lowered : (freeInstances dev).2.refCount = dev.refCount - (dev.cryptoList.map Instance.refctr).sum
  none_held : ∀ refctr ∈ (freeInstances dev).1.map Instance.refctr, refctr = 0
  in_use : adfDevInUse (freeInstances dev).2 = (dev.refCount != (dev.cryptoList.map Instance.refctr).sum)

/-- **The references are dropped exactly if no instance has more than one.** -/
theorem freeInstances_drops_iff (dev : Device ρ) :
    Drops dev ↔ ∀ inst ∈ dev.cryptoList, inst.refctr = 0 ∨ inst.refctr = 1 := by
  obtain ⟨hfreed, hcount⟩ := freeEach_spec dev.cryptoList dev
  constructor
  · intro hdrops inst hinst
    have hzero := hdrops.none_held
    rw [freeInstances, hfreed] at hzero
    have hleft := hzero _ (mem_map_of_mem hinst)
    unfold dropped at hleft
    omega
  · intro hone
    have hall : ∀ inst ∈ dev.cryptoList, dropped inst.refctr = inst.refctr := by
      intro inst hinst
      rcases hone inst hinst with h | h <;> rw [h] <;> rfl
    rw [map_congr_left hall] at hcount
    refine ⟨hcount, ?_, ?_⟩
    · rw [freeInstances, hfreed]
      intro refctr hmem
      obtain ⟨inst, hinst, rfl⟩ := mem_map.mp hmem
      rw [hall inst hinst, sub_self]
    · rw [adfDevInUse, freeInstances, hcount, Bool.eq_iff_iff]
      simp [sub_eq_zero]

/-- **Two transforms share an instance**, and one of their references is left. -/
theorem half_of_two_dropped : ∃ dev : Device Unit, dev.refCount = 2 ∧ dev.cryptoList.map Instance.refctr = [2] ∧
    (freeInstances dev).2.refCount = 1 ∧ adfDevInUse (freeInstances dev).2 = true ∧ ¬ Drops dev := by
  have hcount := (freeEach_spec [⟨2, none, none, none, none⟩] (⟨2, 1, [⟨2, none, none, none, none⟩], []⟩ : Device Unit)).2
  refine ⟨⟨2, 1, [⟨2, none, none, none, none⟩], []⟩, rfl, rfl, hcount, ?_, ?_⟩
  · rw [adfDevInUse, freeInstances, hcount]
    rfl
  · intro hdrops
    exact absurd (hcount.symm.trans hdrops.lowered) (by decide)

end QuickAssist.KernelCrypto
