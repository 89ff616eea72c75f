import QuickAssist.Cfg.Arbiter

/-!
# The arbiter tables of a device type

The map of the worker threads of a C62x is made from a table in the driver, with the engines that the device does not
have taken out, and into another one. Both are `static`, and all devices of the type share them.

**The defect.** The engines are taken out of the table itself, for good. A device that is initialised after another
one, or again after it, loses the engines that the other did not have (`engine_lost_to_other`).
-/

namespace QuickAssist.Cfg

open List Function

def c62xMaxAccelengines : ℕ := 10

/-- Source: the initial value of `thrd_to_arb_map`. -/
def c62xThrdToArbMap (i : ℕ) : U32 := if i % 2 = 0 then 0x12222AAA else 0x11222AAA

structure ArbTables where
  thrdToArbMap : ℕ → U32
  thrdToArbMapGen : ℕ → U32

def ArbTables.loaded : ArbTables := ⟨c62xThrdToArbMap, fun _ => 0⟩

/-- What a device has to do with the map. -/
structure ArbDevice where
  aeMask : U32
  servEnaMask : Option ℕ

/-- Source: `adf_get_arbiter_mapping` of `adf_c62x_hw_data.c`. -/
def getArbiterMapping (d : ArbDevice) (t : ArbTables) : ArbTables :=
  let thrdToArbMap := (range' 1 (c62xMaxAccelengines - 1)).foldl
    (fun map i => if d.aeMask.getLsbD i then map else update map i 0) t.thrdToArbMap
  ⟨thrdToArbMap, genDispatchArbiter d.servEnaMask thrdToArbMap t.thrdToArbMapGen c62xMaxAccelengines⟩

/-- The values that `adf_init_arb` writes for the engines, after devices that were initialised before. -/
def initArb (before : List ArbDevice) (d : ArbDevice) : List U32 :=
  let t := getArbiterMapping d (before.foldl (fun t d => getArbiterMapping d t) .loaded)
  (range c62xMaxAccelengines).map t.thrdToArbMapGen

/-- What the arbiter of an engine is set to, from an entry of the table. -/
def dispatchEntry (servEnaMask : Option ℕ) (ability : U32) : U32 :=
  servEnaMask.elim ability fun mask => (dispatchThreads mask numThreadsPerAe ability (0#32, 0)).1

lemma fst_dispatchThread_zero (mask : ℕ) (st : U32 × ℕ) : (dispatchThread mask 0#32 st).1 = st.1 := by
  unfold dispatchThread
  induction pairWalk mask generalizing st with
  | nil => rfl
  | cons p walk ih =>
    rw [foldl_cons, ih]
    unfold dispatchServ
    split <;> simp [testAndSet]

lemma fst_dispatchThreads_zero (mask n : ℕ) (st : U32 × ℕ) : (dispatchThreads mask n 0#32 st).1 = st.1 := by
  induction n generalizing st with
  | zero => rfl
  | succ n ih =>
    have hshift : 0#32 >>> thrdAbilityBitLen = 0#32 := by decide
    rw [dispatchThreads, hshift, ih, BitVec.zero_and, fst_dispatchThread_zero]

lemma dispatchEntry_zero (servEnaMask : Option ℕ) : dispatchEntry servEnaMask 0 = 0 := by
  cases servEnaMask with
  | none => rfl
  | some mask => exact fst_dispatchThreads_zero _ _ _

lemma thrdToArbMap_getArbiterMapping (d : ArbDevice) (t : ArbTables) (i : ℕ) :
    (getArbiterMapping d t).thrdToArbMap i =
      if i ∈ range' 1 (c62xMaxAccelengines - 1) ∧ d.aeMask.getLsbD i = false then 0 else t.thrdToArbMap i := by
  unfold getArbiterMapping
  generalize range' 1 (c62xMaxAccelengines - 1) = l, t.thrdToArbMap = map
  induction l generalizing map with
  | nil => simp
  | cons j l ih => rcases hj : d.aeMask.getLsbD j <;> by_cases hij : i = j <;> simp_all

/-- **Engines stay out of the table.** -/
theorem thrdToArbMap_foldl (before : List ArbDevice) (t : ArbTables) (i : ℕ) :
    (before.foldl (fun t d => getArbiterMapping d t) t).thrdToArbMap i =
      if i ∈ range' 1 (c62xMaxAccelengines - 1) ∧ ∃ e ∈ before, e.aeMask.getLsbD i = false then 0
      else t.thrdToArbMap i := by
  induction before generalizing t with
  | nil => simp
  | cons d before ih =>
    rw [foldl_cons, ih, thrdToArbMap_getArbiterMapping]
    split_ifs <;> grind

lemma initArb_eq (before : List ArbDevice) (d : ArbDevice) :
    initArb before d = (range c62xMaxAccelengines).map fun i =>
      if i ∈ range' 1 (c62xMaxAccelengines - 1) ∧ ∃ e ∈ d :: before, e.aeMask.getLsbD i = false then 0
      else dispatchEntry d.servEnaMask (c62xThrdToArbMap i) := by
  apply map_congr_left
  intro i hi
  refine (genDispatchArbiter_apply _ _ _ _ _).trans ((if_pos (mem_range.mp hi)).trans ?_)
  change dispatchEntry d.servEnaMask ((getArbiterMapping d _).thrdToArbMap i) = _
  rw [thrdToArbMap_getArbiterMapping, thrdToArbMap_foldl, apply_ite (dispatchEntry _), apply_ite (dispatchEntry _),
    dispatchEntry_zero]
  split_ifs <;> first | rfl | grind

/-- **When the map is that of the device alone:** an engine it has was never taken out before it, or has nothing to
do. -/
theorem initArb_own_iff (before : List ArbDevice) (d : ArbDevice) :
    initArb before d = initArb [] d ↔ ∀ i ∈ range' 1 (c62xMaxAccelengines - 1), d.aeMask.getLsbD i = true →
      (∀ e ∈ before, e.aeMask.getLsbD i = true) ∨ dispatchEntry d.servEnaMask (c62xThrdToArbMap i) = 0 := by
  rw [initArb_eq, initArb_eq, map_inj_left]
  simp only [exists_mem_cons_iff, not_mem_nil, false_and, exists_false, or_false]
  constructor
  · intro h i hi hbit
    have hi' := h i (by simp [c62xMaxAccelengines] at hi ⊢; omega)
    by_contra! hnot
    obtain ⟨⟨e, he, hlost⟩, hne⟩ := hnot
    rw [if_pos ⟨hi, Or.inr ⟨e, he, by simpa using hlost⟩⟩, if_neg (by simp [hbit])] at hi'
    exact hne hi'.symm
  · intro h i _
    split_ifs <;> grind

/-- **An engine is lost to a device that does not have it.** -/
theorem engine_lost_to_other : (initArb [] ⟨0x3ff, none⟩).getLast? = some 0x11222AAA ∧
      (initArb [⟨0x1ff, none⟩] ⟨0x3ff, none⟩).getLast? = some 0 := by
  decide

end QuickAssist.Cfg
