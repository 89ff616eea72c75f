import QuickAssist.Cfg.Bundle
import QuickAssist.Lib.Words

/-!
# The dispatch arbiter

The arbiter of an engine has a nibble for each of its eight threads, with a bit for each ring pair whose requests the
thread may get. `adf_cfg_gen_dispatch_arbiter` makes the map from one that has the services each thread is able to do.
It goes over the mask on its own, and counts the bits by hand over all threads: two for a `CRYPTO` service, one for
any other. A part of the loops only puts some bits after those that are there, wherever it starts (`Appends`).
-/

namespace QuickAssist.Cfg

open List BitVec

/-! ## The loops -/

def numThreadsPerAe : ℕ := 8

def thrdAbilityBitLen : ℕ := 4

def thrdAbilityMask : U32 := 0xf

/-- Source: `ADF_CFG_ASYM_SRV_MASK` and the others; `ADF_CFG_UNKNOWN_SRV_MASK` is zero. -/
def AccelServ.srvMask : AccelServ → U32
  | .asym => 1
  | .sym => 2
  | .dc => 8
  | .na => 0
  | .rnd => 0

def testAndSet (threadAbility serviceMask : U32) (st : U32 × ℕ) : U32 × ℕ :=
  (if threadAbility &&& serviceMask ≠ 0 then st.1 ||| 1#32 <<< st.2 else st.1, st.2 + 1)

def dispatchServ (threadAbility : U32) (st : U32 × ℕ) : ℕ × Option ServiceType → U32 × ℕ
  | (_, some .crypto) =>
    testAndSet threadAbility AccelServ.sym.srvMask (testAndSet threadAbility AccelServ.asym.srvMask st)
  | (_, some .comp) => testAndSet threadAbility AccelServ.dc.srvMask st
  | (_, some .sym) => testAndSet threadAbility AccelServ.sym.srvMask st
  | (_, some .asym) => testAndSet threadAbility AccelServ.asym.srvMask st
  | _ => testAndSet threadAbility 0 st

def dispatchThread (mask : ℕ) (threadAbility : U32) (st : U32 × ℕ) : U32 × ℕ :=
  (pairWalk mask).foldl (dispatchServ threadAbility) st

def dispatchThreads (mask : ℕ) : ℕ → U32 → U32 × ℕ → U32 × ℕ
  | 0, _, st => st
  | n + 1, abilityMap, st =>
    dispatchThreads mask n (abilityMap >>> thrdAbilityBitLen)
      (dispatchThread mask (abilityMap &&& thrdAbilityMask) st)

/-- Without a configured device, and so without a mask, the map is copied.
Source: `adf_cfg_gen_dispatch_arbiter`. -/
def genDispatchArbiter (servEnaMask : Option ℕ) (thrdToArbMap thrdToArbMapGen : ℕ → U32)
    (totalEngines : ℕ) : ℕ → U32 :=
  (List.range totalEngines).foldl (fun gen engine =>
    Function.update gen engine (servEnaMask.elim (thrdToArbMap engine) fun mask =>
      (dispatchThreads mask numThreadsPerAe (thrdToArbMap engine) (0#32, 0)).1)) thrdToArbMapGen

/-! ## Bits after bits -/

def Appends (f : U32 × ℕ → U32 × ℕ) : Prop := ∀ g b, f (g, b) = (g ||| (f (0#32, 0)).1 <<< b, b + (f (0#32, 0)).2)

lemma appends_testAndSet (a m : U32) : Appends (testAndSet a m) := by
  intro g b
  unfold testAndSet
  split <;> simp

lemma Appends.comp {f f' : U32 × ℕ → U32 × ℕ} (hf : Appends f) (hf' : Appends f') : Appends (f' ∘ f) := by
  intro g b
  have hcomp : ∀ g b, (f' ∘ f) (g, b) = (g ||| (f (0#32, 0)).1 <<< b ||| (f' (0#32, 0)).1 <<< (b + (f (0#32, 0)).2),
        b + (f (0#32, 0)).2 + (f' (0#32, 0)).2) := by
    intro g b
    rw [Function.comp_apply, hf g b, hf' _ _]
  rw [hcomp g b, hcomp 0#32 0]
  simp only [shiftLeft_or_distrib, ← shiftLeft_add, BitVec.or_assoc, zero_or,
    shiftLeft_zero, Nat.zero_add, Nat.add_assoc, Nat.add_comm b]

lemma appends_dispatchServ (a : U32) (p : ℕ × Option ServiceType) : Appends fun st => dispatchServ a st p := by
  unfold dispatchServ
  split
  · exact (appends_testAndSet a _).comp (appends_testAndSet a _)
  all_goals exact appends_testAndSet a _

lemma appends_dispatchThread (mask : ℕ) (a : U32) : Appends (dispatchThread mask a) := by
  unfold dispatchThread
  induction pairWalk mask with
  | nil =>
    intro g b
    simp
  | cons p walk ih => exact (appends_dispatchServ a p).comp ih

/-! ## The bits of a thread -/

def threadAbility (abilityMap : U32) (thread : ℕ) : U32 := abilityMap >>> (4 * thread) &&& thrdAbilityMask

lemma exists_threadAbility_eq (abilityMap : U32) (thread : ℕ) :
    ∃ a : Fin 16, threadAbility abilityMap thread = BitVec.ofNat 32 a := by
  refine ⟨⟨(abilityMap >>> (4 * thread)).toNat % 16, Nat.mod_lt _ (by decide)⟩, ?_⟩
  apply eq_of_toNat_eq
  have hmask : (thrdAbilityMask).toNat = 2 ^ 4 - 1 := by decide
  rw [threadAbility, toNat_and, hmask, Nat.and_two_pow_sub_one_eq_mod, toNat_ofNat]
  exact (Nat.mod_eq_of_lt (by omega)).symm

def threadBits (mask : ℕ) (threadAbility : U32) : U32 := (dispatchThread mask threadAbility (0#32, 0)).1

def FourBits (mask : ℕ) : Prop :=
  ∀ a : Fin 16, (dispatchThread mask (BitVec.ofNat 32 a) (0#32, 0)).2 = 4 ∧
    (threadBits mask (BitVec.ofNat 32 a)).toNat < 2 ^ 4
  deriving Decidable

lemma getLsbD_dispatchThreads {mask : ℕ} (hfour : FourBits mask) (n : ℕ) (abilityMap g : U32) (b i : ℕ)
    (hi : i < 32) :
    (dispatchThreads mask n abilityMap (g, b)).1.getLsbD i = (g.getLsbD i || (decide (b ≤ i ∧ i < b + 4 * n) &&
        (threadBits mask (threadAbility abilityMap ((i - b) / 4))).getLsbD ((i - b) % 4))) := by
  induction n generalizing abilityMap g b with
  | zero => simp [dispatchThreads]
  | succ n ih =>
    obtain ⟨a, ha⟩ := exists_threadAbility_eq abilityMap 0
    have hfirst : abilityMap &&& thrdAbilityMask = BitVec.ofNat 32 a := ha
    rw [dispatchThreads, appends_dispatchThread, ih, hfirst, (hfour a).1, getLsbD_or, getLsbD_shiftLeft, ← threadBits]
    by_cases hlow : i < b
    · have hnot' : ¬ b + 4 ≤ i := by omega
      simp [hlow, hnot']
    · by_cases hown : i < b + 4
      · -- a bit of the first thread
        have hdiv : (i - b) / 4 = 0 := by omega
        have hmod : (i - b) % 4 = i - b := by omega
        have hin : b ≤ i ∧ i < b + 4 * (n + 1) := by omega
        have hnot : ¬ b + 4 ≤ i := by omega
        simp [hi, hlow, hdiv, hmod, hin, hnot, ha]
      · have hzero : (threadBits mask (BitVec.ofNat 32 a)).getLsbD (i - b) = false :=
          Nat.testBit_lt_two_pow ((hfour a).2.trans_le (Nat.pow_le_pow_right (by decide) (by omega)))
        have hshift : threadAbility (abilityMap >>> thrdAbilityBitLen) ((i - (b + 4)) / 4) =
            threadAbility abilityMap ((i - b) / 4) := by
          have hdiv : 4 * ((i - b) / 4) = thrdAbilityBitLen + 4 * ((i - (b + 4)) / 4) := by
            unfold thrdAbilityBitLen
            omega
          rw [threadAbility, threadAbility, hdiv, shiftRight_add]
        have hmod : (i - (b + 4)) % 4 = (i - b) % 4 := by omega
        have hin : (b + 4 ≤ i ∧ i < b + 4 + 4 * n) ↔ (b ≤ i ∧ i < b + 4 * (n + 1)) := by omega
        simp [hzero, hshift, hmod, hin]

/-! ## The map -/

/-- For every mask each thread has four bits. The rings of a pair have one service, and the bit of the pair is set if
the thread is able to do it. -/
lemma threadBits_servMasks : ∀ mask ∈ servMasks, FourBits mask ∧ ∀ pair < numServices,
    ∃ serv ∈ [AccelServ.na, .asym, .sym, .dc],
      (∀ ring < numOfRings, ring % numReqRings / numRingsPerSrv = pair → ringServ mask ring = some serv) ∧
        ∀ a : Fin 16, (threadBits mask (BitVec.ofNat 32 a)).getLsbD pair =
          decide (BitVec.ofNat 32 a &&& serv.srvMask ≠ 0) := by
  decide +kernel

lemma genDispatchArbiter_apply (servEnaMask : Option ℕ) (map gen : ℕ → U32) (totalEngines e : ℕ) :
    genDispatchArbiter servEnaMask map gen totalEngines e =
      if e < totalEngines then servEnaMask.elim (map e) fun mask =>
        (dispatchThreads mask numThreadsPerAe (map e) (0#32, 0)).1
      else gen e := by
  unfold genDispatchArbiter
  induction totalEngines with
  | zero => rfl
  | succ n ih =>
    rw [range_succ, foldl_append, foldl_cons, foldl_nil, Function.update_apply, ih]
    by_cases he : e = n
    · simp [he]
    · have hlt : e < n + 1 ↔ e < n := by omega
      simp [he, hlt]

/-- **The arbiter dispatches by the services of the rings**, with any mask that the driver derives. -/
theorem dispatch_matches_rings {cfg : ServicesCfg} {mask : ℕ} (h : getServicesEnabled cfg = some mask)
    (thrdToArbMap thrdToArbMapGen : ℕ → U32) (totalEngines : ℕ) :
    (∀ engine < totalEngines, ∀ thread < numThreadsPerAe, ∀ ring < numOfRings,
      (genDispatchArbiter (some mask) thrdToArbMap thrdToArbMapGen totalEngines engine).getLsbD
          (4 * thread + ring % numReqRings / numRingsPerSrv) = true ↔
        ∃ serv, ringServ mask ring = some serv ∧ threadAbility (thrdToArbMap engine) thread &&& serv.srvMask ≠ 0) ∧
      ∀ engine, totalEngines ≤ engine →
        genDispatchArbiter (some mask) thrdToArbMap thrdToArbMapGen totalEngines engine = thrdToArbMapGen engine := by
  obtain ⟨hfour, hbits⟩ := threadBits_servMasks mask (servicesEnabled_spec h).1
  constructor
  · intro engine he thread hthread ring hring
    obtain ⟨a, ha⟩ := exists_threadAbility_eq (thrdToArbMap engine) thread
    have hpair : ring % numReqRings / numRingsPerSrv < 4 := by
      simp only [show numReqRings = 8 from rfl, show numRingsPerSrv = 2 from rfl]
      omega
    obtain ⟨serv, -, hrings, hbit⟩ := hbits _ hpair
    have hserv := hrings ring hring rfl
    generalize ring % numReqRings / numRingsPerSrv = pair at hbit hpair ⊢
    have hthread : thread < 8 := hthread
    have hdiv : (4 * thread + pair - 0) / 4 = thread := by omega
    have hmod : (4 * thread + pair - 0) % 4 = pair := by omega
    have hin : 4 * thread + pair < 4 * numThreadsPerAe := by
      omega
    rw [genDispatchArbiter_apply, if_pos he, Option.elim_some, getLsbD_dispatchThreads hfour _ _ _ _ _ (by omega),
      hdiv, hmod, ha, hbit]
    simp [hin, hserv]
  · intro engine he
    rw [genDispatchArbiter_apply, if_neg (by omega)]

/-- Crypto and compression on sixteen banks: the first thread of an engine gets the requests of the last pair. -/
theorem cy_dc_dispatched :
    let cfg : ServicesCfg := ⟨[['c', 'y'], ['d', 'c']], true, true, true, false, 16, some 0, some (32, 32)⟩
    getServicesEnabled cfg = some 0o2011 ∧
      (genDispatchArbiter (some 0o2011) (fun _ => 0x12222AAA) (fun _ => 0) 2 1).getLsbD 3 = true := by
  intro cfg
  have hmask : getServicesEnabled cfg = some 0o2011 := by decide
  have hdispatch := dispatch_matches_rings hmask (fun _ => 0x12222AAA) (fun _ => 0) 2
  refine ⟨hmask, ?_⟩
  exact (hdispatch.1 1 (by decide) 0 (by decide) 6 (by decide)).mpr ⟨.dc, by decide +kernel, by decide⟩

end QuickAssist.Cfg
