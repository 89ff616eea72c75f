import QuickAssist.Cfg.Bundle
import Mathlib.Data.List.Nodup
import Mathlib.Data.List.Perm.Basic

/-!
# Giving out ring pairs

For each instance of the configuration `adf_cfg_get_ring_pairs` looks for a bundle that the instance may use and for
an unused instance of its service there, and copies the ring numbers. Bundles are shared by processes that poll; one
that raises interrupts belongs to one process and to the cores of the first instance that took it.

The argument for `ringPairs_partition` is one of conservation. A ring belongs to an instance that was given out or to
one that is still in the table, since marking the instance as used takes its rings out of the table at the moment they
are copied.
-/

namespace QuickAssist.Cfg

open Function List

variable {w : ℕ}

/-! ## The device -/

/-- `enum adf_cfg_bundle_type` -/
inductive BundleType
  | free
  | kernel
  | user
  deriving DecidableEq

/-- `struct adf_cfg_bundle`, for a machine with `w` cores, without the rings, which are only used to
make the instances -/
structure Bundle (w : ℕ) where
  sections : ℕ → List Char
  maxSection : ℕ
  sectionIndex : ℕ
  number : ℕ
  type : BundleType
  affinityMask : BitVec w
  pollingMode : ℤ

/-- `struct adf_cfg_device` -/
structure Device (w : ℕ) where
  bundleNum : ℕ
  bundles : ℕ → Bundle w
  instances : List Instance
  maxKernelBundleNr : ℤ
  servEnaMask : ℕ

def bundleInit (w maxInst bankNum : ℕ) : Bundle w where
  sections := fun _ => []
  maxSection := maxInst
  sectionIndex := 0
  number := bankNum
  type := .free
  affinityMask := BitVec.allOnes w
  pollingMode := -1

/-- `tx_rx_gap`, which is the offset of the response rings for every device -/
def txRxGap : ℕ := 8

def deviceInit (w : ℕ) (cfg : ServicesCfg) : Option (Device w) :=
  (getServicesEnabled cfg).map fun mask =>
    { bundleNum := cfg.numBanks
      bundles := bundleInit w txRxGap
      instances := (range cfg.numBanks).flatMap (initAndInsertInst mask)
      maxKernelBundleNr := -1
      servEnaMask := mask }

/-- An instance of the configuration that asks for rings, and the process section it is in.
`USED` marks the instances of the table; nothing of that type asks for rings. -/
structure Request (w : ℕ) where
  inst : Instance
  pollingMode : ℤ
  affinityMask : BitVec w
  processName : List Char
  not_used : inst.stype ≠ .used

/-! ## Giving out ring pairs -/

def respPoll : ℤ := 1

def respEpoll : ℤ := 2

def maxStrLen : ℕ := 128

/-- A section is `ADF_KERNEL_SEC` or `ADF_KERNEL_SAL_SEC`. -/
def isKernelSec (name : List Char) : Bool :=
  name = ['K', 'E', 'R', 'N', 'E', 'L'] || name = ['K', 'E', 'R', 'N', 'E', 'L', '_', 'Q', 'A', 'T']

def isInterruptMode (b : Bundle w) : Bool :=
  b.pollingMode = respEpoll || (b.type = .kernel && b.pollingMode ≠ respPoll)

def isFree (b : Bundle w) : Bool := b.type = .free

def canBeShared (b : Bundle w) (processName : List Char) (pollingMode : ℤ) : Bool :=
  if isFree b then true
  else if b.pollingMode ≠ pollingMode then false
  else !isInterruptMode b || processName = b.sections 0

/-- The loop of `adf_cfg_get_free_instance`. The instances of a bundle come one after another, so
it stops at the first one of the next bundle. -/
def findInstance (number : ℕ) (stype : ServiceType) : List Instance → ℕ → Option (ℕ × Instance)
  | [], _ => none
  | inst :: rest, i =>
    if number = inst.bundle ∧ stype = inst.stype then some (i, inst)
    else if number + 1 = inst.bundle then none
    else findInstance number stype rest (i + 1)

def getFreeInstance (d : Device w) (b : Bundle w) (r : Request w) : Option (ℕ × Instance) :=
  if canBeShared b r.processName r.pollingMode then
    findInstance b.number r.inst.stype d.instances 0
  else none

/-- The ring numbers of the service of an instance are copied, and the number of its bundle.
Source: the `switch` of `adf_cfg_get_ring_pairs_from_bundle` and what follows it. -/
def copyRings (inst bundleInst : Instance) (number : ℕ) : Instance :=
  match inst.stype with
  | .crypto =>
    { inst with
      asymTx := bundleInst.asymTx
      asymRx := bundleInst.asymRx
      symTx := bundleInst.symTx
      symRx := bundleInst.symRx
      bundle := number }
  | .comp => { inst with dcTx := bundleInst.dcTx, dcRx := bundleInst.dcRx, bundle := number }
  | .asym => { inst with asymTx := bundleInst.asymTx, asymRx := bundleInst.asymRx, bundle := number }
  | .sym => { inst with symTx := bundleInst.symTx, symRx := bundleInst.symRx, bundle := number }
  | .na => { inst with bundle := number }
  | .used => { inst with bundle := number }

def claimBundle (b : Bundle w) (r : Request w) : Bundle w :=
  if isFree b then
    let b := { b with pollingMode := r.pollingMode, type := if isKernelSec r.processName then .kernel else .user }
    if isInterruptMode b then { b with affinityMask := r.affinityMask } else b
  else b

/-- The bundle afterwards and the instance with its rings, or `none` for an error. The instance of
the table is marked by the caller. -/
def getRingPairsFromBundle (b : Bundle w) (r : Request w) (bundleInst : Instance) : Option (Bundle w × Instance) :=
  if r.pollingMode = respPoll ∧ isInterruptMode b then none
  else if r.inst.stype ≠ bundleInst.stype then none
  else if !isKernelSec r.processName && r.pollingMode ≠ respEpoll && r.pollingMode ≠ respPoll then
    none
  else
    let b := { b with
      sections := update b.sections b.sectionIndex (r.processName.take (maxStrLen - 1))
      sectionIndex := b.sectionIndex + 1 }
    some (claimBundle b r, copyRings r.inst bundleInst b.number)

def takeFrom (d : Device w) (r : Request w) (i : ℕ) (found : ℕ × Instance) : Device w × Option Instance :=
  match getRingPairsFromBundle (d.bundles i) r found.2 with
  | none => (d, none)
  | some (b, inst) =>
    ({ d with bundles := update d.bundles i b, instances := d.instances.set found.1 { found.2 with stype := .used } },
      some inst)

/-- The first loop of `adf_cfg_get_ring_pairs`, for processes that poll. -/
def searchPoll (d : Device w) (r : Request w) : List ℕ → Option (ℕ × ℕ × Instance)
  | [] => none
  | i :: is =>
    match getFreeInstance d (d.bundles i) r with
    | some found => some (i, found)
    | none => searchPoll d r is

/-- The second loop of `adf_cfg_get_ring_pairs`: an instance in a bundle of the same type and cores,
or else the first free bundle. -/
def searchType (d : Device w) (r : Request w) (type : BundleType) :
    List ℕ → Option ℕ → Option (ℕ × ℕ × Instance) × Option ℕ
  | [], firstFree => (none, firstFree)
  | i :: is, firstFree =>
    if type = (d.bundles i).type ∧ r.affinityMask &&& ~~~ (d.bundles i).affinityMask = 0 then
      match getFreeInstance d (d.bundles i) r with
      | some found => (some (i, found), firstFree)
      | none => searchType d r type is firstFree
    else if firstFree.isNone && isFree (d.bundles i) then searchType d r type is (some i)
    else searchType d r type is firstFree

/-- Source: `adf_cfg_get_ring_pairs`. The result has the device afterwards and the instance with its
rings, if it got any. -/
def getRingPairs (d : Device w) (r : Request w) : Device w × Option Instance :=
  if !isKernelSec r.processName && r.pollingMode = respPoll then
    let firstUserBundle := (d.maxKernelBundleNr + 1).toNat
    match searchPoll d r (range' firstUserBundle (d.bundleNum - firstUserBundle)) with
    | some (i, found) => takeFrom d r i found
    | none => (d, none)
  else
    let type := if isKernelSec r.processName then BundleType.kernel else BundleType.user
    match searchType d r type (range d.bundleNum) none with
    | (some (i, found), _) => takeFrom d r i found
    | (none, none) => (d, none)
    | (none, some i) =>
      match getFreeInstance d (d.bundles i) r with
      | none => (d, none)
      | some found =>
        let (d', res) := takeFrom d r i found
        -- also when an error was returned
        if type = .kernel then ({ d' with maxKernelBundleNr := (d'.bundles i).number }, res)
        else (d', res)

structure CfgState (w : ℕ) where
  device : Device w
  granted : List Instance

def requestStep (s : CfgState w) (r : Request w) : CfgState w :=
  let (d, res) := getRingPairs s.device r
  ⟨d, res.toList ++ s.granted⟩

/-! ## What a request does -/

variable {inst x : Instance} {d : Device w} {r : Request w} {i mask : ℕ} {found : ℕ × Instance} {s : CfgState w}
  {known : ServiceType → RingPair → Prop}
  {is : List ℕ}

lemma findInstance_spec {number : ℕ} {stype : ServiceType} {insts : List Instance} {k j : ℕ}
    (h : findInstance number stype insts k = some (j, inst)) :
    k ≤ j ∧ insts[j - k]? = some inst ∧ inst.bundle = number ∧ inst.stype = stype := by
  induction insts generalizing k with
  | nil => cases h
  | cons x xs ih =>
    unfold findInstance at h
    split_ifs at h with hmatch hnext
    · cases h
      refine ⟨le_rfl, ?_, hmatch.1.symm, hmatch.2.symm⟩
      rw [Nat.sub_self]
      rfl
    · obtain ⟨hle, hget, hbundle, hstype⟩ := ih h
      refine ⟨by omega, ?_, hbundle, hstype⟩
      rw [show j - k = j - (k + 1) + 1 by omega]
      exact hget

/-- Instance `found.2` of the table, at index `found.1`, may be used by a request and belongs to
bundle `i`. -/
structure Found (d : Device w) (r : Request w) (i : ℕ) (found : ℕ × Instance) : Prop where
  mem : d.instances[found.1]? = some found.2
  bundle : found.2.bundle = (d.bundles i).number
  stype : found.2.stype = r.inst.stype

lemma getFreeInstance_found (h : getFreeInstance d (d.bundles i) r = some found) : Found d r i found := by
  obtain ⟨-, h⟩ := Option.ite_none_right_eq_some.mp h
  obtain ⟨-, hget, hbundle, hstype⟩ := findInstance_spec h
  exact ⟨hget, hbundle, hstype⟩

lemma searchPoll_eq_some (h : searchPoll d r is = some (i, found)) :
    i ∈ is ∧ getFreeInstance d (d.bundles i) r = some found := by
  induction is with
  | nil => cases h
  | cons k ks ih =>
    unfold searchPoll at h
    split at h
    next found' hfree =>
      cases h
      exact ⟨mem_cons_self, hfree⟩
    next =>
      obtain ⟨hmem, hfree⟩ := ih h
      exact ⟨mem_cons_of_mem k hmem, hfree⟩

lemma searchType_eq_some {type : BundleType} {firstFree firstFree' : Option ℕ}
    (h : searchType d r type is firstFree = (some (i, found), firstFree')) :
    type = (d.bundles i).type ∧ getFreeInstance d (d.bundles i) r = some found := by
  induction is generalizing firstFree with
  | nil => cases h
  | cons k ks ih =>
    unfold searchType at h
    split_ifs at h with hsame hfree
    · split at h
      next found' hfound =>
        cases h
        exact ⟨hsame.1, hfound⟩
      next => exact ih h
    · exact ih h
    · exact ih h

inductive Requested (d d' : Device w) (r : Request w) : Option Instance → Prop
  | refused (hinstances : d'.instances = d.instances) (hbundles : d'.bundles = d.bundles)
      (hmask : d'.servEnaMask = d.servEnaMask) : Requested d d' r none
  /-- Rings are given out: the instance of the table is marked, the bundle counts one section
  more. -/
  | granted {i : ℕ} {found : ℕ × Instance} {b : Bundle w} {inst : Instance}
      (hfound : Found d r i found)
      (hinstances : d'.instances = d.instances.set found.1 { found.2 with stype := .used })
      (hbundles : d'.bundles = update d.bundles i b)
      (hmask : d'.servEnaMask = d.servEnaMask)
      (hnumber : b.number = (d.bundles i).number)
      (hmax : b.maxSection = (d.bundles i).maxSection)
      (hindex : b.sectionIndex = (d.bundles i).sectionIndex + 1)
      (hinst : inst = copyRings r.inst found.2 (d.bundles i).number) :
      Requested d d' r (some inst)

lemma claimBundle_spec (b : Bundle w) (r : Request w) :
    (claimBundle b r).number = b.number ∧ (claimBundle b r).maxSection = b.maxSection ∧
      (claimBundle b r).sectionIndex = b.sectionIndex ∧ (claimBundle b r).sections = b.sections := by
  unfold claimBundle
  dsimp only
  split_ifs
  all_goals exact ⟨rfl, rfl, rfl, rfl⟩

lemma takeFrom_requested
    (hfound : Found d r i found) : Requested d (takeFrom d r i found).1 r (takeFrom d r i found).2 := by
  unfold takeFrom
  split
  next => exact .refused rfl rfl rfl
  next b inst htake =>
    unfold getRingPairsFromBundle at htake
    split_ifs at htake
    cases htake
    have hclaim := fun b => claimBundle_spec b r
    exact .granted hfound rfl rfl rfl (hclaim _).1 (hclaim _).2.1 (hclaim _).2.2.1 rfl

lemma Requested.setMaxKernelBundleNr {d d' : Device w} {res : Option Instance}
    (h : Requested d d' r res) (n : ℤ) : Requested d { d' with maxKernelBundleNr := n } r res := by
  cases h with
  | refused hinstances hbundles hmask => exact .refused hinstances hbundles hmask
  | granted hfound hinstances hbundles hmask hnumber hmax hindex hinst =>
    exact .granted hfound hinstances hbundles hmask hnumber hmax hindex hinst

lemma getRingPairs_requested (d : Device w) (r : Request w) :
    Requested d (getRingPairs d r).1 r (getRingPairs d r).2 := by
  have hsame : Requested d d r none := .refused rfl rfl rfl
  unfold getRingPairs
  dsimp only
  split
  · split
    next i found hsearch => exact takeFrom_requested (getFreeInstance_found (searchPoll_eq_some hsearch).2)
    next => exact hsame
  · split
    next i found firstFree hsearch => exact takeFrom_requested (getFreeInstance_found (searchType_eq_some hsearch).2)
    next => exact hsame
    next i hsearch =>
      split
      next => exact hsame
      next found hfree =>
        have htake := takeFrom_requested (getFreeInstance_found hfree)
        split
        · exact htake.setMaxKernelBundleNr _
        · exact htake

/-! ## The invariant -/

def Instance.rings (inst : Instance) : List (ℕ × ℕ) := inst.ringNumbers.map fun n => (inst.bundle, n)

def unused (insts : List Instance) (i : ℕ) : ℕ := insts.countP fun inst => inst.bundle = i && inst.stype ≠ .used

structure RingPartition (s : CfgState w) : Prop where
  nodup : (s.granted.flatMap Instance.rings).Nodup
  assigned : ∀ inst ∈ s.granted, ∀ p ∈ inst.ringPairs, p.Assigned s.device.servEnaMask
  sections : ∀ i, (s.device.bundles i).sectionIndex ≤ (s.device.bundles i).maxSection

/-- Every ring pair that was given out has the bits of the instance's service in the mask. -/
def CfgState.Served (s : CfgState w) : Prop :=
  ∀ inst ∈ s.granted, ∀ p ∈ inst.ringPairs, p.Served s.device.servEnaMask inst.stype
  deriving Decidable

/-- What is kept: the mask, and of every instance whatever is known of its ring pairs. -/
structure PairsInv (mask : ℕ) (known : ServiceType → RingPair → Prop) (s : CfgState w) : Prop where
  mask : s.device.servEnaMask = mask
  number : ∀ i, (s.device.bundles i).number = i
  nodup : ((s.granted ++ s.device.instances).flatMap Instance.rings).Nodup
  known : ∀ inst ∈ s.granted ++ s.device.instances, ∀ p ∈ inst.ringPairs, known inst.stype p
  sections : ∀ i, (s.device.bundles i).sectionIndex + unused s.device.instances i ≤ (s.device.bundles i).maxSection

lemma exists_split_of_getElem? {α : Type*} {xs : List α} {j : ℕ} {x : α}
    (h : xs[j]? = some x) : ∃ l₁ l₂, xs = l₁ ++ x :: l₂ ∧ ∀ y, xs.set j y = l₁ ++ y :: l₂ := by
  obtain ⟨hlt, hget⟩ := List.getElem?_eq_some_iff.mp h
  refine ⟨xs.take j, xs.drop (j + 1), ?_, ?_⟩
  · rw [← hget, getElem_cons_drop, take_append_drop]
  · intro y
    exact set_eq_take_append_cons_drop.trans (if_pos hlt)

lemma ringPairs_copyRings {inst bundleInst : Instance} (h : bundleInst.stype = inst.stype)
    (number : ℕ) : (copyRings inst bundleInst number).ringPairs = bundleInst.ringPairs := by
  unfold copyRings
  split <;> (rename_i hstype; simp only [Instance.ringPairs, hstype, h])

lemma copyRings_spec (inst bundleInst : Instance) (number : ℕ) :
    (copyRings inst bundleInst number).stype = inst.stype ∧ (copyRings inst bundleInst number).bundle = number := by
  unfold copyRings
  split <;> exact ⟨rfl, rfl⟩

structure Taken (x inst : Instance) : Prop where
  ringPairs : inst.ringPairs = x.ringPairs
  bundle : inst.bundle = x.bundle
  stype : inst.stype = x.stype

lemma Found.taken (h : Found d r i found) : Taken found.2 (copyRings r.inst found.2 (d.bundles i).number) := by
  obtain ⟨hstype, hbundle⟩ := copyRings_spec r.inst found.2 (d.bundles i).number
  refine ⟨ringPairs_copyRings h.stype _, ?_, ?_⟩
  · rw [hbundle, h.bundle]
  · rw [hstype, h.stype]

lemma Taken.rings_perm (h : Taken x inst) (granted l₁ l₂ : List Instance) :
    ((granted ++ (l₁ ++ x :: l₂)).flatMap Instance.rings).Perm
      ((inst :: granted ++ (l₁ ++ { x with stype := .used } :: l₂)).flatMap Instance.rings) := by
  have hinst : inst.rings = x.rings := by
    simp only [Instance.rings, Instance.ringNumbers, h.ringPairs, h.bundle]
  have hused : { x with stype := .used }.rings = [] := rfl
  have hx : (granted ++ (l₁ ++ x :: l₂)).Perm (x :: (granted ++ (l₁ ++ l₂))) := by
    rw [← append_assoc, ← append_assoc]
    exact perm_middle
  have hmoved : (inst :: granted ++ (l₁ ++ { x with stype := .used } :: l₂)).flatMap Instance.rings =
      (x :: (granted ++ (l₁ ++ l₂))).flatMap Instance.rings := by
    simp [hinst, hused]
  rw [hmoved]
  exact hx.flatMap_right _

lemma Taken.keeps (h : Taken x inst) {granted l₁ l₂ : List Instance}
    (hold : ∀ y ∈ granted ++ (l₁ ++ x :: l₂), ∀ p ∈ y.ringPairs, known y.stype p) :
    ∀ y ∈ inst :: granted ++ (l₁ ++ { x with stype := .used } :: l₂), ∀ p ∈ y.ringPairs, known y.stype p := by
  intro y hy p hp
  simp only [cons_append, mem_cons, mem_append] at hy hold
  rcases hy with rfl | hy | hy | rfl | hy
  · rw [h.ringPairs] at hp
    rw [h.stype]
    exact hold x (Or.inr (Or.inr (Or.inl rfl))) p hp
  · exact hold y (Or.inl hy) p hp
  · exact hold y (Or.inr (Or.inl hy)) p hp
  · cases hp
  · exact hold y (Or.inr (Or.inr (Or.inr hy))) p hp

lemma unused_mark (hx : x.stype ≠ .used) (l₁ l₂ : List Instance) (i : ℕ) :
    unused (l₁ ++ { x with stype := .used } :: l₂) i + (if x.bundle = i then 1 else 0) =
      unused (l₁ ++ x :: l₂) i := by
  simp only [unused, countP_append, countP_cons]
  by_cases hi : x.bundle = i
  · simp [hi, hx]
    omega
  · simp [hi]

/-- **The step lemma.** -/
theorem requestStep_inv (h : PairsInv mask known s) (r : Request w) : PairsInv mask known (requestStep s r) := by
  have hreq := getRingPairs_requested s.device r
  unfold requestStep
  generalize getRingPairs s.device r = out at hreq
  obtain ⟨d, res⟩ := out
  cases hreq with
  | refused hinstances hbundles hmask =>
    refine ⟨?_, ?_, ?_, ?_, ?_⟩ <;> dsimp only at hinstances hbundles hmask ⊢
    · exact hmask.trans h.mask
    · rw [hbundles]
      exact h.number
    · rw [hinstances]
      exact h.nodup
    · rw [hinstances]
      exact h.known
    · rw [hinstances, hbundles]
      exact h.sections
  | @granted i found b inst hfound hinstances hbundles hmask hnumber hmax hindex hinst =>
    subst hinst
    obtain ⟨l₁, l₂, hsplit, hset⟩ := exists_split_of_getElem? hfound.mem
    obtain ⟨hsame, hnum, hnodup, hknown, hsections⟩ := h
    rw [hset] at hinstances
    rw [hsplit] at hnodup hknown
    refine ⟨hmask.trans hsame, ?_, ?_, ?_, ?_⟩ <;> dsimp only at hinstances hbundles hmask ⊢
    · rw [hbundles]
      exact (forall_update_iff s.device.bundles fun k b => b.number = k).mpr ⟨hnumber.trans (hnum i), fun k _ => hnum k⟩
    · rw [hinstances]
      exact (hfound.taken.rings_perm _ l₁ l₂).nodup_iff.mp hnodup
    · rw [hinstances]
      exact hfound.taken.keeps hknown
    · intro k
      have hle := hsections k
      have hmark := unused_mark (hfound.stype ▸ r.not_used) l₁ l₂ k
      have hbundle : found.2.bundle = i := hfound.bundle.trans (hnum i)
      rw [← hsplit] at hmark
      rw [hinstances, hbundles]
      by_cases hk : k = i
      · -- one section more, one unused instance less
        subst hk
        rw [if_pos hbundle] at hmark
        rw [update_self, hmax, hindex]
        omega
      · rw [update_of_ne hk]
        omega

/-! ## The device as it is set up -/

lemma rings_initAndInsertInst (mask bankNum : ℕ) : (initAndInsertInst mask bankNum).flatMap Instance.rings =
      ((servTable mask).flatMap Instance.ringNumbers).map fun n => (bankNum, n) := by
  rw [map_flatMap, initAndInsertInst, flatMap_map]
  rfl

lemma nodup_rings_init (h : TableOk mask) (n : ℕ) :
    (((range n).flatMap (initAndInsertInst mask)).flatMap Instance.rings).Nodup := by
  rw [flatMap_assoc, nodup_flatMap]
  refine ⟨?_, ?_⟩
  · intro b _
    rw [rings_initAndInsertInst]
    exact h.nodup.map fun _ _ heq => (Prod.mk.inj heq).2
  · refine nodup_range.imp ?_
    intro b b' hne x hx hx'
    simp only [rings_initAndInsertInst, mem_map] at hx hx'
    obtain ⟨n, -, rfl⟩ := hx
    obtain ⟨n', -, heq⟩ := hx'
    exact hne (Prod.mk.inj heq).1.symm

lemma unused_init_le (h : TableOk mask) (n i : ℕ) :
    unused ((range n).flatMap (initAndInsertInst mask)) i ≤ numReqRings := by
  have hbank : ∀ b, unused (initAndInsertInst mask b) i ≤ if b = i then numReqRings else 0 := by
    intro b
    by_cases hb : b = i
    · rw [if_pos hb]
      refine Nat.le_trans countP_le_length ?_
      rw [initAndInsertInst, length_map]
      exact h.length_le
    · rw [if_neg hb, Nat.le_zero, unused, countP_eq_zero]
      intro inst hinst
      obtain ⟨x, -, rfl⟩ := mem_map.mp hinst
      simp [hb]
  have hle : unused ((range n).flatMap (initAndInsertInst mask)) i ≤ if i < n then numReqRings else 0 := by
    induction n with
    | zero => exact Nat.zero_le _
    | succ n ih =>
      have hn := hbank n
      rw [range_succ, flatMap_append, flatMap_singleton, unused, countP_append]
      unfold unused at ih hn
      split_ifs at ih hn ⊢ <;> omega
  split_ifs at hle <;> omega

lemma deviceInit_inv (h : TableOk mask)
    (hknown : ∀ inst ∈ servTable mask, ∀ p ∈ inst.ringPairs, known inst.stype p) (n : ℕ) :
    PairsInv mask known ⟨⟨n, bundleInit w txRxGap, (range n).flatMap (initAndInsertInst mask), -1, mask⟩, []⟩ := by
  refine ⟨rfl, fun _ => rfl, nodup_rings_init h n, ?_, ?_⟩
  · intro inst hinst p hp
    obtain ⟨b, -, hinst⟩ := mem_flatMap.mp hinst
    obtain ⟨x, hx, rfl⟩ := mem_map.mp hinst
    exact hknown x hx p hp
  · intro i
    exact Nat.le_trans (Nat.le_of_eq (Nat.zero_add _)) (unused_init_le h n i)

/-- **The rings are divided among the instances**, whatever the configuration enables and whoever asks in
whatever order; and the mask has the bits of the instance's service for each ring pair, unless two columns of `cy` and
one of `dc` are requested. -/
theorem ringPairs_partition {cfg : ServicesCfg} {d : Device w} (hinit : deviceInit w cfg = some d)
    (requests : List (Request w)) : RingPartition (requests.foldl requestStep ⟨d, []⟩) ∧
      (¬ cfg.Crowded → (requests.foldl requestStep ⟨d, []⟩).Served) := by
  obtain ⟨mask, hmask, rfl⟩ := Option.map_eq_some_iff.mp hinit
  obtain ⟨hmem, hcrowded⟩ := servicesEnabled_spec hmask
  have htable := servTable_ok hmem
  have hrun : ∀ known, (∀ inst ∈ servTable mask, ∀ p ∈ inst.ringPairs, known inst.stype p) →
      PairsInv mask known (requests.foldl requestStep ⟨⟨cfg.numBanks, bundleInit w txRxGap, _, -1, mask⟩, []⟩) :=
    fun _ hknown => foldlRecOn requests requestStep (deviceInit_inv htable hknown _) fun _ hs r _ =>
      requestStep_inv hs r
  have hinv := hrun (fun _ p => p.Assigned mask) htable.assigned
  refine ⟨⟨?_, ?_, ?_⟩, ?_⟩
  · have hnodup := hinv.nodup
    rw [flatMap_append] at hnodup
    exact hnodup.of_append_left
  · rw [hinv.mask]
    exact fun inst hinst => hinv.known inst (mem_append_left _ hinst)
  · exact fun i => Nat.le_trans (Nat.le_add_right _ _) (hinv.sections i)
  · intro hnot
    have hserved := hrun (fun stype p => p.Served mask stype) (htable.served fun heq => hnot (hcrowded heq))
    unfold CfgState.Served
    rw [hserved.mask]
    exact fun inst hinst => hserved.known inst (mem_append_left _ hinst)

/-- For instance, compression and two columns of symmetric crypto. -/
theorem sym_dc_partition : ∃ (cfg : ServicesCfg) (d : Device 4) (requests : List (Request 4)),
      deviceInit 4 cfg = some d ∧ ¬ cfg.Crowded ∧ ((requests.foldl requestStep ⟨d, []⟩).granted.map Instance.rings =
        [[(1, 0), (1, 8)], [(0, 6), (0, 14)], [(0, 0), (0, 8)]]) ∧
      RingPartition (requests.foldl requestStep ⟨d, []⟩) ∧ (requests.foldl requestStep ⟨d, []⟩).Served := by
  have hinit : deviceInit 4 ⟨[['s', 'y', 'm'], ['d', 'c']], true, true, true, false, 2, some 0,
      some (8, 4)⟩ = some _ := rfl
  have hnot : ¬ ServicesCfg.Crowded ⟨[['s', 'y', 'm'], ['d', 'c']], true, true, true, false, 2, some 0,
      some (8, 4)⟩ := by
    rintro ⟨n, -, hcy, -⟩
    exact absurd hcy (by decide)
  obtain ⟨hpartition, hserved⟩ := ringPairs_partition hinit
    [⟨{ stype := .sym }, 1, 1, ['K', 'E', 'R', 'N', 'E', 'L'], by decide⟩,
      ⟨{ stype := .comp }, 1, 1, ['K', 'E', 'R', 'N', 'E', 'L'], by decide⟩,
      ⟨{ stype := .sym }, 1, 2, ['S', 'S', 'L'], by decide⟩]
  exact ⟨_, _, _, hinit, hnot, by decide +kernel, hpartition, hserved hnot⟩

/-- **Bits of two services:** of the crypto instances of a bundle the third gets ring pairs 2 and 3, and the mask has
`CRYPTO` and `COMP` for the last one, which is read as `SYM`. -/
theorem cy_dc_not_served : ∃ d : Device 4, deviceInit 4 ⟨[['c', 'y'], ['d', 'c']], true, true, true, false, 16,
      some 0, some (33, 1)⟩ = some d ∧ getSrvType d.servEnaMask 3 = some .sym ∧
    let s := (replicate 3 ⟨{ stype := .crypto }, 1, 1, ['S', 'S', 'L'], by decide⟩).foldl requestStep ⟨d, []⟩
    s.granted.head?.map Instance.rings = some [(0, 4), (0, 12), (0, 6), (0, 14)] ∧ ¬ s.Served :=
  ⟨_, rfl, by decide, by decide +kernel⟩

end QuickAssist.Cfg
