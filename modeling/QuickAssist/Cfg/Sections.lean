import QuickAssist.Cfg.RingPairs
import QuickAssist.Lib.Run

/-!
# Kernel sections and user sections

`adf_config_device` goes over the sections of a configuration. `KERNEL` and `KERNEL_QAT` are for the kernel and come
first; every other section stands for a number of processes, each with a derived section of its own. Each instance
asks for rings in turn, and the first one that gets none ends the configuration.

**Why bundles are isolated.** The kernel takes the first free bundle. So its bundles come before all free ones, and
the last one that was taken has the highest number, which is what `max_kernel_bundle_nr` is used for: processes that
poll begin to look behind it, since `adf_cfg_can_be_shared` alone would let them into a kernel bundle that is polled.
-/

namespace QuickAssist.Cfg

open Lib Function Option List Bool

variable {w : ℕ}

/-! ## The configuration -/

structure InstanceCfg where
  coreAffinity : Option (List ℕ)
  hasName : Bool
  isPolled : Option ℕ

/-- `struct adf_cfg_section`, with the values that are read from it -/
structure Section where
  name : List Char
  isDerived : Bool
  numCy : Option ℕ
  numDc : Option ℕ
  cy : ℕ → InstanceCfg
  dc : ℕ → InstanceCfg
  numProcesses : Option ℕ
  limitDevAccess : Option ℕ

structure Grant (w : ℕ) where
  kernel : Bool
  request : Request w
  inst : Instance

structure ConfigState (w : ℕ) where
  device : Device w
  grants : List (Grant w)
  derived : List (List Char)

/-! ## Processing a section -/

/-- `polling_mode`, which is an `int` -/
def toInt (value : ℕ) : ℤ := (BitVec.ofNat 32 value).toInt

/-- The core of an instance in a process. Source: `adf_cfg_set_core_number_for_instance`. -/
def coreNumber (coreNumArr : List ℕ) (processNum : ℕ) : Option ℕ := coreNumArr[processNum % coreNumArr.length]?

/-- An instance asks for rings. Source: the loops of `adf_cfg_create_rings_entries_for_cy_inst` and
`adf_cfg_create_rings_entries_for_dc_inst`. -/
def createEntry (kernel : Bool) (cfg : InstanceCfg) (derivedSec : List Char) (processNum : ℕ)
    (servType : { t : ServiceType // t ≠ .used }) (s : ConfigState w) : Option (ConfigState w) := do
  let coreNumArr ← cfg.coreAffinity
  let core ← coreNumber coreNumArr processNum
  if cfg.hasName then
    let polled ← cfg.isPolled
    let r : Request w := ⟨{ stype := servType.1 }, toInt polled, BitVec.ofNat w (2 ^ core), derivedSec, servType.2⟩
    match getRingPairs s.device r with
    | (_, none) => none
    | (device, some inst) => some { s with device := device, grants := ⟨kernel, r, inst⟩ :: s.grants }
  else none

def createRingsEntries (kernel : Bool) (numInst : Option ℕ) (cfg : ℕ → InstanceCfg)
    (derivedSec : List Char) (processNum : ℕ) (servType : { t : ServiceType // t ≠ .used })
    (s : ConfigState w) : Option (ConfigState w) :=
  numInst.bind fun n => exec (fun s i => createEntry kernel (cfg i) derivedSec processNum servType s) s (List.range n)

def createRingsEntriesForCyInst (kernel : Bool) (sec : Section) (derivedSec : List Char)
    (processNum : ℕ) (servType : { t : ServiceType // t ≠ .used }) (s : ConfigState w) :
    Option (ConfigState w) :=
  createRingsEntries kernel sec.numCy sec.cy derivedSec processNum servType s

def createRingsEntriesForDcInst (kernel : Bool) (sec : Section) (derivedSec : List Char)
    (processNum : ℕ) (s : ConfigState w) : Option (ConfigState w) :=
  createRingsEntries kernel sec.numDc sec.dc derivedSec processNum ⟨.comp, by decide⟩ s

def isSvcEnabled (d : Device w) (svc : ServiceType) : Bool :=
  (List.range numServices).any fun pair => getSrvType d.servEnaMask pair = some svc

def services : List { t : ServiceType // t ≠ .used } :=
  [⟨.crypto, by decide⟩, ⟨.comp, by decide⟩, ⟨.sym, by decide⟩, ⟨.asym, by decide⟩]

/-- The instances of the services that are enabled ask for rings. Source: the loop over the services
in `adf_cfg_process_kernel_section` and `adf_cfg_process_user_section`. -/
def createServices (kernel : Bool) (sec : Section) (derivedSec : List Char) (processNum : ℕ)
    (s : ConfigState w) : Option (ConfigState w) :=
  exec (fun s t =>
    if isSvcEnabled s.device t.1 then
      if t.1 = .comp then createRingsEntriesForDcInst kernel sec derivedSec processNum s
      else createRingsEntriesForCyInst kernel sec derivedSec processNum t s
    else some s) s services

def processKernelSection (sec : Section) (s : ConfigState w) : Option (ConfigState w) :=
  createServices true sec sec.name 0 s

/-- `ADF_LIMITED_USER_SECTION_NAME_FORMAT` and `ADF_USER_SECTION_NAME_FORMAT`, in a buffer of
`ADF_CFG_MAX_STR_LEN` characters -/
def derivedSecName (sec : Section) (dev processNum : ℕ) : List Char :=
  let dev := if sec.limitDevAccess.getD 0 ≠ 0 then ['_', 'D', 'E', 'V'] ++ Nat.toDigits 10 dev else []
  (sec.name ++ dev ++ ['_', 'I', 'N', 'T', '_'] ++ Nat.toDigits 10 processNum).take (maxStrLen - 1)

def processUserSection (dev : ℕ) (sec : Section) (s : ConfigState w) : Option (ConfigState w) :=
  exec (fun s i =>
    let name := derivedSecName sec dev i
    createServices false sec name i { s with derived := name :: s.derived })
    s (List.range (sec.numProcesses.getD 0))

def generalSec : List Char := ['G', 'E', 'N', 'E', 'R', 'A', 'L']

def kernelSec : List Char := ['K', 'E', 'R', 'N', 'E', 'L']

def kernelSalSec : List Char := ['K', 'E', 'R', 'N', 'E', 'L', '_', 'Q', 'A', 'T']

def accelSec : List Char := ['A', 'c', 'c', 'e', 'l', 'e', 'r', 'a', 't', 'o', 'r']

/-- The sections `GENERAL` and `Accelerator` have no instances. -/
def processSection (dev : ℕ) (sec : Section) (s : ConfigState w) : Option (ConfigState w) :=
  if sec.name = generalSec then some s
  else if isKernelSec sec.name then processKernelSection sec s
  else if sec.name = accelSec then some s
  else processUserSection dev sec s

/-! ## Processing the configuration -/

def processFirst (name : List Char) (dev : ℕ) (secs : List Section) (s : ConfigState w) : Option (ConfigState w) :=
  match secs.find? fun sec => sec.name = name with
  | some sec => processSection dev sec s
  | none => some s

def processOthers (dev : ℕ) (secs : List Section) (s : ConfigState w) : Option (ConfigState w) :=
  exec (fun s sec =>
    if sec.isDerived || s.derived.contains sec.name then some s else processSection dev sec s)
    s secs

/-- The bundles of a device and the instances that they serve, if the configuration is accepted. -/
def configDevice (w : ℕ) (cfg : ServicesCfg) (dev : ℕ) (secs : List Section) : Option (ConfigState w) := do
  let device ← deviceInit w cfg
  let s ← processFirst generalSec dev secs ⟨device, [], []⟩
  let s ← processFirst kernelSec dev secs s
  let s ← processFirst kernelSalSec dev secs s
  let named := fun name (sec : Section) => decide (sec.name = name)
  processOthers dev
    (((secs.eraseP (named generalSec)).eraseP (named kernelSec)).eraseP (named kernelSalSec)) s

/-! ## Which bundle a request gets -/

def Request.bundleType (r : Request w) : BundleType := if isKernelSec r.processName then .kernel else .user

lemma Request.bundleType_ne_free (r : Request w) : r.bundleType ≠ .free := by
  unfold Request.bundleType
  split_ifs
  all_goals rintro ⟨⟩

/-- Where a request may get rings: a process that polls, behind the kernel bundles; an instance of any kind, in
a bundle of its type; or in the first free bundle. -/
inductive Place (d : Device w) (r : Request w) (i : ℕ) (maxKernelBundleNr : ℤ) : Prop
  | behind (huser : r.bundleType = .user) (hlt : d.maxKernelBundleNr < i)
      (hmax : maxKernelBundleNr = d.maxKernelBundleNr)
  | same (htype : (d.bundles i).type = r.bundleType)
      (hmax : maxKernelBundleNr = d.maxKernelBundleNr)
  | first (hfree : (d.bundles i).type = .free) (hbefore : ∀ j < i, (d.bundles j).type ≠ .free)
      (hmax : maxKernelBundleNr = if r.bundleType = .kernel then ((d.bundles i).number : ℤ) else d.maxKernelBundleNr)

def usedBy (b : Bundle w) (r : Request w) : Bundle w :=
  claimBundle { b with
    sections := update b.sections b.sectionIndex (r.processName.take (maxStrLen - 1))
    sectionIndex := b.sectionIndex + 1 } r

variable {d : Device w} {inst : Instance} {i : ℕ} {b : Bundle w} {found : ℕ × Instance}

lemma searchType_firstFree {r : Request w} {type : BundleType} {is : List ℕ}
    {firstFree firstFree' : Option ℕ} (htype : type ≠ .free)
    (h : searchType d r type is firstFree = (none, firstFree')) :
    firstFree' = firstFree.or (is.find? fun i => isFree (d.bundles i)) := by
  induction is generalizing firstFree with
  | nil =>
    obtain ⟨-, rfl⟩ := Prod.mk.inj h
    rw [List.find?_nil, or_none]
  | cons k ks ih =>
    unfold searchType at h
    split_ifs at h with hsame hfree
    · -- a bundle of the type is not free
      have hnot : isFree (d.bundles k) = false := by
        rw [isFree, ← hsame.1]
        exact decide_eq_false htype
      rw [List.find?_cons, hnot]
      split at h
      · cases h
      · exact ih h
    · obtain ⟨hnone, hfree⟩ := and_eq_true_iff.mp hfree
      rw [isNone_iff_eq_none.mp hnone, List.find?_cons, hfree, ih h]
      rfl
    · rw [ih h, List.find?_cons]
      cases firstFree with
      | some i => rfl
      | none =>
        have hnot : isFree (d.bundles k) = false := by
          simpa using hfree
        rw [hnot]

lemma takeFrom_eq_some {d d' : Device w} {r : Request w} (h : takeFrom d r i found = (d', some inst)) :
    inst.bundle = (d.bundles i).number ∧ d'.bundles = update d.bundles i (usedBy (d.bundles i) r) ∧
      d'.maxKernelBundleNr = d.maxKernelBundleNr := by
  unfold takeFrom at h
  split at h
  next => cases h
  next b inst' htake =>
    cases h
    unfold getRingPairsFromBundle at htake
    split_ifs at htake
    cases htake
    refine ⟨?_, rfl, rfl⟩
    unfold copyRings
    split
    all_goals rfl

lemma canBeShared_of_getFreeInstance {r : Request w} (h : getFreeInstance d b r = some found) :
    canBeShared b r.processName r.pollingMode = true :=
  (ite_none_right_eq_some.mp h).1

/-- **What a request comes to.** If it gets rings they are of a bundle that it may share, in one of
the three places. -/
theorem getRingPairs_outcome {d d' : Device w} {r : Request w} (h : getRingPairs d r = (d', some inst)) :
    ∃ i, canBeShared (d.bundles i) r.processName r.pollingMode = true ∧ inst.bundle = (d.bundles i).number ∧
      d'.bundles = update d.bundles i (usedBy (d.bundles i) r) ∧ Place d r i d'.maxKernelBundleNr := by
  unfold getRingPairs at h
  dsimp only at h
  split at h
  next hpoll =>
    split at h
    next i found hsearch =>
      obtain ⟨hmem, hfree⟩ := searchPoll_eq_some hsearch
      obtain ⟨hinst, hbundles, hmax⟩ := takeFrom_eq_some h
      refine ⟨i, canBeShared_of_getFreeInstance hfree, hinst, hbundles, .behind ?_ ?_ hmax⟩
      · simp only [and_eq_true, not_eq_true'] at hpoll
        rw [Request.bundleType, hpoll.1]
        rfl
      · have hle := (mem_range'_1.mp hmem).1
        omega
    next => cases h
  next hpoll =>
    rw [← Request.bundleType] at h
    split at h
    next i found firstFree hsearch =>
      obtain ⟨hsame, hfree⟩ := searchType_eq_some hsearch
      obtain ⟨hinst, hbundles, hmax⟩ := takeFrom_eq_some h
      exact ⟨i, canBeShared_of_getFreeInstance hfree, hinst, hbundles, .same hsame.symm hmax⟩
    next => cases h
    next i hsearch =>
      have hfind := searchType_firstFree r.bundleType_ne_free hsearch
      rw [none_or, eq_comm, List.find?_range_eq_some] at hfind
      obtain ⟨hfree, -, hbefore⟩ := hfind
      have hbefore : ∀ j < i, (d.bundles j).type ≠ .free := by
        intro j hj
        simpa [isFree] using hbefore j hj
      split at h
      next => cases h
      next found hfound =>
        have hshared := canBeShared_of_getFreeInstance hfound
        rcases htake : takeFrom d r i found with ⟨d'', res⟩
        simp only [htake] at h
        split_ifs at h with hkernel
        all_goals
          cases h
          obtain ⟨hinst, hbundles, hmax⟩ := takeFrom_eq_some htake
          refine ⟨i, hshared, hinst, hbundles, .first (of_decide_eq_true hfree) hbefore ?_⟩
        · rw [if_pos hkernel, hbundles, update_self]
          exact congrArg _ (claimBundle_spec _ r).1
        · rw [if_neg hkernel, hmax]

/-! ## The invariant -/

lemma claimBundle_of_free {r : Request w} (hfree : isFree b = true) :
    (claimBundle b r).type = r.bundleType ∧ (claimBundle b r).pollingMode = r.pollingMode := by
  unfold claimBundle
  rw [← Request.bundleType]
  dsimp only
  split_ifs
  all_goals exact ⟨rfl, rfl⟩

lemma usedBy_of_free {r : Request w} (hfree : b.type = .free)
    (hindex : b.sectionIndex = 0) (hname : r.processName.length < maxStrLen) :
    (usedBy b r).type = r.bundleType ∧ (usedBy b r).pollingMode = r.pollingMode ∧
      (usedBy b r).sections 0 = r.processName := by
  obtain ⟨htype, hpolling⟩ : (usedBy b r).type = _ ∧ _ := claimBundle_of_free (decide_eq_true hfree)
  refine ⟨htype, hpolling, ?_⟩
  rw [usedBy, (claimBundle_spec _ r).2.2.2]
  rw [hindex]
  exact take_of_length_le (Nat.le_pred_of_lt hname)

lemma usedBy_of_not_free {r : Request w} (hfree : b.type ≠ .free) (hindex : 0 < b.sectionIndex) :
    (usedBy b r).type = b.type ∧ (usedBy b r).pollingMode = b.pollingMode ∧
      (usedBy b r).sections 0 = b.sections 0 := by
  have hclaim : usedBy b r = { b with
      sections := update b.sections b.sectionIndex (r.processName.take (maxStrLen - 1))
      sectionIndex := b.sectionIndex + 1 } :=
    if_neg fun h => hfree (of_decide_eq_true h)
  rw [hclaim]
  exact ⟨rfl, rfl, update_of_ne hindex.ne _ _⟩

structure Serves (b : Bundle w) (g : Grant w) : Prop where
  type : b.type = g.request.bundleType
  polling : b.pollingMode = g.request.pollingMode
  section_eq : isInterruptMode b = true → g.request.processName = b.sections 0
  /-- The section is a kernel section exactly for an instance of the kernel. -/
  kernel : isKernelSec g.request.processName = g.kernel

/-- What the bundles and the instances that they serve have in common while a configuration is
processed. -/
structure SectionsInv (s : ConfigState w) : Prop where
  number : ∀ i, (s.device.bundles i).number = i
  unused_iff : ∀ i, (s.device.bundles i).type = .free ↔ (s.device.bundles i).sectionIndex = 0
  last : ∀ i, (s.device.bundles i).type = .kernel → (i : ℤ) ≤ s.device.maxKernelBundleNr
  front : ∀ i j, (s.device.bundles i).type = .kernel → j < i → (s.device.bundles j).type ≠ .free
  serves : ∀ g ∈ s.grants, Serves (s.device.bundles g.inst.bundle) g

section

variable {s : ConfigState w} {r : Request w} {g : Grant w} {kernel : Bool}

lemma canBeShared_of_not_free {name : List Char} {mode : ℤ} (hfree : b.type ≠ .free)
    (h : canBeShared b name mode = true) :
    b.pollingMode = mode ∧ (isInterruptMode b = true → name = b.sections 0) := by
  unfold canBeShared at h
  split_ifs at h with hf hmode
  · exact absurd (of_decide_eq_true hf) hfree
  · refine ⟨not_not.mp hmode, ?_⟩
    intro hint
    simpa [hint] using h

lemma isInterruptMode_congr {b b' : Bundle w} (htype : b.type = b'.type)
    (hmode : b.pollingMode = b'.pollingMode) : isInterruptMode b = isInterruptMode b' := by
  unfold isInterruptMode
  rw [htype, hmode]

lemma Serves.usedBy (h : Serves b g) (hindex : 0 < b.sectionIndex) : Serves (usedBy b r) g := by
  have hfree : b.type ≠ .free := h.type ▸ g.request.bundleType_ne_free
  obtain ⟨htype, hmode, hsections⟩ := usedBy_of_not_free (r := r) hfree hindex
  refine ⟨htype.trans h.type, hmode.trans h.polling, ?_, h.kernel⟩
  rw [isInterruptMode_congr htype hmode, hsections]
  exact h.section_eq

lemma SectionsInv.serves_usedBy (hinv : SectionsInv s) {max : ℤ}
    (hshared : canBeShared (s.device.bundles i) r.processName r.pollingMode = true)
    (hplace : Place s.device r i max) (hname : r.processName.length < maxStrLen)
    (hkernel : isKernelSec r.processName = kernel) : Serves (usedBy (s.device.bundles i) r) ⟨kernel, r, inst⟩ := by
  by_cases hfree : (s.device.bundles i).type = .free
  · obtain ⟨htype, hmode, hsections⟩ := usedBy_of_free hfree ((hinv.unused_iff i).mp hfree) hname
    exact ⟨htype, hmode, fun _ => hsections.symm, hkernel⟩
  · have hindex : 0 < (s.device.bundles i).sectionIndex :=
      Nat.pos_of_ne_zero fun h => hfree ((hinv.unused_iff i).mpr h)
    obtain ⟨hpolling, hsection⟩ := canBeShared_of_not_free hfree hshared
    have hserves : Serves (s.device.bundles i) ⟨kernel, r, inst⟩ := by
      refine ⟨?_, hpolling, hsection, hkernel⟩
      cases hplace with
      | behind huser hlt hmax =>
        -- behind the last kernel bundle there is none
        have hnot : (s.device.bundles i).type ≠ .kernel := by
          intro htype
          have hlast := hinv.last i htype
          omega
        rw [huser]
        cases htype : (s.device.bundles i).type with
        | free => exact absurd htype hfree
        | kernel => exact absurd htype hnot
        | user => rfl
      | same htype hmax => exact htype
      | first hfirst hbefore hmax => exact absurd hfirst hfree
    exact hserves.usedBy hindex

section

variable (hinv : SectionsInv s) (hplace : Place s.device r i d.maxKernelBundleNr)
  (htype : (d.bundles i).type = r.bundleType) (hother : ∀ j, j ≠ i → d.bundles j = s.device.bundles j)

include hinv hplace htype hother

lemma SectionsInv.last_grant (j : ℕ) (hj : (d.bundles j).type = .kernel) : (j : ℤ) ≤ d.maxKernelBundleNr := by
  by_cases hji : j = i
  · subst hji
    rw [htype] at hj
    cases hplace with
    | behind huser hlt hmax => exact absurd (huser.symm.trans hj) BundleType.noConfusion
    | same hsame hmax =>
      rw [hmax]
      exact hinv.last j (hsame.trans hj)
    | first hfree hbefore hmax =>
      rw [hmax, if_pos hj]
      exact Int.ofNat_le.mpr (Nat.le_of_eq (hinv.number j).symm)
  · rw [hother j hji] at hj
    have hlast := hinv.last j hj
    cases hplace with
    | behind huser hlt hmax | same hsame hmax => rwa [hmax]
    | first hfree hbefore hmax =>
      rw [hmax, hinv.number i]
      split_ifs with hkernel
      · -- a kernel bundle behind the first free one would have it before it
        have hnot : ¬ i < j := fun hlt => hinv.front j i hj hlt hfree
        omega
      · exact hlast

lemma SectionsInv.front_grant (j k : ℕ)
    (hj : (d.bundles j).type = .kernel) (hk : k < j) : (d.bundles k).type ≠ .free := by
  by_cases hki : k = i
  · rw [hki, htype]
    exact r.bundleType_ne_free
  rw [hother k hki]
  by_cases hji : j = i
  · subst hji
    rw [htype] at hj
    cases hplace with
    | behind huser hlt hmax => exact absurd (huser.symm.trans hj) BundleType.noConfusion
    | same hsame hmax => exact hinv.front j k (hsame.trans hj) hk
    | first hfree hbefore hmax => exact hbefore k hk
  · rw [hother j hji] at hj
    exact hinv.front j k hj hk

end

lemma SectionsInv.grant (hinv : SectionsInv s)
    (h : getRingPairs s.device r = (d, some inst)) (hname : r.processName.length < maxStrLen)
    (hkernel : isKernelSec r.processName = kernel) :
    SectionsInv { s with device := d, grants := ⟨kernel, r, inst⟩ :: s.grants } := by
  obtain ⟨i, hshared, hinst, hbundles, hplace⟩ := getRingPairs_outcome h
  have hserves : Serves (usedBy (s.device.bundles i) r) ⟨kernel, r, inst⟩ :=
    hinv.serves_usedBy hshared hplace hname hkernel
  rw [hinv.number i] at hinst
  have hself : d.bundles i = usedBy (s.device.bundles i) r := by
    rw [hbundles, update_self]
  have hother : ∀ j, j ≠ i → d.bundles j = s.device.bundles j := by
    intro j hj
    rw [hbundles, update_of_ne hj]
  obtain ⟨hnumber, -, hindex, -⟩ : (usedBy (s.device.bundles i) r).number = _ ∧ _ := claimBundle_spec _ r
  refine ⟨?_, ?_, ?_, ?_, ?_⟩
  · intro j
    by_cases hj : j = i
    · rw [hj, hself]
      exact hnumber.trans (hinv.number i)
    · rw [hother j hj]
      exact hinv.number j
  · intro j
    by_cases hj : j = i
    · rw [hj, hself, hserves.type]
      exact iff_of_false r.bundleType_ne_free (hindex ▸ Nat.succ_ne_zero _)
    · rw [hother j hj]
      exact hinv.unused_iff j
  · exact hinv.last_grant hplace (hself ▸ hserves.type) hother
  · exact hinv.front_grant hplace (hself ▸ hserves.type) hother
  · intro g hg
    rcases mem_cons.mp hg with rfl | hg
    · rw [hinst, hself]
      exact hserves
    · by_cases hj : g.inst.bundle = i
      · have hold := hinv.serves g hg
        rw [hj] at hold ⊢
        rw [hself]
        refine hold.usedBy (Nat.pos_of_ne_zero fun hzero => ?_)
        exact g.request.bundleType_ne_free (hold.type.symm.trans ((hinv.unused_iff i).mpr hzero))
      · rw [hother _ hj]
        exact hinv.serves g hg

end

/-! ## The names of the sections -/

structure SectionName (kernel : Bool) (name : List Char) : Prop where
  length_lt : name.length < maxStrLen
  isKernelSec_eq : isKernelSec name = kernel

lemma take_ne_of_mem {l name : List Char} {c : Char} {n : ℕ} (hmem : c ∈ l) (hnot : c ∉ name)
    (hlength : name.length < n) : l.take n ≠ name := by
  intro h
  have hl : l.length ≤ n := by
    have hmin := congrArg List.length h
    rw [length_take] at hmin
    omega
  rw [take_of_length_le hl] at h
  exact hnot (h ▸ hmem)

lemma sectionName_derivedSecName (sec : Section) (dev processNum : ℕ) :
    SectionName false (derivedSecName sec dev processNum) := by
  constructor
  · exact (length_take_le _ _).trans_lt (by decide)
  · have hne : ∀ name, 'I' ∉ name → name.length < maxStrLen - 1 → derivedSecName sec dev processNum ≠ name := by
      intro name hnot hlength
      refine take_ne_of_mem (c := 'I') ?_ hnot hlength
      simp
    have hkernel := hne ['K', 'E', 'R', 'N', 'E', 'L'] (by decide) (by decide)
    have hsal := hne ['K', 'E', 'R', 'N', 'E', 'L', '_', 'Q', 'A', 'T'] (by decide) (by decide)
    simp [isKernelSec, hkernel, hsal]

lemma sectionName_of_isKernelSec {name : List Char} (h : isKernelSec name = true) : SectionName true name := by
  refine ⟨?_, h⟩
  simp only [isKernelSec, or_eq_true, decide_eq_true_eq] at h
  rcases h with rfl | rfl
  · decide
  · decide

/-! ## Processing keeps the invariant -/

section

variable {s s' : ConfigState w} {sec : Section} {name : List Char} {kernel : Bool} {dev processNum : ℕ}
  {secs : List Section}

section

variable (hname : SectionName kernel name) (hinv : SectionsInv s) {t : { t : ServiceType // t ≠ .used }}

include hname hinv

lemma createEntry_inv {cfg : InstanceCfg}
    (h : createEntry kernel cfg name processNum t s = some s') : SectionsInv s' := by
  unfold createEntry at h
  simp only [bind_eq_bind, bind_eq_some_iff] at h
  obtain ⟨coreNumArr, -, core, -, h⟩ := h
  split_ifs at h
  obtain ⟨polled, -, h⟩ := bind_eq_some_iff.mp h
  split at h
  next => cases h
  next d inst hrings =>
    cases h
    exact hinv.grant hrings hname.length_lt hname.isKernelSec_eq

lemma createRingsEntries_inv {numInst : Option ℕ} {cfg : ℕ → InstanceCfg}
    (h : createRingsEntries kernel numInst cfg name processNum t s = some s') : SectionsInv s' := by
  obtain ⟨n, -, h⟩ := bind_eq_some_iff.mp h
  exact exec_invariant (fun _ _ _ hinv hstep => createEntry_inv hname hinv hstep) h hinv

lemma createServices_inv (h : createServices kernel sec name processNum s = some s') : SectionsInv s' := by
  refine exec_invariant ?_ h hinv
  intro s t s' hinv hstep
  split_ifs at hstep
  · exact createRingsEntries_inv hname hinv hstep
  · exact createRingsEntries_inv hname hinv hstep
  · exact Option.some.inj hstep ▸ hinv

end

section

variable (hinv : SectionsInv s)

include hinv

lemma processUserSection_inv (h : processUserSection dev sec s = some s') : SectionsInv s' := by
  refine exec_invariant ?_ h hinv
  intro s i s' hinv hstep
  refine createServices_inv (sectionName_derivedSecName sec dev i) ?_ hstep
  exact { hinv with }

lemma processSection_inv (h : processSection dev sec s = some s') : SectionsInv s' := by
  unfold processSection at h
  split_ifs at h with hgeneral hkernel haccel
  · exact Option.some.inj h ▸ hinv
  · exact createServices_inv (sectionName_of_isKernelSec hkernel) hinv h
  · exact Option.some.inj h ▸ hinv
  · exact processUserSection_inv hinv h

lemma processFirst_inv (h : processFirst name dev secs s = some s') : SectionsInv s' := by
  unfold processFirst at h
  split at h
  next => exact processSection_inv hinv h
  next => exact Option.some.inj h ▸ hinv

lemma processOthers_inv (h : processOthers dev secs s = some s') : SectionsInv s' := by
  refine exec_invariant ?_ h hinv
  intro s sec s' hinv hstep
  split_ifs at hstep
  · exact Option.some.inj hstep ▸ hinv
  · exact processSection_inv hinv hstep

end

end

lemma sectionsInv_deviceInit {cfg : ServicesCfg} {device : Device w}
    (h : deviceInit w cfg = some device) : SectionsInv ⟨device, [], []⟩ := by
  obtain ⟨mask, -, rfl⟩ := map_eq_some_iff.mp h
  refine ⟨fun _ => rfl, fun _ => iff_of_true rfl rfl, ?_, ?_, ?_⟩
  · rintro i ⟨⟩
  · rintro i j ⟨⟩
  · rintro g ⟨⟩

/-! ## Isolation -/

def Grant.interruptMode (g : Grant w) : Bool :=
  g.request.pollingMode = respEpoll || (g.kernel && g.request.pollingMode ≠ respPoll)

structure Isolated (grants : List (Grant w)) : Prop where
  kernel : ∀ g ∈ grants, ∀ g' ∈ grants, g.inst.bundle = g'.inst.bundle → g.kernel = g'.kernel
  /-- A bundle that serves an instance with interrupts serves one section only. -/
  interrupt : ∀ g ∈ grants, ∀ g' ∈ grants, g.inst.bundle = g'.inst.bundle →
    g.interruptMode = true → g.request.processName = g'.request.processName

lemma Serves.type_eq {g : Grant w} (h : Serves b g) : b.type = if g.kernel then .kernel else .user := by
  rw [h.type, Request.bundleType, h.kernel]

lemma Serves.isInterruptMode_eq {g : Grant w} (h : Serves b g) : isInterruptMode b = g.interruptMode := by
  unfold isInterruptMode Grant.interruptMode
  rw [h.type_eq, h.polling]
  cases g.kernel
  · rfl
  · rfl

lemma SectionsInv.isolated {s : ConfigState w} (hinv : SectionsInv s) : Isolated s.grants := by
  constructor
  · intro g hg g' hg' hbundle
    have htype := (hinv.serves g hg).type_eq
    rw [hbundle, (hinv.serves g' hg').type_eq] at htype
    cases hk : g.kernel <;> cases hk' : g'.kernel <;> simp_all
  · intro g hg g' hg' hbundle hint
    have hserves := hinv.serves g hg
    rw [← hserves.isInterruptMode_eq] at hint
    have hserves' := hinv.serves g' hg'
    rw [← hbundle] at hserves'
    exact (hserves.section_eq hint).trans (hserves'.section_eq hint).symm

/-- **Kernel and processes are kept apart**, and a bundle with an instance that raises interrupts serves one
section only. -/
theorem configDevice_isolated {cfg : ServicesCfg} {dev : ℕ} {secs : List Section}
    {s : ConfigState w} (h : configDevice w cfg dev secs = some s) : Isolated s.grants := by
  unfold configDevice at h
  simp only [bind_eq_bind, bind_eq_some_iff] at h
  obtain ⟨device, hdevice, s₁, hgeneral, s₂, hkernel, s₃, hsal, hothers⟩ := h
  have hinv := sectionsInv_deviceInit hdevice
  have hinv := processFirst_inv hinv hgeneral
  have hinv := processFirst_inv hinv hkernel
  have hinv := processFirst_inv hinv hsal
  exact (processOthers_inv hinv hothers).isolated

/-- For instance, the kernel and two processes that raise interrupts get a bundle each. -/
theorem kernel_and_two_processes_isolated : ∃ (cfg : ServicesCfg) (secs : List Section) (s : ConfigState 4),
      configDevice 4 cfg 0 secs = some s ∧ s.grants.map (fun g => (g.kernel, g.interruptMode, g.inst.bundle)) =
        [(false, true, 2), (false, true, 1), (true, false, 0)] ∧ Isolated s.grants := by
  have hconfig : (configDevice 4 ⟨[['s', 'y', 'm'], ['d', 'c']], true, true, true, false, 4, some 0, some (8, 4)⟩ 0
      [⟨['S', 'S', 'L'], false, some 1, some 0, fun _ => ⟨some [1], true, some 2⟩,
          fun _ => ⟨none, false, none⟩, some 2, none⟩,
        ⟨kernelSec, false, some 1, some 0, fun _ => ⟨some [0], true, some 1⟩,
          fun _ => ⟨none, false, none⟩, none, none⟩]).map
      (fun s => s.grants.map fun g => (g.kernel, g.interruptMode, g.inst.bundle)) =
      some [(false, true, 2), (false, true, 1), (true, false, 0)] := by
    decide +kernel
  obtain ⟨s, hs, hgrants⟩ := map_eq_some_iff.mp hconfig
  exact ⟨_, _, s, hs, hgrants, configDevice_isolated hs⟩

end QuickAssist.Cfg
