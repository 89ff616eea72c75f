import Mathlib.Data.Int.Notation
import QuickAssist.Lib.Run

/-!
# Transport handles of a bank

A user process reaches the rings of a bank through the UIO bundle it mapped for the bank, and keeps their handles in an
array that hangs off the bank. The first handle to be created gets the bundle and the array, later ones find them. A
pointer is the number of an allocation, and numbers are not used twice, so that a pointer to freed memory can be told
from a good one. The functions end in `none` where the source would reach through a null pointer or into memory that
was freed.

**The defect.** Every check after the bundle was found answers a failure by freeing the ring array and the bundle of
the bank, also where this call has not got them: the rings created earlier lose both. And the pointer to the bundle
stays, so that the next create takes the freed bundle for a good one. The same happens on the first create, if no
memory is left for the ring array (`failed_create_frees`).

**Outside.** What the allocators, the configuration lookup and the kernel driver answer is part of the call.
-/

namespace QuickAssist.UserTransport

open Lib Function Option

/-! ## The bank and its memory -/

inductive RespDelivMethod
  | irq
  | poll
  | none
  | other
  deriving DecidableEq

/-- A ring handle. Source: `adf_dev_ring_handle_t`. -/
structure RingHandle where
  ringNum : ℕ
  csrAddr : ℕ
  ringVirtAddr : Bool
  userLock : Bool
  resp : RespDelivMethod

/-- A bank, and the memory of the process and the reservations of the kernel driver that belong to it.
Source: `adf_dev_bank_handle_t`. -/
structure BankState where
  /-- `bank->bundle`. The address of its registers, `bank->csr_addr`, is set along with it. -/
  bundle : Option ℕ
  rings : Option ℕ
  ringMask : ℕ → Bool
  interruptMask : ℕ → Bool
  pollingMask : ℕ → Bool
  reserved : ℕ → Bool
  bundles : ℕ → Bool
  arrays : ℕ → Option (ℕ → Option ℕ)
  handles : ℕ → Option RingHandle
  next : ℕ
  created : List ℕ

def bankInit : BankState where
  bundle := none
  rings := none
  ringMask _ := false
  interruptMask _ := false
  pollingMask _ := false
  reserved _ := false
  bundles _ := false
  arrays _ := none
  handles _ := none
  next := 0
  created := []

structure CreateCall where
  nullParam : Bool
  bundleOk : Bool
  ringsOk : Bool
  ringRnum : Option ℤ
  reserveOk : Bool
  handleOk : Bool
  serviceNameOk : Bool
  sectionNameOk : Bool
  resp : RespDelivMethod
  bankLockOk : Bool
  ringBufOk : Bool
  userLockOk : Bool

/-! ## The functions -/

def initBankFromAccel (s : BankState) (c : CreateCall) : BankState × Bool :=
  if !c.bundleOk then (s, false)
  else if !c.ringsOk then
    -- the bundle is freed again, the pointer to it is not taken back
    ({ s with bundle := some s.next, rings := none, next := s.next + 1 }, false)
  else
    ({ s with
        bundle := some s.next
        rings := some (s.next + 1)
        bundles := update s.bundles s.next true
        arrays := update s.arrays (s.next + 1) (some fun _ => none)
        next := s.next + 2 }, true)

/-- `ICP_FREE(bank->rings)`, which also clears the pointer. -/
def freeRings (s : BankState) : Option BankState :=
  match s.rings with
  | none => some s
  | some a =>
    if (s.arrays a).isNone then none
    else some { s with rings := none, arrays := update s.arrays a none }

/-- Unmaps and frees the bundle of the bank. Source: `uio_free_bundle(bank->bundle)`. -/
def uioFreeBundle (s : BankState) : Option BankState :=
  match s.bundle with
  | none => none
  | some b =>
    if !s.bundles b then none
    else some { s with bundles := update s.bundles b false }

def failCreate (s : BankState) : Option (BankState × Option ℕ) := do
  let s ← freeRings s
  let s ← uioFreeBundle s
  return (s, none)

def reserveRing (s : BankState) (n : ℕ) : BankState := { s with reserved := update s.reserved n true }

def releaseRing (s : BankState) (n : ℕ) : BankState := { s with reserved := update s.reserved n false }

/-- `pRingHandle = ICP_MALLOC_GEN(..)`, where all of the handle is cleared. -/
def mallocHandle (s : BankState) : BankState :=
  { s with handles := update s.handles s.next (some ⟨0, 0, false, false, .none⟩), next := s.next + 1 }

/-- `ICP_FREE(pRingHandle)`. -/
def freeHandle (s : BankState) (h : ℕ) : BankState := { s with handles := update s.handles h none }

/-- Sets up a ring, and says whether that worked. Its registers are written through the mapped bundle.
Source: `adf_init_ring`, with `adf_reserve_ring`. -/
def adfInitRing (s : BankState) (c : CreateCall) (n h : ℕ) : Option (BankState × Bool) :=
  if !c.bankLockOk || s.ringMask n then some (s, false)
  else if !c.ringBufOk then
    some ({ s with ringMask := update s.ringMask n false }, false)
  else
    match s.bundle with
    | none => none
    | some b =>
      if !s.bundles b then none
      else
        some ({ s with
          ringMask := update s.ringMask n true
          handles := update s.handles h (some ⟨n, b, true, false, c.resp⟩) }, true)

/-- Releases a handle. Source: `icp_adf_transReleaseHandle`, with `adf_cleanup_ring`. -/
def transReleaseHandle (s : BankState) (h : ℕ) : Option BankState := do
  let r ← s.handles h
  if !s.bundles r.csrAddr then none
  else
    let a ← s.rings
    let rings ← s.arrays a
    return { s with
      interruptMask := update s.interruptMask r.ringNum false
      pollingMask := update s.pollingMask r.ringNum false
      ringMask := update s.ringMask r.ringNum false
      reserved := update s.reserved r.ringNum false
      arrays := update s.arrays a (some (update rings r.ringNum none))
      handles := update s.handles h none
      created := s.created.filter (· ≠ h) }

/-- The end of a create, where the ring is set up: the handle goes into the array and gets its lock. -/
def enterHandle (s : BankState) (c : CreateCall) (n h : ℕ) : Option (BankState × Option ℕ) := do
  let r ← s.handles h
  let a ← s.rings
  let rings ← s.arrays a
  let s := { s with
    arrays := update s.arrays a (some (update rings n (some h)))
    interruptMask := update s.interruptMask n
      (s.interruptMask n || decide (c.resp = .irq))
    pollingMask := update s.pollingMask n
      (s.pollingMask n || decide (c.resp = .irq ∨ c.resp = .poll)) }
  if !c.userLockOk then
    let s ← transReleaseHandle s h
    failCreate (releaseRing s n)
  else
    return ({ s with
      handles := update s.handles h (some { r with userLock := true })
      created := h :: s.created }, some h)

def createOnRing (s : BankState) (c : CreateCall) (n : ℕ) : Option (BankState × Option ℕ) :=
  if !c.reserveOk then failCreate s
  else
    let s := reserveRing s n
    if !c.handleOk then failCreate (releaseRing s n)
    else
      let h := s.next
      let s := mallocHandle s
      if !c.serviceNameOk then failCreate (releaseRing (freeHandle s h) n)
      else if !c.sectionNameOk then failCreate (releaseRing (freeHandle s h) n)
      else if c.resp = .other then failCreate (releaseRing (freeHandle s h) n)
      else
        match adfInitRing s c n h with
        | none => none
        | some (s, false) => failCreate (releaseRing (freeHandle s h) n)
        | some (s, true) => enterHandle s c n h

def createOnBank (maxNumRingsPerBank : ℕ) (s : BankState) (c : CreateCall) : Option (BankState × Option ℕ) :=
  match c.ringRnum with
  | none => failCreate s
  | some n =>
    if n < 0 ∨ (maxNumRingsPerBank : ℤ) ≤ n then failCreate s
    else createOnRing s c n.toNat

def transCreateHandle (maxNumRingsPerBank : ℕ) (s : BankState) (c : CreateCall) : Option (BankState × Option ℕ) :=
  if c.nullParam then some (s, none)
  else if s.bundle = none then
    match initBankFromAccel s c with
    | (s, false) => some (s, none)
    | (s, true) => createOnBank maxNumRingsPerBank s c
  else createOnBank maxNumRingsPerBank s c

/-! ## What a create that fails leaves behind -/

def BankState.Dangling (s : BankState) : Prop := ∃ b, s.bundle = some b ∧ s.bundles b = false

/-- A create fails before it has touched the bank: a pointer is null, or the bank has no bundle and gets
none. -/
def FailsEarly (s : BankState) (c : CreateCall) : Prop := c.nullParam = true ∨ s.bundle = none ∧ c.bundleOk = false
  deriving Decidable

variable {s s' : BankState} {c : CreateCall} {a b h m n : ℕ} {rings : ℕ → Option ℕ}

lemma transCreateHandle_early (h : FailsEarly s c) : transCreateHandle m s c = some (s, none) := by
  rcases h with hnull | ⟨hbundle, hok⟩
  · simp [transCreateHandle, hnull]
  · simp [transCreateHandle, hbundle, initBankFromAccel, hok]

lemma failCreate_dangling (hb : s.bundle = some b) (hlive : s.bundles b = true) (ha : s.rings = some a)
    (hrings : s.arrays a = some rings) : ∃ t, failCreate s = some (t, none) ∧ t.Dangling := by
  refine ⟨{ s with
    rings := none
    arrays := update s.arrays a none
    bundles := update s.bundles b false }, ?_, b, hb, update_self ..⟩
  simp [failCreate, freeRings, ha, hrings, uioFreeBundle, hb, hlive]

/-! ## Rings that can be used -/

/-- A ring is allocated, can be reached from its bank and can be used. -/
def BankState.Usable (s : BankState) (h : ℕ) : Prop :=
  ∃ r a rings, s.handles h = some r ∧ r.ringVirtAddr = true ∧ r.userLock = true ∧
    s.bundle = some r.csrAddr ∧ s.bundles r.csrAddr = true ∧
    s.reserved r.ringNum = true ∧ s.ringMask r.ringNum = true ∧
    (r.resp = .irq → s.interruptMask r.ringNum = true) ∧
    (r.resp = .irq ∨ r.resp = .poll → s.pollingMask r.ringNum = true) ∧
    s.rings = some a ∧ s.arrays a = some rings ∧ rings r.ringNum = some h

/-- A create on the bank finds no bundle, or one that is mapped with a ring array that is allocated. -/
def BankState.SeesNoFreed (s : BankState) : Prop :=
  ∀ b, s.bundle = some b → s.bundles b = true ∧ ∃ a rings, s.rings = some a ∧ s.arrays a = some rings

def Keeps (s s' : BankState) : Prop := (∀ h ∈ s.created, s'.Usable h) ∧ s'.SeesNoFreed

lemma BankState.Dangling.not_seesNoFreed (h : s.Dangling) : ¬ s.SeesNoFreed := by
  obtain ⟨b, hb, hfreed⟩ := h
  intro hsees
  have hlive := (hsees b hb).1
  rw [hfreed] at hlive
  exact Bool.false_ne_true hlive

def withBundle (s : BankState) : BankState :=
  { s with
    bundle := some s.next
    rings := some (s.next + 1)
    bundles := update s.bundles s.next true
    arrays := update s.arrays (s.next + 1) (some fun _ => none)
    next := s.next + 2 }

lemma seesNoFreed_withBundle (s : BankState) : (withBundle s).SeesNoFreed := by
  intro b hb
  cases hb
  exact ⟨update_self .., s.next + 1, _, rfl, update_self ..⟩

/-- **What setting up a ring comes to** while the bundle is mapped: it fails, and changes no more than the
mask of the rings, or the ring was free and has a buffer now. -/
theorem adfInitRing_spec (s : BankState) (c : CreateCall) (n h : ℕ) (hb : s.bundle = some b)
    (hlive : s.bundles b = true) : (∃ mask, adfInitRing s c n h = some ({ s with ringMask := mask }, false)) ∨
      (c.bankLockOk = true ∧ s.ringMask n = false) ∧ c.ringBufOk = true ∧ adfInitRing s c n h = some ({ s with
        ringMask := update s.ringMask n true
        handles := update s.handles h (some ⟨n, b, true, false, c.resp⟩) }, true) := by
  by_cases htaken : (!c.bankLockOk || s.ringMask n) = true
  · exact Or.inl ⟨s.ringMask, if_pos htaken⟩
  by_cases hbuf : (!c.ringBufOk) = true
  · refine Or.inl ⟨update s.ringMask n false, ?_⟩
    simp only [adfInitRing, if_neg htaken, if_pos hbuf]
  · right
    simp only [Bool.or_eq_true, not_or, Bool.not_eq_true, Bool.not_eq_false'] at htaken hbuf
    simp [adfInitRing, htaken, hbuf, hb, hlive]

lemma enterHandle_unlocked {r : RingHandle} (hr : s.handles h = some r) (hb : s.bundle = some r.csrAddr)
    (hlive : s.bundles r.csrAddr = true) (ha : s.rings = some a) (hrings : s.arrays a = some rings)
    (huser : c.userLockOk = false) : ∃ t, enterHandle s c n h = some (t, none) ∧ t.Dangling := by
  simp only [enterHandle, transReleaseHandle, hr, ha, hrings, hlive, huser, bind_eq_bind, bind_some,
    update_self, pure_def, Bool.not_true, Bool.not_false, Bool.false_eq_true, ↓reduceIte]
  exact failCreate_dangling hb hlive rfl (update_self ..)

/-! ## What a create comes to -/

def entered (s : BankState) (c : CreateCall) (n b a : ℕ) (rings : ℕ → Option ℕ) : BankState :=
  { s with
    arrays := update s.arrays a (some (update rings n (some s.next)))
    interruptMask := update s.interruptMask n (s.interruptMask n || decide (c.resp = .irq))
    pollingMask := update s.pollingMask n (s.pollingMask n || decide (c.resp = .irq ∨ c.resp = .poll))
    ringMask := update s.ringMask n true
    reserved := update s.reserved n true
    handles := update s.handles s.next (some ⟨n, b, true, true, c.resp⟩)
    next := s.next + 1
    created := s.next :: s.created }

/-- Everything a create asks for is there: the call meets all the checks of
`icp_adf_transCreateHandle`, and its ring is not in use. -/
def Served (maxNumRingsPerBank : ℕ) (s : BankState) (c : CreateCall) : Prop :=
  c.nullParam = false ∧ (s.bundle = none → c.bundleOk = true ∧ c.ringsOk = true) ∧
    (∃ n : ℕ, c.ringRnum = some (n : ℤ) ∧ n < maxNumRingsPerBank ∧ s.ringMask n = false) ∧
    c.reserveOk = true ∧ c.handleOk = true ∧ c.serviceNameOk = true ∧ c.sectionNameOk = true ∧
    c.resp ≠ .other ∧ c.bankLockOk = true ∧ c.ringBufOk = true ∧ c.userLockOk = true

/-- What a create asks for once the bank has its bundle. -/
def RingServed (s : BankState) (c : CreateCall) (n : ℕ) : Prop :=
  c.reserveOk = true ∧ c.handleOk = true ∧ c.serviceNameOk = true ∧ c.sectionNameOk = true ∧
    c.resp ≠ .other ∧ c.bankLockOk = true ∧ s.ringMask n = false ∧ c.ringBufOk = true ∧ c.userLockOk = true

/-- **What a create comes to on a ring**: it is served and the slot of the ring has the new handle, or it leaves a
pointer to a freed bundle. -/
theorem createOnRing_outcome (hb : s.bundle = some b) (hlive : s.bundles b = true) (ha : s.rings = some a)
    (hrings : s.arrays a = some rings) :
    RingServed s c n ∧ createOnRing s c n = some (entered s c n b a rings, some s.next) ∨
      ¬ RingServed s c n ∧ ∃ t, createOnRing s c n = some (t, none) ∧ t.Dangling := by
  by_cases hserved : RingServed s c n
  · refine Or.inl ⟨hserved, ?_⟩
    obtain ⟨hres, hhandle, hservice, hsection, hresp, hlock, hfree, hbuf, huser⟩ := hserved
    simp [createOnRing, hres, hhandle, hservice, hsection, hresp, adfInitRing, hlock, hbuf, enterHandle, huser,
      entered, mallocHandle, reserveRing, hfree, hb, hlive, ha, hrings]
  refine Or.inr ⟨hserved, ?_⟩
  simp only [createOnRing]
  iterate 5
    split
    · exact failCreate_dangling hb hlive ha hrings
  rcases adfInitRing_spec (mallocHandle (reserveRing s n)) c n (reserveRing s n).next hb hlive with
    ⟨mask, heq⟩ | ⟨hfree, hbuf, heq⟩
  · rw [heq]
    exact failCreate_dangling hb hlive ha hrings
  · -- all that is left to fail is the lock, and then the handle is released again
    have hfree : c.bankLockOk = true ∧ s.ringMask n = false := hfree
    have huser : c.userLockOk = false := by simp_all [RingServed]
    rw [heq]
    exact enterHandle_unlocked (update_self ..) hb hlive ha hrings huser

lemma createOnBank_outcome (hb : s.bundle = some b) (hsees : s.SeesNoFreed) :
    (∃ n a rings, RingServed s c n ∧ s.bundles b = true ∧ s.rings = some a ∧ s.arrays a = some rings ∧
      createOnBank m s c = some (entered s c n b a rings, some s.next)) ∨
    (∀ n : ℕ, c.ringRnum = some (n : ℤ) → n < m → ¬ RingServed s c n) ∧
      ∃ t, createOnBank m s c = some (t, none) ∧ t.Dangling := by
  obtain ⟨hlive, a, rings, ha, hrings⟩ := hsees b hb
  simp only [createOnBank]
  split
  next hnone => exact Or.inr ⟨by simp [hnone], failCreate_dangling hb hlive ha hrings⟩
  next z hz =>
    split
    next hrange =>
      refine Or.inr ⟨?_, failCreate_dangling hb hlive ha hrings⟩
      intro n hn hlt
      obtain rfl := Option.some.inj (hz.symm.trans hn)
      omega
    next hrange =>
      rcases createOnRing_outcome (n := z.toNat) hb hlive ha hrings with ⟨hserved, heq⟩ | ⟨hnot, hfail⟩
      · exact Or.inl ⟨_, a, rings, hserved, hlive, ha, hrings, heq⟩
      · refine Or.inr ⟨?_, hfail⟩
        intro n hn _
        obtain rfl := Option.some.inj (hz.symm.trans hn)
        exact hnot

/-- What a create comes to in a bank that points to no freed memory. -/
inductive Outcome (m : ℕ) (s : BankState) (c : CreateCall) : Option (BankState × Option ℕ) → Prop
  | early : FailsEarly s c → Outcome m s c (some (s, none))
  | late {t : BankState} : (s.bundles s.next = false → t.Dangling) → ¬ Served m s c → Outcome m s c (some (t, none))
  | created {t : BankState} {n b a : ℕ} {rings : ℕ → Option ℕ} : (t = s ∨ s.bundle = none ∧ t = withBundle s) →
      t.ringMask n = false → t.bundle = some b → t.bundles b = true → t.rings = some a → t.arrays a = some rings →
      Outcome m s c (some (entered t c n b a rings, some t.next))

lemma transCreateHandle_outcome (hsees : s.SeesNoFreed) : Outcome m s c (transCreateHandle m s c) := by
  have hbank : ∀ (t : BankState) (b : ℕ), (t = s ∨ s.bundle = none ∧ t = withBundle s) → t.bundle = some b →
      t.SeesNoFreed → Outcome m s c (createOnBank m t c) := by
    intro t b ht hb hsees
    rcases createOnBank_outcome hb hsees with ⟨n, a, rings, hserved, hlive, ha, hrings, heq⟩ | ⟨hnot, u, heq, hdangling⟩
    · rw [heq]
      exact .created ht hserved.2.2.2.2.2.2.1 hb hlive ha hrings
    · rw [heq]
      refine .late (fun _ => hdangling) ?_
      rintro ⟨-, -, ⟨n, hn, hlt, hfree⟩, hres, hhandle, hservice, hsection, hresp, hlock, hlast⟩
      have hfree : t.ringMask n = false := by
        rcases ht with rfl | ⟨-, rfl⟩
        all_goals exact hfree
      exact hnot n hn hlt ⟨hres, hhandle, hservice, hsection, hresp, hlock, hfree, hlast⟩
  by_cases hearly : FailsEarly s c
  · rw [transCreateHandle_early hearly]
    exact .early hearly
  simp only [FailsEarly, not_or, not_and, Bool.not_eq_true, Bool.not_eq_false] at hearly
  by_cases hbundle : s.bundle = none
  · by_cases hrings : c.ringsOk = true
    · simp only [transCreateHandle, initBankFromAccel, hearly, hbundle, hrings]
      exact hbank (withBundle s) s.next (Or.inr ⟨hbundle, rfl⟩) rfl (seesNoFreed_withBundle s)
    · simp only [transCreateHandle, initBankFromAccel, hearly, hbundle, hrings]
      exact .late (fun hfresh => ⟨s.next, rfl, hfresh⟩) fun hserved => hrings (hserved.2.1 hbundle).2
  · obtain ⟨b, hb⟩ := ne_none_iff_exists'.1 hbundle
    simp only [transCreateHandle, hearly, hbundle]
    exact hbank s b (Or.inl rfl) hb hsees

/-- **No create reaches into freed memory** of a bank that points to none. -/
theorem transCreateHandle_isSome (hsees : s.SeesNoFreed) : (transCreateHandle m s c).isSome = true := by
  have hcreate := transCreateHandle_outcome (m := m) (c := c) hsees
  generalize transCreateHandle m s c = out at hcreate ⊢
  cases hcreate <;> rfl

/-! ## Runs -/

inductive TransEvent
  | create (c : CreateCall)
  | release (h : ℕ)

def transStep (maxNumRingsPerBank : ℕ) (s : BankState) : TransEvent → Option BankState
  | .create c => (transCreateHandle maxNumRingsPerBank s c).map Prod.fst
  | .release h => if h ∈ s.created then transReleaseHandle s h else none

def Spared (maxNumRingsPerBank : ℕ) (s : BankState) : TransEvent → Prop
  | .create c => FailsEarly s c ∨ Served maxNumRingsPerBank s c
  | .release _ => True

structure BankState.Sound (s : BankState) : Prop where
  created_lt : ∀ h ∈ s.created, h < s.next
  fresh : ∀ b, s.next ≤ b → s.bundles b = false
  usable : ∀ h ∈ s.created, s.Usable h
  sees : s.SeesNoFreed

lemma BankState.Sound.created_of_none (hs : s.Sound) (hbundle : s.bundle = none) : ∀ h, h ∉ s.created := by
  intro h hh
  obtain ⟨r, -, -, -, -, -, hb, -⟩ := hs.usable h hh
  rw [hbundle] at hb
  exact nomatch hb

lemma BankState.Sound.withBundle (hs : s.Sound) (hbundle : s.bundle = none) : (withBundle s).Sound where
  created_lt h hh := absurd hh (hs.created_of_none hbundle h)
  fresh b hb := by
    have hle : s.next + 2 ≤ b := hb
    have hne : b ≠ s.next := by omega
    change update s.bundles s.next true b = false
    rw [update_of_ne hne]
    exact hs.fresh b (by omega)
  usable h hh := absurd hh (hs.created_of_none hbundle h)
  sees := seesNoFreed_withBundle s

lemma BankState.Sound.entered (hs : s.Sound) {n b a : ℕ} (hfree : s.ringMask n = false) (hb : s.bundle = some b)
    (hlive : s.bundles b = true) (ha : s.rings = some a) (hrings : s.arrays a = some rings) :
    (entered s c n b a rings).Sound where
  created_lt h hh := by
    rcases List.mem_cons.1 hh with rfl | hh
    · exact Nat.lt_succ_self s.next
    · exact Nat.lt_succ_of_lt (hs.created_lt h hh)
  fresh b' hb' := hs.fresh b' (Nat.le_of_succ_le hb')
  usable h hh := by
    rcases List.mem_cons.1 hh with rfl | hh
    · refine ⟨⟨n, b, true, true, c.resp⟩, a, update rings n (some s.next),
        update_self .., rfl, rfl, hb, hlive, update_self ..,
        update_self .., ?_, ?_, ha, update_self .., update_self ..⟩
      · intro hresp
        simp [UserTransport.entered, show c.resp = .irq from hresp]
      · intro hresp
        simp [UserTransport.entered, hresp]
    · obtain ⟨r, a', rings', hr, hbuf, hlock, hrb, hrlive, hres, hmask, hirq, hpoll, ha', hrings',
        hslot⟩ := hs.usable h hh
      obtain rfl : a = a' := Option.some.inj (ha.symm.trans ha')
      obtain rfl : rings = rings' := Option.some.inj (hrings.symm.trans hrings')
      have hne : r.ringNum ≠ n := by
        rintro rfl
        rw [hfree] at hmask
        exact Bool.false_ne_true hmask
      have hneh : h ≠ s.next := Nat.ne_of_lt (hs.created_lt h hh)
      refine ⟨r, a, update rings n (some s.next), ?_, hbuf, hlock, hrb, hrlive, ?_, ?_, ?_,
        ?_, ha, update_self .., ?_⟩
      · exact (update_of_ne hneh ..).trans hr
      · exact (update_of_ne hne ..).trans hres
      · exact (update_of_ne hne ..).trans hmask
      · exact fun hresp => (update_of_ne hne ..).trans (hirq hresp)
      · exact fun hresp => (update_of_ne hne ..).trans (hpoll hresp)
      · exact (update_of_ne hne ..).trans hslot
  sees b' hb' := ⟨(hs.sees b' hb').1, a, _, ha, update_self ..⟩

lemma BankState.Sound.released (hs : s.Sound) (hh : h ∈ s.created)
    (hrel : transReleaseHandle s h = some s') : s'.Sound := by
  obtain ⟨r, a, rings, hr, -, -, hb, hlive, -, -, -, -, ha, hrings, hslot⟩ := hs.usable h hh
  simp only [transReleaseHandle, hr, hlive, ha, hrings, bind_eq_bind, bind_some, pure_def] at hrel
  cases hrel
  refine ⟨?_, hs.fresh, ?_, ?_⟩
  · intro h' hh'
    exact hs.created_lt h' (List.mem_of_mem_filter hh')
  · intro h' hh'
    obtain ⟨hmem, hne⟩ := List.mem_filter.1 hh'
    have hne : h' ≠ h := of_decide_eq_true hne
    obtain ⟨r', a', rings', hr', hbuf, hlock, hrb, hrlive, hres, hmask, hirq, hpoll, ha', hrings',
      hslot'⟩ := hs.usable h' hmem
    obtain rfl : a = a' := Option.some.inj (ha.symm.trans ha')
    obtain rfl : rings = rings' := Option.some.inj (hrings.symm.trans hrings')
    -- two handles have different rings, as a slot holds one
    have hnum : r'.ringNum ≠ r.ringNum := by
      intro heq
      rw [heq, hslot] at hslot'
      exact hne (Option.some.inj hslot').symm
    refine ⟨r', a, update rings r.ringNum none, ?_, hbuf, hlock, hrb, hrlive, ?_, ?_, ?_, ?_, rfl, update_self .., ?_⟩
    · exact (update_of_ne hne ..).trans hr'
    · exact (update_of_ne hnum ..).trans hres
    · exact (update_of_ne hnum ..).trans hmask
    · exact fun hresp => (update_of_ne hnum ..).trans (hirq hresp)
    · exact fun hresp => (update_of_ne hnum ..).trans (hpoll hresp)
    · exact (update_of_ne hnum ..).trans hslot'
  · intro b' hb'
    exact ⟨(hs.sees b' hb').1, a, _, rfl, update_self ..⟩

lemma BankState.Sound.step {e : TransEvent} (hs : s.Sound)
    (hspared : Spared m s e) (hstep : transStep m s e = some s') : s'.Sound := by
  cases e with
  | create c =>
    obtain ⟨⟨t, r⟩, hcreate, rfl⟩ := map_eq_some_iff.1 hstep
    have houtcome := transCreateHandle_outcome (m := m) (c := c) hs.sees
    rw [hcreate] at houtcome
    cases houtcome with
    | early => exact hs
    | late _ hnot =>
      rcases hspared with hearly | hserved
      · rw [transCreateHandle_early hearly] at hcreate
        cases hcreate
        exact hs
      · exact absurd hserved hnot
    | created hu hfree hb hlive ha hrings =>
      rcases hu with rfl | ⟨hbundle, rfl⟩
      · exact hs.entered hfree hb hlive ha hrings
      · exact (hs.withBundle hbundle).entered hfree hb hlive ha hrings
  | release h =>
    by_cases hh : h ∈ s.created
    · simp only [transStep, if_pos hh] at hstep
      exact hs.released hh hstep
    · simp only [transStep, if_neg hh] at hstep
      cases hstep

lemma sound_of_run {es : List TransEvent}
    (hrun : Run (guarded (Spared m) (ofFun (transStep m))) bankInit es s) : s.Sound := by
  refine hrun.invariant (fun s e t hs hstep => hs.step hstep.1 hstep.2) ?_
  refine ⟨?_, ?_, ?_, ?_⟩
  · simp [bankInit]
  · exact fun _ _ => rfl
  · simp [bankInit]
  · exact fun b hb => nomatch hb

/-! ## The result -/

/-- **A failed create keeps the rings of the bank exactly if it fails early**, in every bank in which none has
failed late. -/
theorem failed_create_keeps_iff {m : ℕ} {s s' : BankState} {es : List TransEvent} {c : CreateCall}
    (hrun : Run (guarded (Spared m) (ofFun (transStep m))) bankInit es s)
    (hfail : transCreateHandle m s c = some (s', none)) :
    (∀ h ∈ s.created, s.Usable h) ∧ (Keeps s s' ↔ FailsEarly s c) ∧
      (FailsEarly s c → ∀ c', (transCreateHandle m s' c').isSome = true) := by
  have hs := sound_of_run hrun
  have hearly : FailsEarly s c → s' = s := by
    intro hearly
    rw [transCreateHandle_early hearly] at hfail
    cases hfail
    rfl
  refine ⟨hs.usable, ⟨?_, ?_⟩, ?_⟩
  · intro hkeeps
    have houtcome := transCreateHandle_outcome (m := m) (c := c) hs.sees
    rw [hfail] at houtcome
    cases houtcome with
    | early h => exact h
    | late hdangling => exact absurd hkeeps.2 (hdangling (hs.fresh s.next (Nat.le_refl _))).not_seesNoFreed
  · intro h
    rw [hearly h]
    exact ⟨hs.usable, hs.sees⟩
  · intro h c'
    rw [hearly h]
    exact transCreateHandle_isSome hs.sees

/-- A create of ring `n` for which everything is there. -/
def goodCall (n : ℤ) : CreateCall := ⟨false, true, true, some n, true, true, true, true, .poll, true, true, true⟩

lemma goodCall_spared : Spared 16 bankInit (.create (goodCall 0)) := by
  refine Or.inr ⟨rfl, fun _ => ⟨rfl, rfl⟩, ⟨0, rfl, by decide, rfl⟩, rfl, rfl, rfl, rfl, ?_, rfl, rfl, rfl⟩
  exact fun h => nomatch h

/-- A process has created one ring, and a create with a null pointer leaves it alone. -/
theorem null_create_keeps : ∃ s s',
    Run (guarded (Spared 16) (ofFun (transStep 16))) bankInit [.create (goodCall 0)] s ∧ s.created = [2] ∧
    transCreateHandle 16 s { goodCall 1 with nullParam := true } = some (s', none) ∧ Keeps s s' := by
  have hrun : Run (guarded (Spared 16) (ofFun (transStep 16))) bankInit [.create (goodCall 0)] _ :=
    Run.single ⟨goodCall_spared, rfl⟩
  refine ⟨_, _, hrun, rfl, rfl, ?_⟩
  exact (failed_create_keeps_iff (c := { goodCall 1 with nullParam := true }) hrun rfl).2.1.2 (Or.inl rfl)

/-- After a create that fails the bank still points to the bundle, which is gone as the array of rings is. -/
theorem failed_create_frees : ∃ s s', Run (ofFun (transStep 16)) bankInit [.create (goodCall 0)] s ∧
    s.created = [2] ∧ s.Usable 2 ∧ transCreateHandle 16 s { goodCall 1 with ringRnum := none } = some (s', none) ∧
    ¬ s'.Usable 2 ∧ ¬ s'.SeesNoFreed ∧ transCreateHandle 16 s' (goodCall 1) = none := by
  have hrun : Run (guarded (Spared 16) (ofFun (transStep 16))) bankInit [.create (goodCall 0)] _ :=
    Run.single ⟨goodCall_spared, rfl⟩
  refine ⟨_, _, hrun.mono (fun _ _ _ h => h.2), rfl, (sound_of_run hrun).usable 2 (by decide), rfl, ?_, ?_, rfl⟩
  · rintro ⟨_, _, _, -, -, -, -, -, -, -, -, -, hrings, -⟩
    exact nomatch hrings
  · exact BankState.Dangling.not_seesNoFreed ⟨0, rfl, rfl⟩

end QuickAssist.UserTransport
