import Mathlib.Data.BitVec
import Mathlib.Data.List.Flatten
import QuickAssist.Lib.Words

/-!
# Setting up the transport of a device

`adf_init_etr_data` allocates the transport data and its banks, and `adf_init_bank` the rings of a bank and a counter
for each request ring, which its response ring shares.

**The defect.** `adf_init_bank` undoes what it has done when it fails, but its caller then frees only the array of the
banks: the rings and counters of the banks before are lost (`etrData_clean_iff`).
-/

namespace QuickAssist.Transport

open List

/-- What is allocated, named by the pointer to it. -/
inductive Block
  | etrData
  | banks
  | rings (bank : ℕ)
  | inflights (bank ring : ℕ)
  deriving DecidableEq

/-- What is used of the `struct adf_hw_device_data`. -/
structure EtrHw where
  numBanks : ℕ
  numRingsPerBank : ℕ
  txRingsMask : U16
  txRxGap : ℕ

/-- The steps that fail. -/
structure EtrFailures where
  kzalloc : Block → Bool
  transportDir : Bool
  bankDebugfs : ℕ → Bool

structure Made where
  ok : Bool
  allocated : List Block
  freed : List Block

variable (hw : EtrHw) (fails : EtrFailures)

/-- Source: the first loop of `adf_init_bank`. The result has the rings with a counter of their own. -/
def initRings (bank : ℕ) : List ℕ → List ℕ → Bool × List ℕ
  | [], inflights => (true, inflights)
  | i :: is, inflights =>
    if hw.txRingsMask.getLsbD i then
      if fails.kzalloc (.inflights bank i) then (false, inflights) else initRings bank is (inflights ++ [i])
    else if i < hw.txRxGap then (false, inflights)
    else initRings bank is inflights

def inflightsOf (bank : ℕ) : List ℕ := (initRings hw fails bank (range hw.numRingsPerBank) []).2

/-- Source: what `adf_init_bank` and `cleanup_bank` do with the counters and the rings of a bank. Nothing is freed at
a null pointer. -/
def freeBank (bank : ℕ) : List Block :=
  ((range hw.numRingsPerBank).filter fun i =>
    hw.txRingsMask.getLsbD i && (inflightsOf hw fails bank).contains i).map (.inflights bank) ++ [.rings bank]

def adfInitBank (bank : ℕ) : Made :=
  if fails.kzalloc (.rings bank) then ⟨false, [], []⟩
  else
    let allocated := .rings bank :: (inflightsOf hw fails bank).map (.inflights bank)
    if (initRings hw fails bank (range hw.numRingsPerBank) []).1 && !fails.bankDebugfs bank then
      ⟨true, allocated, []⟩
    else ⟨false, allocated, freeBank hw fails bank⟩

/-- Source: the loop of `adf_init_etr_data`. -/
def initBanks : List ℕ → Made
  | [] => ⟨true, [], []⟩
  | bank :: banks =>
    let made := adfInitBank hw fails bank
    if made.ok then
      let rest := initBanks banks
      ⟨rest.ok, made.allocated ++ rest.allocated, made.freed ++ rest.freed⟩
    else made

def adfInitEtrData : Made :=
  if fails.kzalloc .etrData then ⟨false, [], []⟩
  else if fails.kzalloc .banks then ⟨false, [.etrData], [.etrData]⟩
  else if fails.transportDir then ⟨false, [.etrData, .banks], [.banks, .etrData]⟩
  else
    let made := initBanks hw fails (range hw.numBanks)
    ⟨made.ok, .etrData :: .banks :: made.allocated, made.freed ++ if made.ok then [] else [.banks, .etrData]⟩

/-- Source: `adf_cleanup_etr_data`. The rings of the first bank are freed again at the end, but their pointer is null
by then. -/
def adfCleanupEtrData : List Block := (range hw.numBanks).flatMap (freeBank hw fails) ++ [.banks, .etrData]

/-- The first loop of `adf_init_bank` fails at a ring: a request ring needs memory for its counter, and a response ring
a request ring to share it with. -/
def RingFails (bank i : ℕ) : Prop :=
  if hw.txRingsMask.getLsbD i then fails.kzalloc (.inflights bank i) = true else i < hw.txRxGap

/-- A step of `adf_init_bank` fails. -/
def BankFails (bank : ℕ) : Prop :=
  fails.kzalloc (.rings bank) = true ∨ (∃ i < hw.numRingsPerBank, RingFails hw fails bank i) ∨
    fails.bankDebugfs bank = true

variable {hw fails} {banks : List ℕ} {bank : ℕ}

lemma initRings_ok_iff (bank : ℕ) (is inflights : List ℕ) :
    (initRings hw fails bank is inflights).1 = true ↔ ∀ i ∈ is, ¬ RingFails hw fails bank i := by
  fun_induction initRings hw fails bank is inflights with
  | case1 => simp
  | case2 _ _ _ htx hfails => simp [RingFails, htx, hfails]
  | case3 i is inflights htx hmade ih => simpa [RingFails, htx, hmade] using ih
  | case4 _ _ _ htx hgap => simp [RingFails, htx, hgap]
  | case5 i is inflights htx hgap ih => simpa [RingFails, htx, hgap] using ih

lemma adfInitBank_ok_iff : (adfInitBank hw fails bank).ok = true ↔ ¬ BankFails hw fails bank := by
  have hrings := @initRings_ok_iff hw fails bank (range hw.numRingsPerBank) []
  unfold adfInitBank BankFails
  split_ifs with hkzalloc hok
  · simp [hkzalloc]
  · simpa [hkzalloc, hrings] using hok
  · simpa [hkzalloc, hrings, imp_iff_or_not, or_comm] using hok

lemma initRings_spec (bank : ℕ) (is inflights : List ℕ) : ∃ pre, pre <+: is ∧
    (initRings hw fails bank is inflights).2 = inflights ++ pre.filter (hw.txRingsMask.getLsbD ·) := by
  fun_induction initRings hw fails bank is inflights with
  | case1 inflights => exact ⟨[], nil_prefix, by simp⟩
  | case2 => exact ⟨[], nil_prefix, by simp⟩
  | case3 i is inflights htx _ ih =>
    obtain ⟨pre, hpre, heq⟩ := ih
    exact ⟨i :: pre, cons_prefix_cons.mpr ⟨rfl, hpre⟩, by simp [heq, htx]⟩
  | case4 => exact ⟨[], nil_prefix, by simp⟩
  | case5 i is inflights htx _ ih =>
    obtain ⟨pre, hpre, heq⟩ := ih
    exact ⟨i :: pre, cons_prefix_cons.mpr ⟨rfl, hpre⟩, by simp [heq, htx]⟩

lemma freeBank_perm (bank : ℕ) :
    (freeBank hw fails bank).Perm (.rings bank :: (inflightsOf hw fails bank).map (.inflights bank)) := by
  obtain ⟨pre, hpre, heq⟩ := @initRings_spec hw fails bank (range hw.numRingsPerBank) []
  have hin : inflightsOf hw fails bank = pre.filter (hw.txRingsMask.getLsbD ·) := heq
  refine perm_append_comm.trans (List.Perm.cons _ (List.Perm.map _ ?_))
  rw [perm_ext_iff_of_nodup (nodup_range.filter _) (hin ▸ (nodup_range.sublist hpre.sublist).filter _)]
  intro i
  have hmem : i ∈ pre → i < hw.numRingsPerBank := fun h => mem_range.mp (hpre.subset h)
  simp only [hin, mem_filter, Bool.and_eq_true, contains_iff_mem, mem_range]
  tauto

lemma adfInitBank_made (h : (adfInitBank hw fails bank).ok = true) :
    (adfInitBank hw fails bank).freed = [] ∧ (freeBank hw fails bank).Perm (adfInitBank hw fails bank).allocated := by
  unfold adfInitBank at h ⊢
  split_ifs at h ⊢
  exact ⟨rfl, freeBank_perm bank⟩

lemma adfInitBank_failed (h : (adfInitBank hw fails bank).ok = false) :
    (adfInitBank hw fails bank).freed.Perm (adfInitBank hw fails bank).allocated := by
  unfold adfInitBank at h ⊢
  split_ifs at h ⊢
  · exact .refl _
  · exact freeBank_perm bank

lemma initBanks_made (h : ∀ bank ∈ banks, (adfInitBank hw fails bank).ok = true) :
    (initBanks hw fails banks).ok = true ∧ (initBanks hw fails banks).freed = [] ∧
      (banks.flatMap (freeBank hw fails)).Perm (initBanks hw fails banks).allocated := by
  induction banks with
  | nil => exact ⟨rfl, rfl, .refl _⟩
  | cons bank banks ih =>
    obtain ⟨hbank, hrest⟩ := forall_mem_cons.mp h
    obtain ⟨hok, hfreed, hperm⟩ := ih hrest
    obtain ⟨hfreed', hperm'⟩ := adfInitBank_made hbank
    simp only [initBanks, hbank, if_true, flatMap_cons]
    exact ⟨hok, by rw [hfreed, hfreed']; rfl, hperm'.append hperm⟩

/-- Only what belongs to one of the banks is freed. -/
lemma rings_notMem_freed (h : bank ∉ banks) : Block.rings bank ∉ (initBanks hw fails banks).freed := by
  induction banks with
  | nil => exact not_mem_nil
  | cons b banks ih =>
    obtain ⟨hne, hbanks⟩ := ne_and_not_mem_of_not_mem_cons h
    have hb : Block.rings bank ∉ (adfInitBank hw fails b).freed := by
      unfold adfInitBank
      split_ifs <;> simp [freeBank, hne]
    unfold initBanks
    dsimp only
    split
    · simpa [hb] using ih hbanks
    · exact hb

lemma initBanks_ok : (initBanks hw fails banks).ok = true ↔ ∀ bank ∈ banks, (adfInitBank hw fails bank).ok = true := by
  refine ⟨fun hok => ?_, fun h => (initBanks_made h).1⟩
  induction banks with
  | nil => simp
  | cons bank banks ih =>
    unfold initBanks at hok
    dsimp only at hok
    split at hok
    next hbank => exact forall_mem_cons.mpr ⟨hbank, ih hok⟩
    next hbank => exact absurd hok hbank

/-- If a bank fails, what was allocated is freed exactly if it is the first one. -/
lemma initBanks_failed (hbank : bank ∉ banks) :
    (initBanks hw fails (bank :: banks)).ok = false → ((initBanks hw fails (bank :: banks)).freed.Perm
      (initBanks hw fails (bank :: banks)).allocated ↔ (adfInitBank hw fails bank).ok = false) := by
  unfold initBanks
  dsimp only
  split
  next hok =>
    obtain ⟨hfreed, hperm⟩ := adfInitBank_made hok
    refine fun _ => iff_of_false (fun hclean => ?_) (by simp [hok])
    have hmem : Block.rings bank ∈ (adfInitBank hw fails bank).allocated := hperm.mem_iff.mp (by simp [freeBank])
    rw [hfreed, nil_append] at hclean
    exact rings_notMem_freed hbank (hclean.mem_iff.mpr (mem_append_left _ hmem))
  next => exact fun hok => iff_of_true (adfInitBank_failed hok) hok

variable (hw fails)

/-- Everything that was allocated is freed once, by a call that fails or after one that does not. -/
def EtrClean : Prop :=
  let made := adfInitEtrData hw fails
  if made.ok then made.freed = [] ∧ (adfCleanupEtrData hw fails).Perm made.allocated
  else made.freed.Perm made.allocated

/-- **Nothing is lost exactly if** the call fails before a bank has been set up, or not at all. -/
theorem etrData_clean_iff : EtrClean hw fails ↔
    (fails.kzalloc .etrData = true ∨ fails.kzalloc .banks = true ∨ fails.transportDir = true) ∨
      BankFails hw fails 0 ∨ ∀ bank < hw.numBanks, ¬ BankFails hw fails bank := by
  rw [← not_not (a := BankFails hw fails 0)]
  simp only [← adfInitBank_ok_iff, Bool.not_eq_true]
  unfold EtrClean adfInitEtrData
  split_ifs with hdata hbanks hdir
  · simp [hdata]
  · simp [hbanks]
  · simp [hdir, List.Perm.swap]
  rw [or_iff_right (by simp [hdata, hbanks, hdir])]
  dsimp only
  rcases hok : (initBanks hw fails (range hw.numBanks)).ok with _ | _
  · have hall : ¬ ∀ bank < hw.numBanks, (adfInitBank hw fails bank).ok = true := fun h => by
      have hmade := (@initBanks_made hw fails (range hw.numBanks) (by simpa using h)).1
      simp [hok] at hmade
    have hlast (l l' : List Block) : (l ++ [Block.banks, .etrData]).Perm (.etrData :: .banks :: l') ↔ l.Perm l' := by
      rw [perm_append_comm.congr_left]
      exact ((List.Perm.swap _ _ _).congr_left _).trans ((perm_cons _).trans (perm_cons _))
    obtain ⟨n, hn⟩ : ∃ n, hw.numBanks = n + 1 :=
      Nat.exists_eq_succ_of_ne_zero fun h => hall fun bank hbank => absurd (h ▸ hbank) (Nat.not_lt_zero _)
    rw [or_iff_left hall]
    rw [hn, range_succ_eq_map] at hok ⊢
    simpa [hlast, hok] using initBanks_failed (by simp) hok
  · have hall := initBanks_ok.mp hok
    obtain ⟨-, hfreed, hperm⟩ := initBanks_made hall
    refine iff_of_true ⟨by simp [hfreed], ?_⟩ (Or.inr (fun bank hbank => hall bank (mem_range.mpr hbank)))
    exact perm_append_comm.trans ((List.Perm.swap _ _ _).trans ((hperm.cons _).cons _))

/-- **The rings of the first bank are lost** if there is no memory for those of the second one. -/
theorem first_bank_lost : ∃ hw fails, (adfInitEtrData hw fails).ok = false ∧
    Block.rings 0 ∈ (adfInitEtrData hw fails).allocated ∧ Block.rings 0 ∉ (adfInitEtrData hw fails).freed ∧
      ¬ EtrClean hw fails := by
  refine ⟨⟨2, 16, 0xff, 8⟩, ⟨fun block => block = .rings 1, false, fun _ => false⟩, by decide, by decide, by decide, ?_⟩
  intro hclean
  have hmem := List.Perm.mem_iff (a := Block.rings 0) hclean
  exact absurd hmem (by decide)

end QuickAssist.Transport
