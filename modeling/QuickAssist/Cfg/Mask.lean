import Mathlib.Data.List.Basic
import Mathlib.Data.Nat.Bitwise

/-!
# Which services a device enables

The sixteen rings of a bundle are four pairs of request rings and their response rings. Which service each pair is
for is written in a mask, three bits for each pair, that `adf_cfg_get_services_enabled` computes from the tokens of
`ServicesEnabled` and the numbers of instances. A pair whose bits say `CRYPTO` takes the next pair with it, the first
for asymmetric and the second for symmetric requests.

**What is settled here.** `servicesEnabled_spec`: there are 32 masks. The bits of different tokens are or-ed,
and two of the masks have a pair with the bits of two services.
-/

namespace QuickAssist.Cfg

open Option List

/-! ## The configuration -/

/-- `enum adf_cfg_service_type` -/
inductive ServiceType
  | na
  | crypto
  | comp
  | sym
  | asym
  | used
  deriving DecidableEq

def ServiceType.val : ServiceType → ℕ
  | .na => 0
  | .crypto => 1
  | .comp => 2
  | .sym => 3
  | .asym => 4
  | .used => 5

/-- A token of `ServicesEnabled`. -/
inductive ServToken
  | cy
  | dc
  | asym
  | sym
  deriving DecidableEq

def servToken (token : List Char) : Option ServToken :=
  if ['c', 'y'].isPrefixOf token then some .cy
  else if ['d', 'c'].isPrefixOf token then some .dc
  else if ['a', 's', 'y', 'm'].isPrefixOf token then some .asym
  else if ['s', 'y', 'm'].isPrefixOf token then some .sym
  else none

/-- What `adf_cfg_get_services_enabled` reads: the tokens of `ServicesEnabled`, and what the device and the
other sections say. -/
structure ServicesCfg where
  tokens : List (List Char)
  capSym : Bool
  capAsym : Bool
  capComp : Bool
  isVf : Bool
  numBanks : ℕ
  /-- What `adf_cfg_get_intr_inst` counts; `none` if it fails. -/
  numIntrInst : Option ℕ
  /-- What `adf_cfg_get_num_of_inst` counts, of crypto and of compression instances; `none` if it
  fails. -/
  numInst : Option (ℕ × ℕ)

/-! ## The mask -/

def enabled (tokens : List (List Char)) (k : ServToken) : Bool := tokens.any fun t => servToken t = some k

def chkServEnaTokens (cfg : ServicesCfg) : Bool :=
  let cy := enabled cfg.tokens .cy
  let dc := enabled cfg.tokens .dc
  let asym := enabled cfg.tokens .asym
  let sym := enabled cfg.tokens .sym
  if !(cfg.capSym && cfg.capAsym) && cy then false
  else if !cfg.capSym && sym then false
  else if !cfg.capAsym && asym then false
  else if !cfg.capComp && dc then false
  else if cy && asym then false
  else if cy && sym then false
  else if asym && sym then false
  else true

/-- The bits of a service for a ring pair.
Source: the shifts by `ADF_CFG_SERV_RING_PAIR_0_SHIFT` to `ADF_CFG_SERV_RING_PAIR_3_SHIFT`. -/
def pairBits (s : ServiceType) (pair : ℕ) : ℕ := s.val <<< (3 * pair)

def defServMask : ℕ := pairBits .crypto 0 ||| pairBits .crypto 1 ||| pairBits .na 2 ||| pairBits .comp 3

/-- The bits a token adds to the mask, for numbers of columns of instances; `none` if there are too
many.
Source: the loop body of `adf_cfg_get_serv_ena_mask`. -/
def servEnaBits (colCyInst colDcInst : ℕ) : ServToken → Option ℕ
  | .cy =>
    if 0 < colCyInst ∧ 3 < colCyInst + colDcInst then none
    else
      match colCyInst with
      | 0 => some 0
      | 1 => some (pairBits .crypto 0 ||| pairBits .crypto 1)
      | 2 => some (pairBits .crypto 0 ||| pairBits .crypto 1 ||| pairBits .crypto 2 |||
          pairBits .crypto 3)
      | _ => none
  | .dc =>
    match colDcInst with
    | 0 => some 0
    | 1 => some (pairBits .comp 3)
    | 2 => some (pairBits .comp 3 ||| pairBits .comp 2)
    | 3 => some (pairBits .comp 3 ||| pairBits .comp 2 ||| pairBits .comp 1)
    | 4 => some (pairBits .comp 3 ||| pairBits .comp 2 ||| pairBits .comp 1 ||| pairBits .comp 0)
    | _ => none
  | .asym =>
    if 0 < colCyInst ∧ 4 < colCyInst + colDcInst then none
    else
      match colCyInst with
      | 0 => some 0
      | 1 => some (pairBits .asym 0 ||| if colDcInst = 3 then pairBits .comp 1 else 0)
      | 2 => some (pairBits .asym 0 ||| pairBits .asym 1)
      | 3 => some (pairBits .asym 0 ||| pairBits .asym 1 ||| pairBits .asym 2)
      | 4 => some (pairBits .asym 0 ||| pairBits .asym 1 ||| pairBits .asym 2 ||| pairBits .asym 3)
      | _ => none
  | .sym =>
    if 0 < colCyInst ∧ 4 < colCyInst + colDcInst then none
    else
      match colCyInst with
      | 0 => some 0
      | 1 => some (pairBits .sym 1 ||| if colDcInst = 3 then pairBits .comp 0 else 0)
      | 2 => some (pairBits .sym 1 ||| pairBits .sym 0)
      | 3 => some (pairBits .sym 1 ||| pairBits .sym 0 ||| pairBits .sym 2)
      | 4 => some (pairBits .sym 1 ||| pairBits .sym 0 ||| pairBits .sym 2 ||| pairBits .sym 3)
      | _ => none

def servEnaLoop (colCyInst colDcInst : ℕ) : List (List Char) → ℕ → Option ℕ
  | [], mask => some mask
  | t :: ts, mask =>
    (servToken t).bind fun k =>
      (servEnaBits colCyInst colDcInst k).bind fun bits => servEnaLoop colCyInst colDcInst ts (mask ||| bits)

/-- The number of columns of a number of instances, as a `u8`. -/
def colInst (numInst bundleNum : ℕ) : ℕ := if numInst = 0 then 0 else ((numInst - 1) / (2 * bundleNum) + 1) % 2 ^ 8

def getServEnaMask (tokens : List (List Char)) (numCyInst numDcInst bundleNum : ℕ) : Option ℕ :=
  servEnaLoop (colInst numCyInst bundleNum) (colInst numDcInst bundleNum) tokens 0

def getServicesEnabled (cfg : ServicesCfg) : Option ℕ :=
  if !chkServEnaTokens cfg then none
  else if cfg.isVf then some defServMask
  else
    cfg.numIntrInst.bind fun numIntrInst =>
      if 0 < numIntrInst then some defServMask
      else
        cfg.numInst.bind fun (numCyInst, numDcInst) =>
          if numCyInst ≤ 2 * cfg.numBanks ∧ numDcInst ≤ 2 * cfg.numBanks then some defServMask
          else getServEnaMask cfg.tokens numCyInst numDcInst cfg.numBanks

/-! ## What the checks let pass -/

/-- The columns a token's service needs, of the columns that crypto and compression instances need. -/
def ServToken.needs (c d : ℕ) : ServToken → ℕ
  | .cy => c
  | .dc => d
  | .asym => c
  | .sym => c

def accepted (c d : ℕ) : ServToken → Prop
  | .cy => c = 0 ∨ (c ≤ 2 ∧ c + d ≤ 3)
  | .dc => d ≤ 4
  | .asym => c = 0 ∨ c + d ≤ 4
  | .sym => c = 0 ∨ c + d ≤ 4

instance (c d : ℕ) (k : ServToken) : Decidable (accepted c d k) := by
  cases k <;> dsimp only [accepted] <;> infer_instance

/-- Two columns of `cy` and one of `dc` are requested: the last ring pair gets the bits of both. -/
def Crowded (requested : ServToken → Bool) (c d : ℕ) : Prop := requested .cy ∧ requested .dc ∧ c = 2 ∧ d = 1
  deriving Decidable

/-- What `adf_cfg_chk_serv_ena_tokens` refuses: crypto requested in two ways. -/
def OneCrypto (requested : ServToken → Bool) : Prop :=
  ¬ (requested .cy ∧ requested .asym) ∧ ¬ (requested .cy ∧ requested .sym) ∧ ¬ (requested .asym ∧ requested .sym)
  deriving Decidable

/-- The services that are requested together get on: `cy` with two columns excludes `dc`, and of `cy`, `asym`
and `sym` one has columns, or the last two have one each. -/
def GetOn (requested : ServToken → Bool) (c d : ℕ) : Prop :=
  ¬ Crowded requested c d ∧ (c = 0 ∨ OneCrypto requested ∨ (requested .cy = false ∧ c = 1 ∧ d ≤ 2))
  deriving Decidable

def unionBits (requested : ServToken → Bool) (c d : ℕ) : ℕ :=
  let bits := fun k => if requested k then (servEnaBits c d k).getD 0 else 0
  bits .cy ||| bits .dc ||| bits .asym ||| bits .sym

def requests (cy dc asym sym : Bool) : ServToken → Bool
  | .cy => cy
  | .dc => dc
  | .asym => asym
  | .sym => sym

variable {k : ServToken} {requested : ServToken → Bool} {c d mask : ℕ} {tokens : List (List Char)} {cfg : ServicesCfg}

lemma isSome_servEnaBits_iff (c d : ℕ) (k : ServToken) : (servEnaBits c d k).isSome ↔ accepted c d k := by
  cases k with
  | cy =>
    simp only [servEnaBits, accepted]
    split
    · next h => simp; omega
    · next h => rcases c with _ | _ | _ | c <;> simp <;> omega
  | dc =>
    simp only [servEnaBits, accepted]
    rcases d with _ | _ | _ | _ | _ | d <;> simp
  | asym | sym =>
    simp only [servEnaBits, accepted]
    split
    · next h => simp; omega
    · next h => rcases c with _ | _ | _ | _ | _ | c <;> simp <;> omega

/-! ## The loop -/

lemma unionBits_cons {t : List Char} (hk : servToken t = some k) (ts : List (List Char)) (c d : ℕ) :
    unionBits (enabled (t :: ts)) c d = (servEnaBits c d k).getD 0 ||| unionBits (enabled ts) c d := by
  have henabled : ∀ x, enabled (t :: ts) x = (decide (k = x) || enabled ts x) := by
    intro x
    simp [enabled, hk]
  have hbit : ∀ (b : Bool) (n i : ℕ), (if b = true then n else 0).testBit i = (b && n.testBit i) := by
    intro b n i
    cases b <;> simp
  apply Nat.eq_of_testBit_eq
  intro i
  simp only [unionBits, henabled, Nat.testBit_or, hbit]
  -- a bit of the token's own is there on both sides, and the others are those of the rest
  rcases hown : ((servEnaBits c d k).getD 0).testBit i with _ | _ <;> cases k <;> simp [hown]

lemma servEnaLoop_eq_some_iff {mask m : ℕ} : servEnaLoop c d tokens mask = some m ↔
      (∀ t ∈ tokens, ∃ k, servToken t = some k ∧ accepted c d k) ∧ m = mask ||| unionBits (enabled tokens) c d := by
  induction tokens generalizing mask with
  | nil => simp [servEnaLoop, unionBits, enabled, eq_comm]
  | cons t ts ih =>
    simp only [servEnaLoop, bind_eq_some_iff, List.forall_mem_cons]
    constructor
    · rintro ⟨k, hk, bits, hbits, hrest⟩
      obtain ⟨hall, rfl⟩ := ih.mp hrest
      have hacc : accepted c d k := (isSome_servEnaBits_iff c d k).mp (by rw [hbits]; rfl)
      refine ⟨⟨⟨k, hk, hacc⟩, hall⟩, ?_⟩
      rw [unionBits_cons hk, hbits, getD_some, Nat.or_assoc]
    · rintro ⟨⟨⟨k, hk, hacc⟩, hall⟩, rfl⟩
      obtain ⟨bits, hbits⟩ := isSome_iff_exists.mp ((isSome_servEnaBits_iff c d k).mpr hacc)
      refine ⟨k, hk, bits, hbits, ih.mpr ⟨hall, ?_⟩⟩
      rw [unionBits_cons hk, hbits, getD_some, Nat.or_assoc]

lemma accepted_of_enabled (hpass : ∀ t ∈ tokens, ∃ k, servToken t = some k ∧ accepted c d k) (k : ServToken)
    (hk : enabled tokens k = true) : accepted c d k := by
  obtain ⟨t, ht, hkt⟩ := List.any_eq_true.mp hk
  obtain ⟨k', hk', hacc⟩ := hpass t ht
  rw [of_decide_eq_true hkt] at hk'
  rwa [← Option.some.inj hk'] at hacc

/-! ## Any numbers of columns -/

lemma servEnaBits_zero (d : ℕ) (hk : k ≠ .dc) : servEnaBits 0 d k = some 0 := by
  cases k with
  | dc => exact absurd rfl hk
  | cy | asym | sym => rfl

lemma eq_requests (requested : ServToken → Bool) :
    requested = requests (requested .cy) (requested .dc) (requested .asym) (requested .sym) := by
  funext k
  cases k <;> rfl

/-- Some numbers of columns may as well be others that are small: with those the mask is the same, the requested
services need the same and get on as well. -/
lemma exists_small (h : ∀ k, requested k = true → accepted c d k) :
    ∃ c' < 5, ∃ d' < 5, unionBits requested c d = unionBits requested c' d' ∧
      (∀ k, requested k = true → accepted c' d' k) ∧
      (∀ k, requested k = true → k.needs c d = k.needs c' d') ∧ (GetOn requested c d ↔ GetOn requested c' d') := by
  rcases hcrypto : (requested .cy || requested .asym || requested .sym) with _ | _
  · -- no service of crypto
    simp only [Bool.or_eq_false_iff] at hcrypto
    obtain ⟨⟨hcy, hasym⟩, hsym⟩ := hcrypto
    rcases hdc : requested .dc with _ | _
    · refine ⟨0, by omega, 0, by omega, ?_, ?_, ?_, ?_⟩
      · simp [unionBits, hcy, hasym, hsym, hdc]
      · intro k hk
        cases k <;> simp_all
      · intro k hk
        cases k <;> simp_all
      · simp [GetOn, Crowded, OneCrypto, hcy, hasym, hsym]
    · have hd : d ≤ 4 := h .dc hdc
      refine ⟨0, by omega, d, by omega, ?_, ?_, ?_, ?_⟩
      · simp [unionBits, hcy, hasym, hsym, hdc, servEnaBits]
      · intro k hk
        cases k <;> simp_all [accepted]
      · intro k hk
        cases k <;> simp_all [ServToken.needs]
      · simp [GetOn, Crowded, OneCrypto, hcy, hasym, hsym]
  · by_cases hc : c = 0
    · subst hc
      by_cases hdc : requested .dc = true
      · exact ⟨0, by omega, d, Nat.lt_succ_of_le (h .dc hdc), rfl, h, fun _ _ => rfl, Iff.rfl⟩
      · -- nothing depends on the columns of compression
        refine ⟨0, by omega, 0, by omega, ?_, ?_, ?_, ?_⟩
        · simp [unionBits, hdc, servEnaBits_zero]
        · intro k hk
          cases k <;> simp_all [accepted]
        · intro k hk
          cases k <;> simp_all [ServToken.needs]
        · simp [GetOn, Crowded]
    · -- the checks of a service of crypto bound both
      have hsum : c + d ≤ 4 := by
        simp only [Bool.or_eq_true] at hcrypto
        rcases hcrypto with (hcy | hasym) | hsym
        · have hacc := h .cy hcy
          simp only [accepted] at hacc
          omega
        · have hacc := h .asym hasym
          simp only [accepted] at hacc
          omega
        · have hacc := h .sym hsym
          simp only [accepted] at hacc
          omega
      exact ⟨c, by omega, d, by omega, rfl, h, fun _ _ => rfl, Iff.rfl⟩

/-! ## The masks there are -/

def servMasks : List ℕ :=
  [0o0000, 0o0004, 0o0011, 0o0024, 0o0030, 0o0032, 0o0033, 0o0044, 0o0333, 0o0444, 0o1111, 0o2000,
    0o2004, 0o2011, 0o2030, 0o2033, 0o2044, 0o2200, 0o2204, 0o2211, 0o2220, 0o2222, 0o2224, 0o2230,
    0o2232, 0o2233, 0o2244, 0o2333, 0o2444, 0o3111, 0o3333, 0o4444]

lemma unionBits_mem_small : ∀ cy dc asym sym : Bool, OneCrypto (requests cy dc asym sym) → ∀ c < 5, ∀ d < 5,
    (∀ k ∈ [ServToken.cy, .dc, .asym, .sym], requests cy dc asym sym k = true → accepted c d k) →
      unionBits (requests cy dc asym sym) c d ∈ servMasks := by
  decide +kernel

lemma unionBits_ne_small : ∀ cy dc asym sym : Bool, ∀ c < 5, ∀ d < 5,
    GetOn (requests cy dc asym sym) c d → unionBits (requests cy dc asym sym) c d ≠ 0o3111 := by
  decide +kernel

lemma getServEnaMask_spec {numCyInst numDcInst bundleNum : ℕ} (hone : OneCrypto (enabled tokens))
    (h : getServEnaMask tokens numCyInst numDcInst bundleNum = some mask) : mask ∈ servMasks ∧
      (mask = 0o3111 → Crowded (enabled tokens) (colInst numCyInst bundleNum) (colInst numDcInst bundleNum)) := by
  obtain ⟨hpass, rfl⟩ := servEnaLoop_eq_some_iff.mp h
  obtain ⟨c', hc', d', hd', hbits, hacc, -, hget⟩ := exists_small (accepted_of_enabled hpass)
  have hmem := unionBits_mem_small (enabled tokens .cy) (enabled tokens .dc) (enabled tokens .asym)
    (enabled tokens .sym)
  have hne := unionBits_ne_small (enabled tokens .cy) (enabled tokens .dc) (enabled tokens .asym)
    (enabled tokens .sym) c' hc' d' hd'
  rw [← eq_requests (enabled tokens)] at hmem hne
  rw [Nat.zero_or, hbits]
  refine ⟨hmem hone c' hc' d' hd' fun k _ => hacc k, fun hmask => ?_⟩
  by_contra hcrowded
  exact hne (hget.mp ⟨hcrowded, Or.inr (Or.inl hone)⟩) hmask

lemma oneCrypto_of_chkServEnaTokens (h : chkServEnaTokens cfg = true) : OneCrypto (enabled cfg.tokens) := by
  simp only [chkServEnaTokens] at h
  split_ifs at h with h₁ h₂ h₃ h₄ hca hcs has
  simp only [Bool.and_eq_true] at hca hcs has
  exact ⟨hca, hcs, has⟩

/-- The instances of a configuration need two columns of `cy` and one of `dc`. -/
def ServicesCfg.Crowded (cfg : ServicesCfg) : Prop :=
  ∃ n ∈ cfg.numInst, Cfg.Crowded (enabled cfg.tokens) (colInst n.1 cfg.numBanks) (colInst n.2 cfg.numBanks)

/-- **The masks that the function returns**, one of them only for configurations that are crowded. -/
theorem servicesEnabled_spec (h : getServicesEnabled cfg = some mask) :
    mask ∈ servMasks ∧ (mask = 0o3111 → cfg.Crowded) := by
  have hdef : defServMask ∈ servMasks ∧ (defServMask = 0o3111 → cfg.Crowded) := ⟨by decide, fun h => nomatch h⟩
  unfold getServicesEnabled at h
  split_ifs at h with hchk hvf
  · cases h
    exact hdef
  · obtain ⟨numIntrInst, -, h⟩ := bind_eq_some_iff.mp h
    split_ifs at h with hintr
    · cases h
      exact hdef
    · obtain ⟨n, hn, h⟩ := bind_eq_some_iff.mp h
      simp only at h
      split_ifs at h with hfew
      · cases h
        exact hdef
      · obtain ⟨hmem, hcrowded⟩ := getServEnaMask_spec (oneCrypto_of_chkServEnaTokens (by simpa using hchk)) h
        exact ⟨hmem, fun hmask => ⟨n, hn, hcrowded hmask⟩⟩

end QuickAssist.Cfg
