import QuickAssist.Cfg.Bundle
import QuickAssist.Lib.Words

/-!
# Columns of ring pairs

A ring pair of the same number in every bundle is a column. It serves two instances a bundle, and there are four.
`adf_cfg_get_serv_ena_mask` works out how many columns the instances need, as a `u8`, and puts the services of the
tokens into the mask. `MaskServes` is what the mask should be.

**The defects.** `serv_ena_mask_iff` is about every list of tokens and all counts. Two things go wrong for lists the
driver passes on. The check of `cy` adds the columns of crypto as if each had one ring pair, where it has two: two
columns of `cy` and one of `dc` pass, and nothing is left for `dc`. And 256 columns are none as a `u8`.
Lists with more than one of `cy`, `asym` and `sym` are refused by `adf_cfg_chk_serv_ena_tokens` before.
-/

namespace QuickAssist.Cfg

open Option

/-! ## What is needed and what there is -/

def colsNeeded (numInst bundleNum : ℕ) : ℕ := if numInst = 0 then 0 else (numInst - 1) / (2 * bundleNum) + 1

lemma colInst_eq (numInst bundleNum : ℕ) : colInst numInst bundleNum = colsNeeded numInst bundleNum % 2 ^ 8 := by
  unfold colInst colsNeeded
  split <;> rfl

def ServToken.service : ServToken → ServiceType
  | .cy => .crypto
  | .dc => .comp
  | .asym => .asym
  | .sym => .sym

/-- The columns the mask gives a token's service. A column of `cy` has two ring pairs. -/
def columns (mask : ℕ) (k : ServToken) : ℕ := (pairWalk mask).countP fun p => p.2 = some k.service

def pairsTaken (cols : ServToken → ℕ) : ℕ := 2 * cols .cy + cols .dc + cols .asym + cols .sym

structure MaskServes (mask : ℕ) (requested : ServToken → Bool) (c d : ℕ) : Prop where
  /-- The bits of a ring pair are those of one service, the one that is read from them. -/
  one : ∀ pair < numServices, (pairService mask pair).map ServiceType.val = some (mask >>> (3 * pair) &&& 0x7)
  columns : ∀ k, requested k = true → columns mask k = k.needs c d
  fits : pairsTaken (Cfg.columns mask) ≤ numServices

/-- What is expected of the function: a mask that is returned serves the requested services, and if they need
more ring pairs than there are, none is returned. -/
def MaskRight (requested : ServToken → Bool) (c d : ℕ) (result : Option ℕ) : Prop :=
  (∀ mask, result = some mask → MaskServes mask requested c d) ∧
    (numServices < pairsTaken (fun k => if requested k then k.needs c d else 0) → result = none)

instance (mask : ℕ) (requested : ServToken → Bool) (c d : ℕ) : Decidable (MaskServes mask requested c d) :=
  decidable_of_iff
    ((∀ pair < numServices, (pairService mask pair).map ServiceType.val = some (mask >>> (3 * pair) &&& 0x7)) ∧
      (∀ k ∈ [ServToken.cy, .dc, .asym, .sym], requested k = true → columns mask k = k.needs c d) ∧
      pairsTaken (columns mask) ≤ numServices)
    ⟨fun h => ⟨h.1, fun k => h.2.1 k (by cases k <;> simp), h.2.2⟩, fun h => ⟨h.one, fun k _ => h.columns k, h.fits⟩⟩

/-- **All masks.** For up to four columns of each kind and every set of requested services whose checks pass, the
mask serves them if they get on. -/
theorem serves_unionBits_small : ∀ cy dc asym sym : Bool, ∀ c < 5, ∀ d < 5,
    (∀ k ∈ [ServToken.cy, .dc, .asym, .sym], requests cy dc asym sym k = true → accepted c d k) →
      (MaskServes (unionBits (requests cy dc asym sym) c d) (requests cy dc asym sym) c d ↔
        GetOn (requests cy dc asym sym) c d) := by
  decide +kernel

/-! ## Any numbers of columns -/

variable {k : ServToken} {requested : ServToken → Bool} {c d mask : ℕ} {tokens : List (List Char)}

lemma MaskServes.congr {c d c' d' : ℕ}
    (h : MaskServes mask requested c d) (hneeds : ∀ k, requested k = true → k.needs c d = k.needs c' d') :
    MaskServes mask requested c' d' :=
  ⟨h.one, fun k hk => (h.columns k hk).trans (hneeds k hk), h.fits⟩

/-- **The mask serves services that get on**, for any numbers of columns that pass. -/
theorem serves_unionBits_iff (h : ∀ k, requested k = true → accepted c d k) :
    MaskServes (unionBits requested c d) requested c d ↔ GetOn requested c d := by
  obtain ⟨c', hc', d', hd', hbits, hacc, hneeds, hget⟩ := exists_small h
  have hsmall := serves_unionBits_small (requested .cy) (requested .dc) (requested .asym) (requested .sym)
    c' hc' d' hd'
  rw [← eq_requests requested] at hsmall
  rw [hget, hbits, ← hsmall fun k _ => hacc k]
  constructor
  · intro hserves
    exact hserves.congr hneeds
  · intro hserves
    exact hserves.congr fun k hk => (hneeds k hk).symm

/-! ## The result -/

lemma pairsTaken_mono {f g : ServToken → ℕ} (h : ∀ k, f k ≤ g k) : pairsTaken f ≤ pairsTaken g := by
  have hcy := h .cy
  have hdc := h .dc
  have hasym := h .asym
  have hsym := h .sym
  unfold pairsTaken
  omega

lemma le_pairsTaken (f : ServToken → ℕ) (k : ServToken) : f k ≤ pairsTaken f := by
  unfold pairsTaken
  cases k <;> omega

lemma MaskServes.pairsTaken_le (h : MaskServes mask requested c d) :
    pairsTaken (fun k => if requested k then k.needs c d else 0) ≤ numServices := by
  refine (pairsTaken_mono ?_).trans h.fits
  intro k
  split
  · next hk => exact Nat.le_of_eq (h.columns k hk).symm
  · exact Nat.zero_le _

lemma MaskServes.needs_le
    (h : MaskServes mask requested c d) (hk : requested k = true) : k.needs c d ≤ numServices := by
  rw [← h.columns k hk]
  exact (le_pairsTaken (Cfg.columns mask) k).trans h.fits

lemma maskRight_iff {result : Option ℕ} :
    MaskRight requested c d result ↔ ∀ mask, result = some mask → MaskServes mask requested c d := by
  refine ⟨fun h => h.1, fun h => ⟨h, ?_⟩⟩
  intro hmany
  by_contra hsome
  obtain ⟨mask, hmask⟩ := ne_none_iff_exists'.mp hsome
  exact absurd (h mask hmask).pairsTaken_le (Nat.not_le_of_lt hmany)

lemma columns_mod_eq_iff : (∀ k, requested k = true → k.needs (c % 2 ^ 8) (d % 2 ^ 8) = k.needs c d) ↔
      ((requested .cy ∨ requested .asym ∨ requested .sym) → c < 2 ^ 8) ∧ (requested .dc → d < 2 ^ 8) := by
  have hmod : ∀ n : ℕ, n % 2 ^ 8 = n ↔ n < 2 ^ 8 := fun n => Nat.mod_eq_iff_lt (by decide)
  constructor
  · intro h
    refine ⟨?_, fun hdc => (hmod d).mp (h .dc hdc)⟩
    rintro (hcy | hasym | hsym)
    · exact (hmod c).mp (h .cy hcy)
    · exact (hmod c).mp (h .asym hasym)
    · exact (hmod c).mp (h .sym hsym)
  · rintro ⟨hc, hd⟩ k hk
    cases k with
    | cy => exact (hmod c).mpr (hc (Or.inl hk))
    | dc => exact (hmod d).mpr (hd hk)
    | asym => exact (hmod c).mpr (hc (Or.inr (Or.inl hk)))
    | sym => exact (hmod c).mpr (hc (Or.inr (Or.inr hk)))

/-- The tokens' services need fewer than 256 columns and get on, if all tokens pass the checks in eight bits. -/
def GetOnIfPass (tokens : List (List Char)) (c d : ℕ) : Prop :=
  (∀ t ∈ tokens, ∃ k, servToken t = some k ∧ accepted (c % 2 ^ 8) (d % 2 ^ 8) k) →
    (((enabled tokens .cy ∨ enabled tokens .asym ∨ enabled tokens .sym) → c < 2 ^ 8) ∧
        (enabled tokens .dc → d < 2 ^ 8)) ∧
      GetOn (enabled tokens) (c % 2 ^ 8) (d % 2 ^ 8)
  deriving Decidable

/-- **When the mask is right:** if the services of tokens that pass the checks need fewer than 256 columns and
get on. -/
theorem serv_ena_mask_iff (tokens : List (List Char)) (numCyInst numDcInst : U16) (bundleNum : ℕ) :
    MaskRight (enabled tokens) (colsNeeded numCyInst.toNat bundleNum) (colsNeeded numDcInst.toNat bundleNum)
        (getServEnaMask tokens numCyInst.toNat numDcInst.toNat bundleNum) ↔
      GetOnIfPass tokens (colsNeeded numCyInst.toNat bundleNum) (colsNeeded numDcInst.toNat bundleNum) := by
  generalize hc : colsNeeded numCyInst.toNat bundleNum = c
  generalize hd : colsNeeded numDcInst.toNat bundleNum = d
  rw [maskRight_iff]
  unfold getServEnaMask GetOnIfPass
  rw [colInst_eq, colInst_eq, hc, hd]
  simp only [servEnaLoop_eq_some_iff, Nat.zero_or]
  constructor
  · intro h hpass
    have haccepted := accepted_of_enabled hpass
    have hserves := h _ ⟨hpass, rfl⟩
    -- four columns are fewer than 256
    have hneeds : ∀ k, enabled tokens k = true → k.needs (c % 2 ^ 8) (d % 2 ^ 8) = k.needs c d := by
      intro k hk
      have hle : k.needs c d ≤ 4 := hserves.needs_le hk
      cases k <;> exact Nat.mod_eq_of_lt (Nat.lt_of_le_of_lt hle (by decide))
    refine ⟨columns_mod_eq_iff.mp hneeds, ?_⟩
    exact (serves_unionBits_iff haccepted).mp (hserves.congr fun k hk => (hneeds k hk).symm)
  · rintro h mask ⟨hpass, rfl⟩
    have haccepted := accepted_of_enabled hpass
    obtain ⟨hsmall, hget⟩ := h hpass
    exact ((serves_unionBits_iff haccepted).mpr hget).congr (columns_mod_eq_iff.mpr hsmall)

/-- A column of symmetric crypto and three of compression, on sixteen banks. -/
theorem sym_and_dc_served : let tokens := [['s', 'y', 'm'], ['d', 'c']]
    getServEnaMask tokens 20 90 16 = some 0o2232 ∧
      MaskRight (enabled tokens) 1 3 (getServEnaMask tokens 20 90 16) := by
  refine ⟨by decide, ?_⟩
  exact (serv_ena_mask_iff [['s', 'y', 'm'], ['d', 'c']] 20 90 16).mpr (by decide)

/-- **Crypto and compression do not fit, and nobody says so:** the mask has no column for the compression
instance, and none for 8192 crypto instances. -/
theorem cy_and_dc_do_not_fit : let cyDc := [['c', 'y'], ['d', 'c']]
    (colsNeeded 33 16 = 2 ∧ colsNeeded 1 16 = 1 ∧ getServEnaMask cyDc 33 1 16 = some 0o3111 ∧
        columns 0o3111 .dc = 0 ∧ ¬ MaskRight (enabled cyDc) 2 1 (getServEnaMask cyDc 33 1 16)) ∧
      (colsNeeded 8192 16 = 256 ∧ getServEnaMask [['c', 'y']] 8192 0 16 = some 0 ∧ columns 0 .cy = 0 ∧
        ¬ MaskRight (enabled [['c', 'y']]) 256 0 (getServEnaMask [['c', 'y']] 8192 0 16)) := by
  intro cyDc
  refine ⟨⟨by decide, by decide, by decide, by decide, ?_⟩, by decide, by decide, by decide, ?_⟩
  · intro h
    have hdc := (h.1 0o3111 (by decide)).columns .dc (by decide)
    exact absurd hdc (by decide)
  · intro h
    have hcy := (h.1 0 (by decide)).columns .cy (by decide)
    exact absurd hcy (by decide)

end QuickAssist.Cfg
