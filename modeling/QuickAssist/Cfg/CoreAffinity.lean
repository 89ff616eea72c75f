import QuickAssist.Cfg.Sections
import QuickAssist.Cfg.Tokens

/-!
# The cores of an instance

`adf_cfg_set_core_number_for_instance` reads a value such as `0,2-5` and takes a core for a process. It copies the
parts between commas into tokens of ten bytes, writes the cores of each into an array of 256 and takes the one at the
process number, modulo the number of cores.

**The defects.** Nothing bounds the cores of a range: `0-256` is written past the array. The last token is copied
with the size of a value in place of that of a token, so that it is written past its buffer if it is longer than nine
characters; another token of that length is cut to nine, and may be another number then. `core_number_iff` is about
the values whose tokens before the last are not cut. A range up to the largest `unsigned long` has no cores, and is
refused if there are no others.
-/

namespace QuickAssist.Cfg

open Lib Option List

/-! ## Numbers -/

def decimal (ds : List Char) : ℕ := ds.foldl (fun n c => 10 * n + (c.toNat - '0'.toNat)) 0

def dropPlus (s : List Char) : List Char := if s.head? = some '+' then s.tail else s

/-- Source: `kstrtoul` with base 10, of the kernel: an optional plus, digits, an optional newline. -/
def kstrtoul (s : List Char) : Option ℕ :=
  let ds := (dropPlus s).takeWhile Char.isDigit
  let rest := (dropPlus s).dropWhile Char.isDigit
  if ds = [] then none
  else if 2 ^ 64 ≤ decimal ds then none
  else if rest = [] ∨ rest = ['\n'] then some (decimal ds)
  else none

/-! ## The function -/

def maxTokenLen : ℕ := 10

/-- `ADF_CFG_MAX_CORE_NUM`, which is `ADF_CFG_MAX_TOKENS` too -/
def maxCoreNum : ℕ := 256

/-- What `strlcpy` copies besides the zero at the end. -/
def strlcpy (src : List Char) (size : ℕ) : List Char := src.take (size - 1)

/-- The tokens, and what is left in `core_val`; the last token is copied with another size. Source: the first
loop of `adf_cfg_set_core_number_for_instance`. -/
def copyTokens : ℕ → List Char → List (List Char) × List Char
  | 0, coreVal => ([], coreVal)
  | n + 1, coreVal =>
    match cut ',' coreVal with
    | none => ([strlcpy coreVal maxValLenInBytes], coreVal)
    | some (token, rest) => (strlcpy token maxTokenLen :: (copyTokens n rest).1, (copyTokens n rest).2)

/-- The cores of a token. The bound of the range is an `unsigned long`. -/
def tokenCores (token : List Char) : Option (List ℕ) :=
  match cut '-' token with
  | none => (kstrtoul token).map fun coreNum => [coreNum]
  | some (a, b) =>
    (kstrtoul a).bind fun start =>
      (kstrtoul b).bind fun stop => if stop < start then none else some (range' start ((stop + 1) % 2 ^ 64 - start))

/-- The cores of all tokens, written behind those that are in the array.
Source: the second loop of `adf_cfg_set_core_number_for_instance`. -/
def parseTokens : List (List Char) → List ℕ → Option (List ℕ)
  | [], coreNumArr => some coreNumArr
  | t :: ts, coreNumArr => (tokenCores t).bind fun cores => parseTokens ts (coreNumArr ++ cores)

structure CoreRun where
  coreNumber : ℕ
  tokens : List (List Char)
  coreNumArr : List ℕ
  deriving DecidableEq

def setCoreNumberForInstance (coreVal : List Char) (processNum : ℕ) : Option CoreRun :=
  let (tokens, coreVal) := copyTokens (coreVal.length + 1) coreVal
  (parseTokens tokens []).bind fun coreNumArr =>
    (if coreNumArr = [] then (kstrtoul coreVal).map fun coreNum => [coreNum] else some coreNumArr).bind
      fun coreNumArr => (coreNumber coreNumArr processNum).map fun core => ⟨core, tokens, coreNumArr⟩

/-! ## What is expected -/

def expandToken (token : List Char) : Option (List ℕ) :=
  match cut '-' token with
  | none => (kstrtoul token).map fun coreNum => [coreNum]
  | some (a, b) =>
    (kstrtoul a).bind fun start =>
      (kstrtoul b).bind fun stop => if stop < start then none else some (range' start (stop + 1 - start))

def collect (f : List Char → Option (List ℕ)) : List (List Char) → Option (List ℕ)
  | [] => some []
  | t :: ts => (f t).bind fun cores => (collect f ts).map fun rest => cores ++ rest

def expand (coreVal : List Char) : Option (List ℕ) := collect expandToken (coreVal.splitOn ',')

/-- Every write was inside: each token and its zero fit ten bytes, and there are no more than 256 tokens and 256
cores. -/
structure CoreRun.Inside (r : CoreRun) : Prop where
  tokens : r.tokens.length ≤ maxCoreNum
  token : ∀ t ∈ r.tokens, t.length + 1 ≤ maxTokenLen
  coreNumArr : r.coreNumArr.length ≤ maxCoreNum

def CoreRight (coreVal : List Char) (processNum : ℕ) : Prop :=
  ∀ r, setCoreNumberForInstance coreVal processNum = some r →
    (∃ cores, expand coreVal = some cores ∧ coreNumber cores processNum = some r.coreNumber) ∧ r.Inside

/-- A range up to the largest `unsigned long`. -/
def FullRange (token : List Char) : Prop := ∃ a b, cut '-' token = some (a, b) ∧ kstrtoul b = some (2 ^ 64 - 1)

def lastPiece (coreVal : List Char) : List Char := (coreVal.splitOn ',').getLast (splitOn_ne_nil ',' coreVal)

/-! ## Numbers that are short -/

variable {s t : List Char} {n : ℕ} {cores : List ℕ} {ts : List (List Char)} (f : List Char → Option (List ℕ))

lemma kstrtoul_eq_some (h : kstrtoul s = some n) :
    ∃ ds rest, dropPlus s = ds ++ rest ∧ (∀ c ∈ ds, c.isDigit = true) ∧ (rest = [] ∨ rest = ['\n']) ∧
      n = decimal ds ∧ n < 2 ^ 64 := by
  simp only [kstrtoul] at h
  split at h
  · cases h
  · split at h
    · cases h
    · next hlt =>
      split_ifs at h with hrest
      cases h
      refine ⟨_, _, List.takeWhile_append_dropWhile.symm, ?_, hrest, rfl, Nat.lt_of_not_le hlt⟩
      exact fun c hc => List.all_eq_true.mp all_takeWhile c hc

lemma length_dropPlus_le (s : List Char) : (dropPlus s).length ≤ s.length := by
  unfold dropPlus
  split
  · rw [length_tail]
    omega
  · exact Nat.le_refl _

lemma foldl_decimal_lt (ds : List Char) (n : ℕ) (hds : ∀ c ∈ ds, c.isDigit = true) :
    ds.foldl (fun n c => 10 * n + (c.toNat - '0'.toNat)) n < (n + 1) * 10 ^ ds.length := by
  induction ds generalizing n with
  | nil => simp
  | cons c ds ih =>
    have hc : c.toNat - '0'.toNat ≤ 9 := by
      have hdigit := hds c mem_cons_self
      simp only [Char.isDigit, Bool.and_eq_true, decide_eq_true_eq, ge_iff_le] at hdigit
      have hle : c.toNat ≤ 57 := hdigit.2
      have hzero : '0'.toNat = 48 := rfl
      omega
    have hrest := ih (10 * n + (c.toNat - '0'.toNat)) fun x hx => hds x (mem_cons_of_mem c hx)
    rw [foldl_cons, length_cons, Nat.pow_succ']
    calc _ < (10 * n + (c.toNat - '0'.toNat) + 1) * 10 ^ ds.length := hrest
      _ ≤ ((n + 1) * 10) * 10 ^ ds.length := Nat.mul_le_mul_right _ (by omega)
      _ = (n + 1) * (10 * 10 ^ ds.length) := Nat.mul_assoc _ _ _

lemma kstrtoul_lt (h : kstrtoul s = some n) : n < 10 ^ s.length := by
  obtain ⟨ds, rest, hs, hds, -, rfl, -⟩ := kstrtoul_eq_some h
  have hlt := foldl_decimal_lt ds 0 hds
  rw [Nat.zero_add, Nat.one_mul] at hlt
  have hlen := length_dropPlus_le s
  rw [hs, length_append] at hlen
  exact Nat.lt_of_lt_of_le hlt (Nat.pow_le_pow_right (by decide) (by omega))

lemma kstrtoul_of_mem (h : '-' ∈ s) : kstrtoul s = none := by
  rcases hs : kstrtoul s with _ | n
  · rfl
  · obtain ⟨ds, rest, hsplit, hds, hrest, -⟩ := kstrtoul_eq_some hs
    have hmem : '-' ∈ dropPlus s := by
      unfold dropPlus
      split
      · next hplus =>
        rcases s with _ | ⟨c, s⟩
        · cases h
        · cases hplus
          exact (List.mem_cons.mp h).resolve_left (by decide)
      · exact h
    rw [hsplit] at hmem
    rcases List.mem_append.mp hmem with hmem | hmem
    · exact absurd (hds _ hmem) (by decide)
    · rcases hrest with rfl | rfl
      · cases hmem
      · exact absurd (List.mem_singleton.mp hmem) (by decide)

/-! ## Tokens and their cores -/

lemma tokenCores_eq (t : List Char) (h : ¬ FullRange t) : tokenCores t = expandToken t := by
  unfold tokenCores expandToken
  split
  · rfl
  · next a b hcut =>
    rcases ha : kstrtoul a with _ | start
    · rfl
    · rcases hb : kstrtoul b with _ | stop
      · rfl
      · obtain ⟨-, -, -, -, -, -, hlt⟩ := kstrtoul_eq_some hb
        have hne : stop ≠ 2 ^ 64 - 1 := by
          rintro rfl
          exact h ⟨a, b, hcut, hb⟩
        have hmod : (stop + 1) % 2 ^ 64 = stop + 1 := Nat.mod_eq_of_lt (by omega)
        simp only [bind_some, hmod]

lemma tokenCores_of_fullRange (h : FullRange t) (hexp : expandToken t = some cores) : tokenCores t = some [] := by
  obtain ⟨a, b, hcut, hb⟩ := h
  unfold expandToken at hexp
  unfold tokenCores
  rw [hcut] at hexp ⊢
  simp only [bind_eq_some_iff] at hexp
  obtain ⟨start, ha, stop, hstop, hrange⟩ := hexp
  rw [hb] at hstop
  cases hstop
  split_ifs at hrange with hle
  have hzero : (2 ^ 64 - 1 + 1) % 2 ^ 64 - start = 0 := by omega
  simp only [ha, hb, bind_some, if_neg hle, hzero, range'_zero]

lemma tokenCores_eq_none (h : expandToken t = none) : tokenCores t = none := by
  by_cases hfull : FullRange t
  · obtain ⟨a, b, hcut, hb⟩ := hfull
    unfold expandToken at h
    unfold tokenCores
    rw [hcut] at h ⊢
    rcases ha : kstrtoul a with _ | start
    · simp [ha]
    · obtain ⟨-, -, -, -, -, -, hlt⟩ := kstrtoul_eq_some ha
      have hnot : ¬ 2 ^ 64 - 1 < start := by omega
      simp only [ha, hb, bind_some, if_neg hnot, reduceCtorEq] at h
  · rw [tokenCores_eq t hfull, h]

lemma expandToken_ne_nil (h : expandToken t = some cores) : cores ≠ [] := by
  unfold expandToken at h
  split at h
  · obtain ⟨n, -, rfl⟩ := map_eq_some_iff.mp h
    exact cons_ne_nil n []
  · simp only [bind_eq_some_iff] at h
    obtain ⟨start, -, stop, -, hrange⟩ := h
    split_ifs at hrange
    cases hrange
    apply ne_nil_of_length_pos
    rw [length_range']
    omega

lemma FullRange.length_gt (h : FullRange t) : 9 < t.length := by
  obtain ⟨a, b, hcut, hb⟩ := h
  have hlt := kstrtoul_lt hb
  have hlen := length_lt_of_cut_eq_some hcut
  by_contra hle
  have hpow : 10 ^ b.length ≤ 10 ^ 9 := Nat.pow_le_pow_right (by decide) (by omega)
  omega

/-! ## Lists of tokens -/

lemma collect_congr {f g : List Char → Option (List ℕ)} (h : ∀ t ∈ ts, f t = g t) : collect f ts = collect g ts := by
  induction ts with
  | nil => rfl
  | cons t ts ih => rw [collect, collect, h t mem_cons_self, ih fun t' ht' => h t' (mem_cons_of_mem t ht')]

lemma collect_concat (ts : List (List Char)) (t : List Char) :
    collect f (ts ++ [t]) = (collect f ts).bind fun a => (f t).map fun b => a ++ b := by
  induction ts with
  | nil =>
    simp only [nil_append, collect]
    rcases f t with _ | b <;> simp
  | cons x xs ih =>
    simp only [cons_append, collect, ih]
    rcases f x with _ | a
    · rfl
    · rcases collect f xs with _ | b
      · rfl
      · rcases f t with _ | c <;> simp

lemma parseTokens_eq (ts : List (List Char)) (coreNumArr : List ℕ) :
    parseTokens ts coreNumArr = (collect tokenCores ts).map fun cores => coreNumArr ++ cores := by
  induction ts generalizing coreNumArr with
  | nil => simp [parseTokens, collect]
  | cons t ts ih =>
    simp only [parseTokens, collect, ih]
    rcases tokenCores t with _ | a
    · rfl
    · rcases collect tokenCores ts with _ | b <;> simp

lemma collect_ne_nil (hts : ts ≠ []) (h : collect expandToken ts = some cores) : cores ≠ [] := by
  obtain ⟨t, ts, rfl⟩ := exists_cons_of_ne_nil hts
  rw [collect, bind_eq_some_iff] at h
  obtain ⟨a, ha, hrest⟩ := h
  obtain ⟨b, -, rfl⟩ := map_eq_some_iff.mp hrest
  exact append_ne_nil_of_left_ne_nil (expandToken_ne_nil ha) b

lemma copyTokens_eq (coreVal : List Char) (hn : coreVal.length < n) : copyTokens n coreVal =
      ((coreVal.splitOn ',').dropLast.map (fun t => strlcpy t maxTokenLen) ++
        [strlcpy (lastPiece coreVal) maxValLenInBytes], lastPiece coreVal) := by
  induction coreVal using cut_induction ',' generalizing n with
  | single l hcut =>
    rcases n with _ | n
    · exact absurd hn (Nat.not_lt_zero _)
    · simp only [copyTokens, hcut, lastPiece, splitOn_of_cut_eq_none hcut]
      rfl
  | more l a b hcut ih =>
    rcases n with _ | n
    · exact absurd hn (Nat.not_lt_zero _)
    · have hlt := length_lt_of_cut_eq_some hcut
      have hne := splitOn_ne_nil ',' b
      have hlast : lastPiece l = lastPiece b := by
        simp only [lastPiece, splitOn_of_cut_eq_some hcut]
        exact getLast_cons hne
      have hdrop : (l.splitOn ',').dropLast = a :: (b.splitOn ',').dropLast := by
        rw [splitOn_of_cut_eq_some hcut]
        exact dropLast_cons_of_ne_nil hne
      simp [copyTokens, hcut, ih (n := n) (by omega), hlast, hdrop]

lemma copyTokens_of_short {coreVal : List Char} (hval : coreVal.length < maxValLenInBytes)
    (hshort : ∀ t ∈ (coreVal.splitOn ',').dropLast, t.length < maxTokenLen) :
    copyTokens (coreVal.length + 1) coreVal = (coreVal.splitOn ',', lastPiece coreVal) := by
  have hlast : lastPiece coreVal ∈ coreVal.splitOn ',' := getLast_mem _
  have hlen := length_le_of_mem_splitOn hlast
  have htake : strlcpy (lastPiece coreVal) maxValLenInBytes = lastPiece coreVal := take_of_length_le (by omega)
  have hmap : (coreVal.splitOn ',').dropLast.map (fun t => strlcpy t maxTokenLen) =
      (coreVal.splitOn ',').dropLast := by
    rw [map_congr_left (g := id), List.map_id]
    intro t ht
    exact take_of_length_le (Nat.le_sub_one_of_lt (hshort t ht))
  rw [copyTokens_eq coreVal (Nat.lt_succ_self _), hmap, htake]
  exact congrArg (fun ts => (ts, lastPiece coreVal)) (dropLast_append_getLast _)

/-! ## The result -/

lemma exists_coreNumber (h : cores ≠ []) (processNum : ℕ) : ∃ core, coreNumber cores processNum = some core :=
  ⟨_, List.getElem?_eq_getElem (Nat.mod_lt processNum (length_pos_of_ne_nil h))⟩

lemma lastPiece_eq_of_single {coreVal t : List Char} (h : coreVal.splitOn ',' = [t]) :
    lastPiece coreVal = t ∧ t = coreVal := by
  refine ⟨by simp only [lastPiece, h]; rfl, ?_⟩
  rcases hcut : cut ',' coreVal with _ | ⟨a, b⟩
  · rw [splitOn_of_cut_eq_none hcut] at h
    exact (List.cons.inj h).1.symm
  · rw [splitOn_of_cut_eq_some hcut] at h
    exact absurd (List.cons.inj h).2 (splitOn_ne_nil ',' b)

lemma collect_splitOn (coreVal : List Char) : collect f (coreVal.splitOn ',') =
      (collect f (coreVal.splitOn ',').dropLast).bind fun a => (f (lastPiece coreVal)).map fun b => a ++ b := by
  rw [← collect_concat]
  exact congrArg (collect f) (dropLast_append_getLast _).symm

section Value

variable {coreVal : List Char} (hval : coreVal.length < maxValLenInBytes)
  (hshort : ∀ t ∈ (coreVal.splitOn ',').dropLast, t.length < maxTokenLen)

include hval hshort

lemma setCoreNumber_eq (processNum : ℕ) : setCoreNumberForInstance coreVal processNum =
      (collect tokenCores (coreVal.splitOn ',')).bind fun arr =>
        (if arr = [] then (kstrtoul (lastPiece coreVal)).map fun coreNum => [coreNum] else some arr).bind
          fun arr => (coreNumber arr processNum).map fun core => ⟨core, coreVal.splitOn ',', arr⟩ := by
  unfold setCoreNumberForInstance
  simp only [copyTokens_of_short hval hshort, parseTokens_eq, nil_append]
  rcases collect tokenCores (coreVal.splitOn ',') with _ | arr <;> rfl

lemma setCoreNumber_of_collect {arr : List ℕ} (h : collect tokenCores (coreVal.splitOn ',') = some arr)
    (hne : arr ≠ []) (processNum : ℕ) : ∃ core, coreNumber arr processNum = some core ∧
      setCoreNumberForInstance coreVal processNum = some ⟨core, coreVal.splitOn ',', arr⟩ := by
  obtain ⟨core, hcore⟩ := exists_coreNumber hne processNum
  rw [setCoreNumber_eq hval hshort, h]
  simp [if_neg hne, hcore]

lemma inside_iff (core : ℕ) (arr : List ℕ) : CoreRun.Inside ⟨core, coreVal.splitOn ',', arr⟩ ↔
      (lastPiece coreVal).length < maxTokenLen ∧ arr.length ≤ maxCoreNum := by
  have hlast : lastPiece coreVal ∈ coreVal.splitOn ',' := getLast_mem _
  constructor
  · intro h
    exact ⟨h.token _ hlast, h.coreNumArr⟩
  · rintro ⟨hlen, harr⟩
    refine ⟨?_, ?_, harr⟩
    · have hcount := length_splitOn_le ',' coreVal
      change (coreVal.splitOn ',').length ≤ maxCoreNum
      unfold maxValLenInBytes at hval
      unfold maxCoreNum
      omega
    · intro t ht
      rw [← dropLast_append_getLast (splitOn_ne_nil ',' coreVal)] at ht
      rcases List.mem_append.mp ht with ht | ht
      · exact hshort t ht
      · rw [List.mem_singleton.mp ht]
        exact hlen

omit hval in
lemma collect_dropLast :
    collect tokenCores (coreVal.splitOn ',').dropLast = collect expandToken (coreVal.splitOn ',').dropLast := by
  apply collect_congr
  intro t ht
  apply tokenCores_eq
  intro hfull
  have hlt := hshort t ht
  have hgt := hfull.length_gt
  unfold maxTokenLen at hlt
  omega

lemma setCoreNumber_of_expand_eq_none (hexp : expand coreVal = none) (processNum : ℕ) :
    setCoreNumberForInstance coreVal processNum = none := by
  have hnone : collect tokenCores (coreVal.splitOn ',') = none := by
    unfold expand at hexp
    rw [collect_splitOn] at hexp
    rw [collect_splitOn, collect_dropLast hshort]
    rcases ha : collect expandToken (coreVal.splitOn ',').dropLast with _ | a
    · rfl
    · rw [ha, bind_some, map_eq_none_iff] at hexp
      rw [bind_some, tokenCores_eq_none hexp]
      rfl
  rw [setCoreNumber_eq hval hshort, hnone]
  rfl

lemma setCoreNumber_of_single_fullRange (hsingle : coreVal.splitOn ',' = [coreVal])
    (hfull : FullRange coreVal) (hexp : expand coreVal = some cores) (processNum : ℕ) :
    setCoreNumberForInstance coreVal processNum = none := by
  have htoken : expandToken coreVal = some cores := by
    rw [expand, hsingle, collect, bind_eq_some_iff] at hexp
    obtain ⟨a, ha, hrest⟩ := hexp
    cases hrest
    simpa using ha
  have hcollect : collect tokenCores (coreVal.splitOn ',') = some [] := by
    rw [hsingle, collect, tokenCores_of_fullRange hfull htoken]
    rfl
  have hdash : '-' ∈ lastPiece coreVal := by
    obtain ⟨x, y, hcut, -⟩ := hfull
    rw [(lastPiece_eq_of_single hsingle).1, (cut_eq_some hcut).1]
    exact mem_append_right _ mem_cons_self
  rw [setCoreNumber_eq hval hshort, hcollect, kstrtoul_of_mem hdash]
  rfl

lemma not_coreRight_of_fullRange (hfull : FullRange (lastPiece coreVal))
    (hmore : (coreVal.splitOn ',').dropLast ≠ []) (hexp : expand coreVal = some cores)
    (processNum : ℕ) : ¬ CoreRight coreVal processNum := by
  unfold expand at hexp
  rw [collect_splitOn, bind_eq_some_iff] at hexp
  obtain ⟨a, ha, hlast⟩ := hexp
  obtain ⟨b, hb, -⟩ := map_eq_some_iff.mp hlast
  have hcollect : collect tokenCores (coreVal.splitOn ',') = some a := by
    rw [collect_splitOn, collect_dropLast hshort, ha, tokenCores_of_fullRange hfull hb]
    simp
  obtain ⟨core, -, hset⟩ := setCoreNumber_of_collect hval hshort hcollect (collect_ne_nil hmore ha) processNum
  intro hright
  have hlen := ((inside_iff hval hshort core a).mp (hright _ hset).2).1
  have hgt := hfull.length_gt
  unfold maxTokenLen at hlen
  omega

lemma coreRight_iff_of_not_fullRange (hfull : ¬ FullRange (lastPiece coreVal))
    (hexp : expand coreVal = some cores) (processNum : ℕ) :
    CoreRight coreVal processNum ↔ (lastPiece coreVal).length < maxTokenLen ∧ cores.length ≤ maxCoreNum := by
  have hcollect : collect tokenCores (coreVal.splitOn ',') = some cores := by
    rw [← hexp, expand, collect_splitOn, collect_splitOn expandToken, collect_dropLast hshort, tokenCores_eq _ hfull]
  obtain ⟨core, hcore, hset⟩ :=
    setCoreNumber_of_collect hval hshort hcollect (collect_ne_nil (splitOn_ne_nil ',' coreVal) hexp) processNum
  rw [← inside_iff hval hshort core cores]
  constructor
  · intro hright
    exact (hright _ hset).2
  · intro hinside r hr
    rw [hset] at hr
    cases hr
    exact ⟨⟨cores, hexp, hcore⟩, hinside⟩

end Value

/-- **When the core is right.** The tokens before the last are taken to have at most nine characters. -/
theorem core_number_iff (coreVal : List Char) (processNum : ℕ) (hval : coreVal.length < maxValLenInBytes)
    (hshort : ∀ t ∈ (coreVal.splitOn ',').dropLast, t.length < maxTokenLen) :
    CoreRight coreVal processNum ↔ ∀ cores, expand coreVal = some cores →
        ((lastPiece coreVal).length < maxTokenLen ∧ cores.length ≤ maxCoreNum) ∨
          (coreVal.splitOn ',' = [coreVal] ∧ FullRange coreVal) := by
  rcases hexp : expand coreVal with _ | cores
  · constructor
    · intro _ cores hcores
      cases hcores
    · intro _ r hr
      rw [setCoreNumber_of_expand_eq_none hval hshort hexp] at hr
      cases hr
  · have hforall : ∀ P : List ℕ → Prop, (∀ cores', some cores = some cores' → P cores') ↔ P cores := by
      simp
    rw [hforall]
    by_cases hfull : FullRange (lastPiece coreVal)
    · have hlong : ¬ (lastPiece coreVal).length < maxTokenLen := by
        have hgt := hfull.length_gt
        unfold maxTokenLen
        omega
      by_cases hmore : (coreVal.splitOn ',').dropLast = []
      · -- the range is the value
        have hsingle : coreVal.splitOn ',' = [lastPiece coreVal] := by
          rw [← dropLast_append_getLast (splitOn_ne_nil ',' coreVal), hmore]
          rfl
        have heq := (lastPiece_eq_of_single hsingle).2
        rw [heq] at hsingle hfull
        refine ⟨fun _ => Or.inr ⟨hsingle, hfull⟩, fun _ r hr => ?_⟩
        rw [setCoreNumber_of_single_fullRange hval hshort hsingle hfull hexp] at hr
        cases hr
      · constructor
        · intro hright
          exact absurd hright (not_coreRight_of_fullRange hval hshort hfull hmore hexp processNum)
        · rintro (⟨hlen, -⟩ | ⟨hsingle, -⟩)
          · exact absurd hlen hlong
          · rw [hsingle] at hmore
            exact absurd rfl hmore
    · rw [coreRight_iff_of_not_fullRange hval hshort hfull hexp processNum]
      constructor
      · exact Or.inl
      · rintro (hlen | ⟨hsingle, hfull'⟩)
        · exact hlen
        · rw [(lastPiece_eq_of_single hsingle).1] at hfull
          exact absurd hfull' hfull

/-- Cores 0 and 2 to 5, for process 6. -/
theorem core_of_process_six :
    setCoreNumberForInstance ['0', ',', '2', '-', '5'] 6 = some ⟨2, [['0'], ['2', '-', '5']], [0, 2, 3, 4, 5]⟩ ∧
      CoreRight ['0', ',', '2', '-', '5'] 6 := by
  refine ⟨by decide, ?_⟩
  apply (core_number_iff ['0', ',', '2', '-', '5'] 6 (by decide) (by decide)).mpr
  intro cores hcores
  cases hcores
  exact Or.inl (by decide)

/-- **Cores are written past their arrays**, as are tokens, and a first token of ten characters becomes another
number. -/
theorem cores_written_past_array :
    (∃ r, setCoreNumberForInstance ['0', '-', '2', '5', '6'] 3 = some r ∧ r.coreNumArr.length = 257 ∧
        ¬ CoreRight ['0', '-', '2', '5', '6'] 3) ∧
      (∃ r, setCoreNumberForInstance ['1', ',', '0', '0', '0', '0', '0', '0', '0', '0', '0', '0', '0', '2'] 0 = some r ∧
        (∃ t ∈ r.tokens, t.length + 1 = 13) ∧
        ¬ CoreRight ['1', ',', '0', '0', '0', '0', '0', '0', '0', '0', '0', '0', '0', '2'] 0) ∧
      (∃ r, setCoreNumberForInstance ['0', '0', '0', '0', '0', '0', '0', '0', '1', '2', ',', '3'] 0 = some r ∧
        r.coreNumber = 1 ∧ expand ['0', '0', '0', '0', '0', '0', '0', '0', '1', '2', ',', '3'] = some [12, 3] ∧
        ¬ CoreRight ['0', '0', '0', '0', '0', '0', '0', '0', '1', '2', ',', '3'] 0) := by
  refine ⟨?_, ?_, ?_⟩
  · have hrun : setCoreNumberForInstance ['0', '-', '2', '5', '6'] 3 =
      some ⟨3, [['0', '-', '2', '5', '6']], range' 0 257⟩ := by decide +kernel
    refine ⟨_, hrun, length_range', fun h => ?_⟩
    have hlen := (h _ hrun).2.coreNumArr
    rw [length_range'] at hlen
    exact absurd hlen (by decide)
  · refine ⟨_, rfl, by decide, fun h => ?_⟩
    have hinside := (h _ rfl).2
    exact absurd (hinside.token _ (mem_cons_of_mem _ mem_cons_self)) (by decide)
  · refine ⟨_, rfl, rfl, by decide, fun h => ?_⟩
    obtain ⟨⟨cores, hexp, hcore⟩, -⟩ := h _ rfl
    cases hexp
    exact absurd hcore (by decide)

end QuickAssist.Cfg
