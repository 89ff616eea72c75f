import Mathlib.Data.Option.Basic
import QuickAssist.Lib.Split

/-!
# Splitting a value into tokens

`adf_cfg_get_token_val_str` splits a value such as the one of `ServicesEnabled` at semicolons. It allocates a buffer
for each token and puts the pointer into the caller's array, up to eight times. The caller,
`adf_cfg_get_services_enabled`, has an array of sixteen that is not initialised, and frees as many pointers as it was
told there are tokens.

**The defect.** The number of tokens is the index at which the loop was left plus one. A loop that was not left has
its index one further: a value of nine pieces has eight tokens and the number nine, and the caller frees a pointer
nobody has written (`nine_pieces`). Besides, the empty piece after a last semicolon is dropped, where all other empty
pieces are tokens. `token_val_str_iff` says that nothing else goes wrong.
-/

namespace QuickAssist.Cfg

open Lib Option List

/-! ## The function -/

def maxTokensInConfig : ℕ := 8

/-- `ADF_CFG_MAX_NUM_OF_TOKENS`, the size of the caller's array -/
def maxNumOfTokens : ℕ := 16

/-- `ADF_CFG_MAX_KEY_LEN_IN_BYTES`, the size of a token's buffer -/
def maxKeyLenInBytes : ℕ := 128

def maxValLenInBytes : ℕ := 128

structure TokenArray where
  /-- `tokens`, `none` for a pointer that was not written. -/
  tokens : ℕ → Option (List Char)
  tokenNum : ℕ

/-- The array as `adf_cfg_get_services_enabled` declares it. -/
def TokenArray.declared : TokenArray := ⟨fun _ => none, 0⟩

/-- The return codes of `adf_cfg_get_token_val_str`. -/
inductive TokenRet
  | ok
  | enomem
  deriving DecidableEq

/-- The inner loop of `adf_cfg_get_token_val_str`: the characters copied, and what is left of the value. -/
def copyToken : List Char → List Char × List Char
  | [] => ([], [])
  | c :: ptr => if c = ';' then ([], ptr) else (c :: (copyToken ptr).1, (copyToken ptr).2)

/-- The outer loop, with `n` rounds to go: the index it ends with, `none` for a failed allocation, and the array. -/
def tokenLoop (kzallocOk : ℕ → Bool) :
    (n i : ℕ) → List Char → (ℕ → Option (List Char)) → Option ℕ × (ℕ → Option (List Char))
  | 0, i, _, tokens => (some i, tokens)
  | n + 1, i, ptr, tokens =>
    if kzallocOk i = false then (none, tokens)
    else
      let (str, ptr) := copyToken ptr
      let tokens := Function.update tokens i (some str)
      if ptr = [] then (some i, tokens) else tokenLoop kzallocOk n (i + 1) ptr tokens

def getTokenValStr (kzallocOk : ℕ → Bool) (val : List Char) (s : TokenArray) : TokenRet × TokenArray :=
  match tokenLoop kzallocOk maxTokensInConfig 0 val s.tokens with
  | (none, tokens) => (.enomem, ⟨tokens, s.tokenNum⟩)
  | (some i, tokens) => (.ok, ⟨tokens, i + 1⟩)

/-! ## What is expected -/

structure TokensRight (val : List Char) (s : TokenArray) : Prop where
  pieces : (range s.tokenNum).map s.tokens = (val.splitOn ';').map some
  /-- The number is that of the pointers written, so that the others are not freed. -/
  initialised : ∀ i, s.tokens i ≠ none ↔ i < s.tokenNum
  limit : s.tokenNum ≤ maxNumOfTokens
  buffer : ∀ i str, s.tokens i = some str → str.length + 1 ≤ maxKeyLenInBytes

/-! ## The tokens the loop writes -/

lemma copyToken_eq (ptr : List Char) : copyToken ptr = (cut ';' ptr).getD (ptr, []) := by
  induction ptr with
  | nil => rfl
  | cons c ptr ih =>
    simp only [copyToken, cut, ih]
    split
    · rfl
    · cases cut ';' ptr <;> rfl

/-- The tokens that are written in at most `n` rounds. -/
def written : ℕ → List Char → List (List Char)
  | 0, _ => []
  | n + 1, ptr => (copyToken ptr).1 :: if (copyToken ptr).2 = [] then [] else written n (copyToken ptr).2

/-- The loop is left within `n` rounds. -/
def isLeft : ℕ → List Char → Bool
  | 0, _ => false
  | n + 1, ptr => decide ((copyToken ptr).2 = []) || isLeft n (copyToken ptr).2

lemma tokenLoop_eq_some {kzallocOk : ℕ → Bool} {n i j : ℕ} {ptr : List Char}
    {tokens tokens' : ℕ → Option (List Char)} (h : tokenLoop kzallocOk n i ptr tokens = (some j, tokens')) :
    j + 1 = i + (written n ptr).length + (if isLeft n ptr then 0 else 1) ∧ ∀ k, tokens' k =
        if i ≤ k ∧ k < i + (written n ptr).length then (written n ptr)[k - i]? else tokens k := by
  induction n generalizing i ptr tokens with
  | zero =>
    obtain ⟨hj, rfl⟩ := Prod.mk.inj h
    obtain rfl := Option.some.inj hj
    refine ⟨by simp [written, isLeft], fun k => ?_⟩
    have hnone : ¬ (i ≤ k ∧ k < i + (written 0 ptr).length) := by simp [written]
    rw [if_neg hnone]
  | succ n ih =>
    simp only [tokenLoop] at h
    split at h
    · cases h
    · split at h
      · next hend =>
        obtain ⟨hj, rfl⟩ := Prod.mk.inj h
        obtain rfl := Option.some.inj hj
        refine ⟨by simp [written, isLeft, hend], fun k => ?_⟩
        by_cases hk : k = i
        · subst hk
          simp [written, hend]
        · have hnot : ¬ (i ≤ k ∧ k < i + (written (n + 1) ptr).length) := by
            simp [written, hend]
            omega
          rw [if_neg hnot, Function.update_of_ne hk]
      · next hend =>
        obtain ⟨hnum, htokens⟩ := ih h
        have hlen : (written (n + 1) ptr).length = (written n (copyToken ptr).2).length + 1 := by
          simp [written, hend]
        have hleft : isLeft (n + 1) ptr = isLeft n (copyToken ptr).2 := by simp [isLeft, hend]
        refine ⟨by rw [hlen, hleft]; omega, fun k => ?_⟩
        rw [htokens k, hlen]
        by_cases hk : k = i
        · -- written in this round, and kept by the others
          subst hk
          simp [written]
        · rw [Function.update_of_ne hk]
          by_cases hin : i + 1 ≤ k ∧ k < i + 1 + (written n (copyToken ptr).2).length
          · rw [if_pos hin, if_pos (by omega), show k - i = k - (i + 1) + 1 by omega]
            simp [written, hend]
          · rw [if_neg hin, if_neg (by omega)]

/-- **All pieces are written if there are few and none is dropped.** -/
theorem written_eq_iff (n : ℕ) (ptr : List Char) : isLeft n ptr = true ∧ written n ptr = ptr.splitOn ';' ↔
      (ptr.splitOn ';').length ≤ n ∧ ptr.getLast? ≠ some ';' := by
  induction n generalizing ptr with
  | zero =>
    have hne := splitOn_ne_nil ';' ptr
    simp [isLeft, hne]
  | succ n ih =>
    rcases hcut : cut ';' ptr with _ | ⟨a, b⟩
    · -- the last piece
      have hcopy : copyToken ptr = (ptr, []) := by rw [copyToken_eq, hcut]; rfl
      have hlast : ptr.getLast? ≠ some ';' := by
        intro h
        exact cut_eq_none_iff.mp hcut (List.mem_of_getLast? h)
      rw [splitOn_of_cut_eq_none hcut]
      simp [isLeft, written, hcopy, hlast]
    · have hcopy : copyToken ptr = (a, b) := by rw [copyToken_eq, hcut]; rfl
      obtain ⟨hptr, -⟩ := cut_eq_some hcut
      rw [splitOn_of_cut_eq_some hcut]
      by_cases hb : b = []
      · -- nothing after the semicolon
        subst hb
        have hlast : ptr.getLast? = some ';' := by
          rw [hptr]
          exact getLast?_concat
        simp [isLeft, written, hcopy, hlast]
      · have hlast : ptr.getLast? = b.getLast? := by
          rw [hptr, getLast?_append_of_ne_nil _ (cons_ne_nil ';' b), getLast?_cons_of_ne_nil hb]
        have hrest := ih b
        simp only [isLeft, written, hcopy, hb, decide_false, Bool.false_or, ↓reduceIte, List.cons.injEq,
          true_and, length_cons, Nat.add_le_add_iff_right, hlast]
        exact hrest

/-! ## The result -/

lemma map_range_of_written {tokens : ℕ → Option (List Char)} {l : List (List Char)}
    (h : ∀ k, tokens k = l[k]?) : (range l.length).map tokens = l.map some := by
  apply ext_getElem?
  intro k
  rw [List.getElem?_map, List.getElem?_map]
  by_cases hk : k < l.length
  · rw [List.getElem?_range hk, map_some, h k, List.getElem?_eq_getElem hk, map_some]
  · rw [List.getElem?_eq_none (by simpa using Nat.le_of_not_lt hk),
      List.getElem?_eq_none (Nat.le_of_not_lt hk), map_none, map_none]

/-- **When the tokens are right:** if there are at most eight pieces and the value does not end with a
semicolon. -/
theorem token_val_str_iff (kzallocOk : ℕ → Bool) (val : List Char) (hval : val.length < maxValLenInBytes) :
    let r := getTokenValStr kzallocOk val TokenArray.declared
    (r.1 = .enomem → r.2.tokenNum = 0) ∧ (r.1 = .ok → (TokensRight val r.2 ↔
          (val.splitOn ';').length ≤ maxTokensInConfig ∧ val.getLast? ≠ some ';')) := by
  intro r
  rcases hloop : tokenLoop kzallocOk maxTokensInConfig 0 val TokenArray.declared.tokens with ⟨_ | j, tokens⟩
  · have hr : r = (.enomem, ⟨tokens, 0⟩) := by
      change getTokenValStr kzallocOk val TokenArray.declared = _
      simp only [getTokenValStr, hloop]
      rfl
    rw [hr]
    exact ⟨fun _ => rfl, fun h => (nomatch h)⟩
  · have hr : r = (.ok, ⟨tokens, j + 1⟩) := by
      change getTokenValStr kzallocOk val TokenArray.declared = _
      simp only [getTokenValStr, hloop]
    rw [hr]
    refine ⟨fun h => (nomatch h), fun _ => ?_⟩
    obtain ⟨hnum, htokens⟩ := tokenLoop_eq_some hloop
    set l := written maxTokensInConfig val with hl
    have hget : ∀ k, tokens k = l[k]? := by
      intro k
      rw [htokens k]
      by_cases hk : k < l.length
      · rw [if_pos (by omega), Nat.sub_zero]
      · rw [if_neg (by omega), List.getElem?_eq_none (Nat.le_of_not_lt hk)]
        rfl
    rw [← written_eq_iff, ← hl]
    constructor
    · intro h
      -- the pointers written and the number agree only if the loop was left
      have hleft : isLeft maxTokensInConfig val = true := by
        by_contra hnot
        rw [if_neg hnot] at hnum
        have hlen : tokens l.length ≠ none := (h.initialised l.length).mpr (by change _ < j + 1; omega)
        exact hlen (by rw [hget]; exact List.getElem?_eq_none (Nat.le_refl _))
      rw [if_pos hleft] at hnum
      refine ⟨hleft, ?_⟩
      have hpieces := h.pieces
      rw [hnum, Nat.zero_add, Nat.add_zero, map_range_of_written hget] at hpieces
      exact List.map_injective_iff.mpr (some_injective _) hpieces
    · rintro ⟨hleft, hpieces⟩
      rw [if_pos hleft] at hnum
      have hlen : j + 1 = l.length := by omega
      have hcount := ((written_eq_iff maxTokensInConfig val).mp ⟨hleft, hpieces⟩).1
      refine ⟨?_, ?_, ?_, ?_⟩
      · rw [hlen, map_range_of_written hget, hpieces]
      · intro i
        change tokens i ≠ none ↔ i < j + 1
        rw [hget, hlen, ne_eq, List.getElem?_eq_none_iff, Nat.not_le]
      · rw [hlen, hpieces]
        exact Nat.le_trans hcount (by decide)
      · intro i str hstr
        change tokens i = some str at hstr
        rw [hget, hpieces] at hstr
        have hshort := length_le_of_mem_splitOn (mem_of_getElem? hstr)
        unfold maxValLenInBytes at hval
        unfold maxKeyLenInBytes
        omega

/-- Two services. -/
theorem two_services_split : let r := getTokenValStr (fun _ => true) ['c', 'y', ';', 'd', 'c'] TokenArray.declared
    r.2.tokenNum = 2 ∧ TokensRight ['c', 'y', ';', 'd', 'c'] r.2 := by
  refine ⟨by decide, ?_⟩
  exact ((token_val_str_iff (fun _ => true) ['c', 'y', ';', 'd', 'c'] (by decide)).2 (by decide)).mpr (by decide)

/-- **Nine pieces have a token nobody wrote**, and a semicolon at the end leaves one token, where one at the
beginning gives two. -/
theorem nine_pieces :
    let nine := ['a', ';', 'b', ';', 'c', ';', 'd', ';', 'e', ';', 'f', ';', 'g', ';', 'h', ';', 'i']
    let r := getTokenValStr (fun _ => true) nine TokenArray.declared
    (r.1 = .ok ∧ r.2.tokenNum = 9 ∧ r.2.tokens 7 = some ['h'] ∧ r.2.tokens 8 = none ∧ ¬ TokensRight nine r.2) ∧
      (getTokenValStr (fun _ => true) ['a', ';'] TokenArray.declared).2.tokenNum = 1 ∧
      (getTokenValStr (fun _ => true) [';', 'a'] TokenArray.declared).2.tokenNum = 2 := by
  intro nine r
  refine ⟨⟨by decide, by decide, by decide, by decide, ?_⟩, by decide, by decide⟩
  intro h
  have hnine := (h.initialised 8).mpr (by decide)
  exact hnine (by decide)

end QuickAssist.Cfg
