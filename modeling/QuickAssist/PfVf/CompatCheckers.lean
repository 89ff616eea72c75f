import QuickAssist.PfVf.Block

/-!
# Registering compatibility checkers

When a VF announces an older version, `adf_iov_compatibility_check` asks every checker in a table of eight whether it
accepts the version. This file runs the functions that fill the table, `adf_iov_register_compat_checker` and
`adf_iov_unregister_compat_checker`, in any sequence.

**The defect.** A registration records the index of the slot it has filled, where the other two functions take the
record for the number of checkers. The last checker registered is never asked, and never unregistered.
-/

namespace QuickAssist.PfVf

open Function List

/-! ## The table -/

def compatCheckerMax : ℕ := 8

/-- The checkers are functions; `γ` is what they are told apart by.
Source: `struct adf_accel_compat_manager`. -/
structure Checkers (γ : Type*) where
  iovCompatCheckers : ℕ → Option γ
  numChker : ℕ

inductive CheckerRet
  | ok
  | enomem
  | efault
  deriving DecidableEq

variable {γ : Type*} {slots : ℕ → Option γ} {n : ℕ}

/-- A manager without checkers, as `kzalloc` and `memzero_explicit` leave it. -/
def Checkers.zero : Checkers γ := ⟨fun _ => none, 0⟩

def adfIovInitCompatManager (kzallocOk : Bool) (cm : Option (Checkers γ)) : Option (Checkers γ) :=
  match cm with
  | none => if kzallocOk then some Checkers.zero else none
  | some _ => some Checkers.zero

section Functions

variable [DecidableEq γ]

/-- The loop of `adf_iov_register_compat_checker`, with `n` slots to go: the slot that was filled, or the error. -/
def registerLoop (cc : γ) : (n num : ℕ) → (ℕ → Option γ) → Option (ℕ × (ℕ → Option γ))
  | 0, _, _ => none
  | n + 1, num, slots =>
    match slots num with
    | some c => if cc = c then none else registerLoop cc n (num + 1) slots
    | none => some (num, update slots num (some cc))

def adfIovRegisterCompatChecker (cm : Option (Checkers γ)) (cc : γ) : CheckerRet × Option (Checkers γ) :=
  match cm with
  | none => (.enomem, none)
  | some m =>
    match registerLoop cc compatCheckerMax 0 m.iovCompatCheckers with
    | none => (.efault, some m)
    -- the slot, and not the number of checkers
    | some (num, slots) => (.ok, some ⟨slots, num⟩)

def adfIovUnregisterCompatChecker (cm : Option (Checkers γ)) (cc : γ) : CheckerRet × Option (Checkers γ) :=
  match cm with
  | none => (.enomem, none)
  | some m =>
    if m.numChker = 0 then (.efault, some m)
    else if m.iovCompatCheckers (m.numChker - 1) = some cc then
      (.ok, some ⟨update m.iovCompatCheckers (m.numChker - 1) none, m.numChker - 1⟩)
    else (.efault, some m)

end Functions

/-- The loop of `adf_iov_compatibility_check`, with `n` checkers to go from `i` on: the answer and the checkers
asked; `none` is a call through a `NULL` pointer. -/
def checkLoop (check : γ → Byte → Byte) (compatVer : Byte) (slots : ℕ → Option γ) :
    (n i : ℕ) → Byte → Option (Byte × List γ)
  | 0, _, compatible => some (compatible, [])
  | n + 1, i, _ =>
    match slots i with
    | none => none
    | some c =>
      if check c compatVer = vfIncompatible then some (vfIncompatible, [c])
      else
        (checkLoop check compatVer slots n (i + 1) (check c compatVer)).map fun r => (r.1, c :: r.2)

def compatibilityCheck (check : γ → Byte → Byte) (cm : Option (Checkers γ)) (compatVer : Byte) :
    Option (Byte × List γ) :=
  match cm with
  | none => some (vfIncompatible, [])
  | some m => checkLoop check compatVer m.iovCompatCheckers m.numChker 0 vfCompatible

/-! ## Histories -/

inductive CheckerCall (γ : Type*)
  | register (cc : γ)
  | unregister (cc : γ)

/-- The manager, and the checkers whose registration succeeded and that were not unregistered since. -/
structure CheckerHistory (γ : Type*) where
  cm : Option (Checkers γ)
  registered : List γ

section Histories

variable [DecidableEq γ]

def CheckerHistory.step (s : CheckerHistory γ) : CheckerCall γ → CheckerHistory γ
  | .register cc =>
    let r := adfIovRegisterCompatChecker s.cm cc
    ⟨r.2, if r.1 = .ok then cc :: s.registered else s.registered⟩
  | .unregister cc =>
    let r := adfIovUnregisterCompatChecker s.cm cc
    ⟨r.2, if r.1 = .ok then s.registered.erase cc else s.registered⟩

def CheckerHistory.run (s : CheckerHistory γ) (calls : List (CheckerCall γ)) : CheckerHistory γ :=
  calls.foldl CheckerHistory.step s

/-- As long as none objects, the check asks the registered checkers, each as often as it is registered. -/
def CheckerHistory.ConsultsRegistered (s : CheckerHistory γ) : Prop :=
  ∀ (check : γ → Byte → Byte) (compatVer : Byte), (∀ c, check c compatVer ≠ vfIncompatible) →
    ∃ compatible consulted, compatibilityCheck check s.cm compatVer = some (compatible, consulted) ∧
      consulted.Perm s.registered

/-- Some calls of `adf_iov_unregister_compat_checker` get rid of the checker. -/
def CheckerHistory.Unregisterable (s : CheckerHistory γ) (c : γ) : Prop :=
  ∃ ccs : List γ, c ∉ (s.run (ccs.map CheckerCall.unregister)).registered

def CheckerHistory.Agrees (s : CheckerHistory γ) : Prop :=
  s.ConsultsRegistered ∧ ∀ c ∈ s.registered, s.Unregisterable c

end Histories

/-! ## Filled slots -/

def filled (slots : ℕ → Option γ) : List γ := (range compatCheckerMax).filterMap slots

lemma filled_update (hn : n < compatCheckerMax) (hnone : slots n = none)
    (c : γ) : (filled (update slots n (some c))).Perm (c :: filled slots) := by
  obtain ⟨l, r, hsplit⟩ := append_of_mem (mem_range.mpr hn)
  have hnodup : (l ++ n :: r).Nodup := hsplit ▸ nodup_range
  have hsame : ∀ i ∈ l ++ r, update slots n (some c) i = slots i := by
    intro i hi
    apply update_of_ne
    rintro rfl
    exact (nodup_cons.mp (nodup_middle.mp hnodup)).1 hi
  rw [forall_mem_append] at hsame
  unfold filled
  rw [hsplit, filterMap_append, filterMap_append, filterMap_congr hsame.1,
    filterMap_cons_some (update_self n (some c) slots), filterMap_congr hsame.2,
    filterMap_cons_none hnone]
  exact perm_middle

lemma length_filterMap_slots {l : List ℕ} (h : ∀ i ∈ l, slots i ≠ none) : (l.filterMap slots).length = l.length := by
  rw [length_filterMap_eq_countP, countP_eq_length.mpr]
  intro i hi
  exact Option.isSome_iff_ne_none.mpr (h i hi)

lemma le_length_filled (hn : n ≤ compatCheckerMax) (h : ∀ i < n, slots i ≠ none) : n ≤ (filled slots).length := by
  have hsub : (range n).Sublist (range compatCheckerMax) := by
    rw [range_eq_range', range_eq_range', ← Nat.add_sub_of_le hn, ← range'_append_1]
    exact sublist_append_left _ _
  have hlen := length_filterMap_slots fun i hi => h i (mem_range.mp hi)
  rw [length_range] at hlen
  calc n = ((range n).filterMap slots).length := hlen.symm
    _ ≤ (filled slots).length := (hsub.filterMap slots).length_le

/-! ## What the functions do to the table -/

variable {s : CheckerHistory γ}

section Steps

variable [DecidableEq γ] {cc : γ}

lemma registerLoop_eq_some {num k : ℕ} {slots' : ℕ → Option γ} (h : registerLoop cc n num slots = some (k, slots')) :
    slots' = update slots k (some cc) ∧ slots k = none ∧ k < num + n ∧ ∀ i, num ≤ i → i < k → slots i ≠ none := by
  induction n generalizing num with
  | zero => cases h
  | succ n ih =>
    simp only [registerLoop] at h
    split at h
    · next c hc =>
      split_ifs at h
      obtain ⟨hslots, hnone, hlt, hfilled⟩ := ih h
      refine ⟨hslots, hnone, by omega, ?_⟩
      intro i hi hik
      by_cases heq : i = num
      · rw [heq, hc]
        exact Option.some_ne_none c
      · exact hfilled i (by omega) hik
    · next hnone =>
      cases h
      exact ⟨rfl, hnone, by omega, fun i hi hik => absurd hi (Nat.not_le_of_lt hik)⟩

/-- What holds of a manager and the registered checkers. The count falls short of the checkers as soon as there
are any. -/
structure Checkers.Inv (m : Checkers γ) (registered : List γ) : Prop where
  perm : (filled m.iovCompatCheckers).Perm registered
  nonnull : ∀ i < m.numChker, m.iovCompatCheckers i ≠ none
  lt : m.numChker < compatCheckerMax
  short : registered = [] ∧ m.numChker = 0 ∨ m.numChker < registered.length

omit [DecidableEq γ] in
lemma inv_zero : (Checkers.zero : Checkers γ).Inv [] :=
  ⟨by simp [filled, Checkers.zero], fun _ hi => absurd hi (Nat.not_lt_zero _), Nat.succ_pos 7, Or.inl ⟨rfl, rfl⟩⟩

def CheckerHistory.Inv (s : CheckerHistory γ) : Prop :=
  match s.cm with
  | none => s.registered = []
  | some m => m.Inv s.registered

lemma inv_register {m : Checkers γ} {registered : List γ} (h : m.Inv registered) {k : ℕ}
    (hloop : registerLoop cc compatCheckerMax 0 m.iovCompatCheckers = some (k, slots)) :
    Checkers.Inv ⟨slots, k⟩ (cc :: registered) := by
  obtain ⟨rfl, hnone, hlt, hfilled⟩ := registerLoop_eq_some hloop
  have hk : k < compatCheckerMax := by omega
  refine ⟨(filled_update hk hnone cc).trans (h.perm.cons cc), ?_, hk, Or.inr ?_⟩
  · intro i hi
    change update m.iovCompatCheckers k (some cc) i ≠ none
    rw [update_of_ne (Nat.ne_of_lt hi)]
    exact hfilled i (Nat.zero_le i) hi
  · -- the slots before the new one are filled, and they are registered
    have hle := le_length_filled hk.le (fun i hi => hfilled i (Nat.zero_le i) hi)
    rw [h.perm.length_eq] at hle
    exact Nat.lt_succ_of_le hle

lemma inv_unregister {m : Checkers γ} {registered : List γ} (h : m.Inv registered)
    (hnum : m.numChker ≠ 0) (hcc : m.iovCompatCheckers (m.numChker - 1) = some cc) :
    Checkers.Inv ⟨update m.iovCompatCheckers (m.numChker - 1) none, m.numChker - 1⟩
      (registered.erase cc) := by
  set k := m.numChker - 1 with hk
  have hlt := h.lt
  have hback : update (update m.iovCompatCheckers k none) k (some cc) = m.iovCompatCheckers := by
    rw [update_idem, ← hcc, update_eq_self]
  have hperm := filled_update (by omega : k < compatCheckerMax) (update_self k none m.iovCompatCheckers) cc
  rw [hback] at hperm
  have hmem : cc ∈ registered := (h.perm.mem_iff).mp (hperm.mem_iff.mpr mem_cons_self)
  have hshort : m.numChker < registered.length := by
    rcases h.short with ⟨-, hzero⟩ | hshort
    · exact absurd hzero hnum
    · exact hshort
  refine ⟨?_, ?_, by change k < compatCheckerMax; omega, Or.inr ?_⟩
  · have hcons := (hperm.symm.trans h.perm).erase cc
    rw [erase_cons_head] at hcons
    exact hcons
  · intro i hi
    change i < k at hi
    change update m.iovCompatCheckers k none i ≠ none
    rw [update_of_ne (Nat.ne_of_lt hi)]
    exact h.nonnull i (by omega)
  · rw [length_erase_of_mem hmem]
    change k < registered.length - 1
    omega

lemma CheckerHistory.Inv.step (h : s.Inv) (call : CheckerCall γ) : (s.step call).Inv := by
  obtain ⟨cm, registered⟩ := s
  rcases cm with _ | m
  · cases call <;> exact h
  · cases call with
    | register cc =>
      rcases hloop : registerLoop cc compatCheckerMax 0 m.iovCompatCheckers with _ | ⟨k, slots⟩
      · simp only [CheckerHistory.step, adfIovRegisterCompatChecker, hloop]
        exact h
      · simp only [CheckerHistory.step, adfIovRegisterCompatChecker, hloop]
        exact inv_register h hloop
    | unregister cc =>
      simp only [CheckerHistory.step, adfIovUnregisterCompatChecker]
      split
      · exact h
      · next hnum =>
        split
        · next hcc => exact inv_unregister h hnum hcc
        · exact h

lemma CheckerHistory.Inv.run (h : s.Inv) (calls : List (CheckerCall γ)) : (s.run calls).Inv := by
  induction calls generalizing s with
  | nil => exact h
  | cons call calls ih => exact ih (h.step call)

lemma registered_step_ne_nil (h : s.Inv) (hne : s.registered ≠ [])
    (call : CheckerCall γ) : (s.step call).registered ≠ [] := by
  obtain ⟨cm, registered⟩ := s
  rcases cm with _ | m
  · exact absurd h hne
  · have hshort : m.numChker < registered.length := h.short.resolve_left fun hnil => hne hnil.1
    cases call with
    | register cc =>
      simp only [CheckerHistory.step]
      split
      · exact cons_ne_nil cc registered
      · exact hne
    | unregister cc =>
      simp only [CheckerHistory.step, adfIovUnregisterCompatChecker]
      split
      · exact hne
      · next hnum =>
        split
        · -- there were two at least
          have hlen : registered.length - 1 ≤ (registered.erase cc).length := le_length_erase
          apply ne_nil_of_length_pos
          change 0 < (registered.erase cc).length
          omega
        · exact hne

end Steps

/-! ## The check -/

lemma checkLoop_of_compatible {check : γ → Byte → Byte} {compatVer : Byte}
    (hcheck : ∀ c, check c compatVer ≠ vfIncompatible) {i : ℕ}
    (h : ∀ j, i ≤ j → j < i + n → slots j ≠ none) (compatible : Byte) :
    ∃ result consulted, checkLoop check compatVer slots n i compatible = some (result, consulted) ∧
      consulted.length = n := by
  induction n generalizing i compatible with
  | zero => exact ⟨compatible, [], rfl, rfl⟩
  | succ n ih =>
    obtain ⟨c, hc⟩ := Option.ne_none_iff_exists'.mp (h i (Nat.le_refl i) (by omega))
    obtain ⟨result, consulted, hrest, hlen⟩ :=
      ih (i := i + 1) (fun j hj hjn => h j (by omega) (by omega)) (check c compatVer)
    refine ⟨result, c :: consulted, ?_, by rw [length_cons, hlen]⟩
    simp [checkLoop, hc, if_neg (hcheck c), hrest]

lemma checkLoop_eq_runCompatCheckers (check : γ → Byte → Byte) (compatVer : Byte)
    {i : ℕ} (h : ∀ j, i ≤ j → j < i + n → slots j ≠ none) (compatible : Byte) :
    (checkLoop check compatVer slots n i compatible).map Prod.fst =
      some (runCompatCheckers compatVer (((range' i n).filterMap slots).map check) compatible) := by
  induction n generalizing i compatible with
  | zero => rfl
  | succ n ih =>
    obtain ⟨c, hc⟩ := Option.ne_none_iff_exists'.mp (h i (Nat.le_refl i) (by omega))
    have hrest := ih (i := i + 1) (fun j hj hjn => h j (by omega) (by omega)) (check c compatVer)
    rw [range'_succ, filterMap_cons_some hc, map_cons]
    simp only [checkLoop, hc, runCompatCheckers]
    split
    · rfl
    · rw [← hrest, Option.map_map]
      rfl

lemma compatibilityCheck_eq {m : Checkers γ} {registered : List γ} (h : m.Inv registered)
    (check : γ → Byte → Byte) (compatVer : Byte) : (compatibilityCheck check (some m) compatVer).map Prod.fst =
      some (adfIovCompatibilityCheck (some ⟨(filled m.iovCompatCheckers).map check, m.numChker⟩) compatVer) := by
  have hsplit : range compatCheckerMax =
      range' 0 m.numChker ++ range' m.numChker (compatCheckerMax - m.numChker) := by
    rw [range_eq_range']
    nth_rewrite 1 [← Nat.add_sub_of_le h.lt.le]
    rw [← range'_append_1, Nat.zero_add]
  have hlen : ((range' 0 m.numChker).filterMap m.iovCompatCheckers).length = m.numChker := by
    rw [length_filterMap_slots fun i hi => h.nonnull i (by simpa using hi), length_range']
  have htake : (filled m.iovCompatCheckers).take m.numChker =
      (range' 0 m.numChker).filterMap m.iovCompatCheckers := by
    unfold filled
    rw [hsplit, filterMap_append]
    exact take_left' hlen
  have hloop := checkLoop_eq_runCompatCheckers check compatVer (n := m.numChker) (i := 0)
    (fun j _ hj => h.nonnull j (by omega)) vfCompatible
  unfold compatibilityCheck adfIovCompatibilityCheck
  rw [hloop, ← htake, map_take]

section Results

variable [DecidableEq γ] (calls : List (CheckerCall γ))

omit [DecidableEq γ] in
lemma consulted_length {m : Checkers γ} {registered : List γ} (h : m.Inv registered)
    {check : γ → Byte → Byte} {compatVer : Byte} (hcheck : ∀ c, check c compatVer ≠ vfIncompatible) :
    ∃ compatible consulted, compatibilityCheck check (some m) compatVer = some (compatible, consulted) ∧
      consulted.length = m.numChker := by
  apply checkLoop_of_compatible hcheck
  intro j _ hj
  exact h.nonnull j (by omega)

omit [DecidableEq γ] in
lemma consultsRegistered_iff (h : s.Inv) : s.ConsultsRegistered ↔ s.registered = [] := by
  obtain ⟨cm, registered⟩ := s
  rcases cm with _ | m
  · obtain rfl : registered = [] := h
    exact iff_of_true (fun _ _ _ => ⟨vfIncompatible, [], rfl, List.Perm.refl []⟩) rfl
  · have h : m.Inv registered := h
    constructor
    · intro hall
      obtain ⟨compatible, consulted, hrun, hperm⟩ := hall (fun _ _ => vfCompatible) 0 fun _ => by decide
      obtain ⟨compatible', consulted', hrun', hlen⟩ :=
        @consulted_length γ m registered h (fun _ _ => vfCompatible) 0 fun _ => by decide
      cases hrun'.symm.trans hrun
      rcases h.short with ⟨hnil, -⟩ | hshort
      · exact hnil
      · exact absurd (hlen.symm.trans hperm.length_eq) (Nat.ne_of_lt hshort)
    · rintro (rfl : registered = []) check compatVer hcheck
      obtain ⟨compatible, consulted, hrun, hlen⟩ := consulted_length h hcheck
      rcases h.short with ⟨-, hzero⟩ | hshort
      · rw [hzero] at hlen
        refine ⟨compatible, consulted, hrun, ?_⟩
        rw [length_eq_zero_iff.mp hlen]
      · exact absurd hshort (Nat.not_lt_zero _)

lemma registered_run_ne_nil (h : s.Inv) (hne : s.registered ≠ [])
    (calls : List (CheckerCall γ)) : (s.run calls).registered ≠ [] := by
  induction calls generalizing s with
  | nil => exact hne
  | cons call calls ih => exact ih (h.step call) (registered_step_ne_nil h hne call)

lemma registered_run_zero_iff : ((⟨some Checkers.zero, []⟩ : CheckerHistory γ).run calls).registered = [] ↔
      ∀ cc, CheckerCall.register cc ∉ calls := by
  induction calls with
  | nil => simp [CheckerHistory.run]
  | cons call calls ih =>
    have hinv : (⟨some Checkers.zero, []⟩ : CheckerHistory γ).Inv := inv_zero
    cases call with
    | register cc =>
      have hne := registered_run_ne_nil (hinv.step (.register cc)) (cons_ne_nil cc []) calls
      exact iff_of_false hne fun hnone => hnone cc mem_cons_self
    | unregister cc =>
      change ((⟨some Checkers.zero, []⟩ : CheckerHistory γ).run calls).registered = [] ↔ _
      rw [ih]
      simp

lemma run_none : (⟨none, []⟩ : CheckerHistory γ).run calls = ⟨none, []⟩ := by
  induction calls with
  | nil => rfl
  | cons call calls ih => cases call <;> exact ih

/-- **The registered checkers are asked only if there are none.** -/
theorem registered_checkers_iff (kzallocOk : Bool) (cm : Option (Checkers γ)) (calls : List (CheckerCall γ)) :
    (CheckerHistory.run ⟨adfIovInitCompatManager kzallocOk cm, []⟩ calls).Agrees ↔
      (cm.isNone ∧ kzallocOk = false) ∨ ∀ cc, CheckerCall.register cc ∉ calls := by
  have hagrees : ∀ s : CheckerHistory γ, s.Inv → (s.Agrees ↔ s.registered = []) := by
    intro s hs
    constructor
    · intro h
      exact (consultsRegistered_iff hs).mp h.1
    · intro hnil
      refine ⟨(consultsRegistered_iff hs).mpr hnil, ?_⟩
      intro c hc
      rw [hnil] at hc
      cases hc
  have hinv : (⟨some Checkers.zero, []⟩ : CheckerHistory γ).Inv := inv_zero
  have hnone : (⟨none, []⟩ : CheckerHistory γ).Inv := rfl
  have hzero := (hagrees _ (hinv.run calls)).trans (registered_run_zero_iff calls)
  rcases cm with _ | m
  · cases kzallocOk with
    | false =>
      change (CheckerHistory.run ⟨none, []⟩ calls).Agrees ↔ _
      rw [hagrees _ (hnone.run calls), run_none]
      simp
    | true => simpa [adfIovInitCompatManager] using hzero
  · simpa [adfIovInitCompatManager] using hzero

lemma run_unregister_of_numChker_eq_zero {m : Checkers γ} {registered : List γ} (h : m.numChker = 0) (ccs : List γ) :
    CheckerHistory.run ⟨some m, registered⟩ (ccs.map CheckerCall.unregister) = ⟨some m, registered⟩ := by
  induction ccs with
  | nil => rfl
  | cons cc ccs ih =>
    have hstep : CheckerHistory.step ⟨some m, registered⟩ (.unregister cc) = ⟨some m, registered⟩ := by
      simp [CheckerHistory.step, adfIovUnregisterCompatChecker, h]
    change (CheckerHistory.step ⟨some m, registered⟩ (.unregister cc)).run (ccs.map CheckerCall.unregister) = _
    rw [hstep]
    exact ih

end Results

/-- **One checker is one too many:** it is not asked, and no calls unregister it. -/
theorem first_checker_not_asked :
    let s := CheckerHistory.run ⟨adfIovInitCompatManager true (none : Option (Checkers ℕ)), []⟩ [.register 7]
    s.registered = [7] ∧ (∀ check compatVer, compatibilityCheck check s.cm compatVer = some (vfCompatible, [])) ∧
      ¬ s.Unregisterable 7 ∧ ¬ s.Agrees := by
  intro s
  have hreg : s.registered = [7] := rfl
  refine ⟨hreg, fun _ _ => rfl, ?_, ?_⟩
  · rintro ⟨ccs, hccs⟩
    have hrun := @run_unregister_of_numChker_eq_zero ℕ _ ⟨update (fun _ => none) 0 (some 7), 0⟩ [7] rfl ccs
    change 7 ∉ (CheckerHistory.run ⟨some ⟨update (fun _ => none) 0 (some 7), 0⟩, [7]⟩
      (ccs.map CheckerCall.unregister)).registered at hccs
    rw [hrun] at hccs
    exact hccs mem_cons_self
  · intro hagrees
    obtain ⟨_, consulted, hrun, hperm⟩ := hagrees.1 (fun _ _ => vfCompatible) 0 (fun _ => by decide)
    have hnil : consulted = [] := (Prod.mk.inj (Option.some.inj hrun)).2.symm
    rw [hnil, hreg] at hperm
    exact absurd hperm.length_eq (by decide)

end QuickAssist.PfVf
