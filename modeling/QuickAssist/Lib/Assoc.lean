import Mathlib.Data.List.Nodup

/-!
# Lists of entries with keys

A table that is kept as a list and searched from its front. An entry is put at the end, the last entry of a key is
taken out, the first entry of a key is changed in place. On a list in which every key occurs once these are the
operations of a finite map; without uniqueness the search and the removal mean different entries.
-/

namespace QuickAssist.Lib.Assoc

open Function List Option

variable {α κ : Type*} [DecidableEq κ] {key : α → κ} {l l' : List α} {a : α} {k k' : κ} {f : α → α}

/-! ## The operations -/

/-- The first entry of a key. -/
def find (key : α → κ) (l : List α) (k : κ) : Option α := l.find? fun a => key a = k

/-- Change the first entry of a key in place. -/
def modifyFirst (key : α → κ) (k : κ) (f : α → α) : List α → List α
  | [] => []
  | a :: l => if key a = k then f a :: l else a :: modifyFirst key k f l

/-- Take out the last entry of a key. -/
def removeLast (key : α → κ) (k : κ) (l : List α) : List α := (l.reverse.eraseP fun a => key a = k).reverse

/-- Take out the first entry of a key. -/
def removeFirst (key : α → κ) (k : κ) (l : List α) : List α := l.eraseP fun a => key a = k

/-- Every key occurs once. -/
def Unique (key : α → κ) (l : List α) : Prop := (l.map key).Nodup

instance : Decidable (Unique key l) := inferInstanceAs (Decidable (l.map key).Nodup)

/-! ## Searching -/

@[simp] lemma find_nil : find key [] k = none := rfl

lemma find_cons : find key (a :: l) k = if key a = k then some a else find key l k := by
  unfold find
  split_ifs with h
  · simp [h]
  · simp [h]

lemma find_append : find key (l ++ l') k = (find key l k).or (find key l' k) := List.find?_append

lemma key_of_find (h : find key l k = some a) : key a = k := by
  simpa using List.find?_some h

lemma mem_of_find (h : find key l k = some a) : a ∈ l := mem_of_find?_eq_some h

lemma find_eq_none : find key l k = none ↔ k ∉ l.map key := by
  unfold find
  simp

lemma find_append_singleton (h : find key l (key a) = none) :
    find key (l ++ [a]) = update (find key l) (key a) (some a) := by
  funext k
  rw [find_append, find_cons, find_nil]
  by_cases hk : k = key a
  · rw [if_pos hk.symm, hk, h, update_self, none_or]
  · rw [if_neg (Ne.symm hk), update_of_ne hk, or_none]

lemma find_modifyFirst (hf : ∀ a, key (f a) = key a) :
    find key (modifyFirst key k f l) = update (find key l) k ((find key l k).map f) := by
  induction l with
  | nil =>
    funext k'
    simp only [modifyFirst, find_nil, map_none, update_apply, ite_self]
  | cons a l ih =>
    funext k'
    simp only [modifyFirst]
    by_cases ha : key a = k
    · rw [if_pos ha, find_cons, find_cons, hf, ha, if_pos rfl]
      by_cases hk : k' = k
      · rw [if_pos hk.symm, hk, update_self, map_some]
      · rw [if_neg (Ne.symm hk), update_of_ne hk, find_cons, ha, if_neg (Ne.symm hk)]
    · rw [if_neg ha, find_cons, find_cons, if_neg ha, ih]
      by_cases hk : k' = k
      · rw [hk, if_neg ha, update_self, update_self]
      · rw [update_of_ne hk, update_of_ne hk, find_cons]

lemma modifyFirst_id : modifyFirst key k id l = l := by
  induction l with
  | nil => rfl
  | cons a l ih => simp only [modifyFirst, id_eq, ih, ite_self]

lemma modifyFirst_modifyFirst {g : α → α} (hf : ∀ a, key (f a) = key a) :
    modifyFirst key k g (modifyFirst key k f l) = modifyFirst key k (g ∘ f) l := by
  induction l with
  | nil => rfl
  | cons a l ih =>
    simp only [modifyFirst]
    split_ifs with ha
    · simp [modifyFirst, hf, ha]
    · simp only [modifyFirst, ha, if_false, ih]

lemma mem_modifyFirst {b : α} (h : b ∈ modifyFirst key k f l) : b ∈ l ∨ ∃ a, find key l k = some a ∧ b = f a := by
  induction l with
  | nil => cases h
  | cons a l ih =>
    simp only [modifyFirst] at h
    rw [find_cons]
    split_ifs at h ⊢ with ha
    · rcases mem_cons.mp h with rfl | h
      · exact Or.inr ⟨a, rfl, rfl⟩
      · exact Or.inl (mem_cons_of_mem a h)
    · rcases mem_cons.mp h with rfl | h
      · exact Or.inl mem_cons_self
      · exact (ih h).imp_left (mem_cons_of_mem a)

lemma exists_split_of_find (h : find key l k = some a) :
    ∃ l₁ l₂, l = l₁ ++ a :: l₂ ∧ (∀ f, modifyFirst key k f l = l₁ ++ f a :: l₂) ∧ removeFirst key k l = l₁ ++ l₂ := by
  unfold Assoc.removeFirst
  induction l with
  | nil => exact absurd h.symm (some_ne_none a)
  | cons b l ih =>
    rw [find_cons] at h
    split_ifs at h with hb
    · cases h
      refine ⟨[], l, rfl, ?_, ?_⟩
      · intro f
        simp [modifyFirst, hb]
      · rw [eraseP_cons_of_pos (by simp [hb]), nil_append]
    · obtain ⟨l₁, l₂, hl, hmodify, hremove⟩ := ih h
      refine ⟨b :: l₁, l₂, ?_, ?_, ?_⟩
      · rw [hl, cons_append]
      · intro f
        simp [modifyFirst, hb, hmodify]
      · rw [eraseP_cons_of_neg (by simp [hb]), hremove, cons_append]

lemma removeFirst_of_find_none (h : find key l k = none) : removeFirst key k l = l := by
  apply eraseP_of_forall_not
  intro a ha
  simpa using List.find?_eq_none.mp h a ha

/-! ## Lists in which every key occurs once -/

section

variable (hl : Unique key l)

include hl

lemma Unique.append_singleton (h : find key l (key a) = none) : Unique key (l ++ [a]) := by
  unfold Unique
  rw [map_append, map_singleton]
  exact List.Nodup.append hl (nodup_singleton _) (disjoint_singleton.mpr (find_eq_none.mp h))

lemma Unique.append (hl' : Unique key l') (h : ∀ a ∈ l', find key l (key a) = none) : Unique key (l ++ l') := by
  unfold Unique
  rw [map_append]
  refine List.Nodup.append hl hl' ?_
  intro k hk hk'
  obtain ⟨a, ha, rfl⟩ := mem_map.mp hk'
  exact find_eq_none.mp (h a ha) hk

omit hl in
lemma map_modifyFirst (hf : ∀ a, key (f a) = key a) : (modifyFirst key k f l).map key = l.map key := by
  induction l with
  | nil => rfl
  | cons a l ih =>
    simp only [modifyFirst]
    split_ifs
    · rw [map_cons, map_cons, hf]
    · rw [map_cons, map_cons, ih]

lemma Unique.modifyFirst (hf : ∀ a, key (f a) = key a) : Unique key (modifyFirst key k f l) := by
  unfold Unique
  rw [map_modifyFirst hf]
  exact hl

/-- In a list with one entry for each key, taking out the first one takes out all. -/
lemma Unique.removeFirst_eq : removeFirst key k l = l.filter fun a => key a ≠ k := by
  induction l with
  | nil => rfl
  | cons a l ih =>
    obtain ⟨ha, hl⟩ := nodup_cons.mp hl
    unfold Assoc.removeFirst at ih ⊢
    by_cases hk : key a = k
    · rw [eraseP_cons_of_pos (by simp [hk]), filter_cons_of_neg (by simp [hk])]
      refine (filter_eq_self.mpr fun b hb => ?_).symm
      refine decide_eq_true fun hb' => ha ?_
      exact hk.trans hb'.symm ▸ mem_map_of_mem hb
    · rw [eraseP_cons_of_neg (by simp [hk]), filter_cons_of_pos (by simp [hk]), ih hl]

lemma Unique.removeLast_eq : removeLast key k l = l.filter fun a => key a ≠ k := by
  have hreverse : Unique key l.reverse := by
    unfold Unique
    rw [map_reverse]
    exact nodup_reverse.mpr hl
  have h := hreverse.removeFirst_eq (k := k)
  unfold Assoc.removeFirst at h
  unfold Assoc.removeLast
  rw [h, filter_reverse, reverse_reverse]

end

lemma find_filter : find key (l.filter fun a => key a ≠ k) = update (find key l) k none := by
  induction l with
  | nil =>
    funext k'
    simp only [filter_nil, find_nil, update_apply, ite_self]
  | cons a l ih =>
    funext k'
    by_cases ha : key a = k
    · rw [filter_cons_of_neg (by simp [ha]), ih]
      by_cases hk : k' = k
      · rw [hk, update_self, update_self]
      · rw [update_of_ne hk, update_of_ne hk, find_cons, ha, if_neg (Ne.symm hk)]
    · rw [filter_cons_of_pos (by simp [ha]), find_cons, ih]
      by_cases hk : k' = k
      · rw [hk, if_neg ha, update_self, update_self]
      · rw [update_of_ne hk, update_of_ne hk, find_cons]

lemma Unique.filter (hl : Unique key l) : Unique key (l.filter fun a => key a ≠ k) :=
  hl.sublist (filter_sublist.map key)

end QuickAssist.Lib.Assoc
