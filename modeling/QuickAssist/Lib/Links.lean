import Mathlib.Data.List.Nodup

/-!
# Doubly linked lists

The fields that link nodes `π` are two functions on pointers, `Links`, shared by all lists that are linked through the
same fields; a list itself is only its two ends, `Ends`. `addHead`, `addEnd` and `remove` are the usual operations,
assignment by assignment; `remove` is given the ends of *some* list, and nothing in it checks that the node is there.
`LinkedFamily` is a family of lists in the same fields, no two of which have a node in common.
-/

namespace QuickAssist.Lib

open Function List Option

variable {π ι : Type*}

/-! ## The operations -/

/-- The fields that link nodes to their neighbours. -/
structure Links (π : Type*) where
  prev : π → Option π
  next : π → Option π

/-- The first and the last node of a list. -/
structure Ends (π : Type*) where
  head : Option π
  tail : Option π

def Ends.flip (e : Ends π) : Ends π := ⟨e.tail, e.head⟩

namespace Links

variable [DecidableEq π]

/-- Assign to the `prev` field of a node. -/
def setPrev (l : Links π) (x : π) (p : Option π) : Links π := { l with prev := update l.prev x p }

/-- Assign to the `next` field of a node. -/
def setNext (l : Links π) (x : π) (n : Option π) : Links π := { l with next := update l.next x n }

/-- Put a node before the first one. -/
def addHead (l : Links π) (e : Ends π) (x : π) : Links π × Ends π :=
  let l := l.setPrev x none
  match e.head with
  | none => (l.setNext x none, ⟨some x, some x⟩)
  | some h => ((l.setNext x (some h)).setPrev h (some x), ⟨some x, e.tail⟩)

/-- Put a node after the last one. -/
def addEnd (l : Links π) (e : Ends π) (x : π) : Links π × Ends π :=
  let l := l.setNext x none
  match e.tail with
  | none => (l.setPrev x none, ⟨some x, some x⟩)
  | some t => ((l.setPrev x (some t)).setNext t (some x), ⟨e.head, some x⟩)

/-- The same nodes from the other end. -/
def flip (l : Links π) : Links π := ⟨l.next, l.prev⟩

lemma addHead_flip (l : Links π) (e : Ends π) (x : π) :
    l.flip.addHead e.flip x = ((l.addEnd e x).1.flip, (l.addEnd e x).2.flip) := by
  unfold addHead addEnd
  cases htail : e.tail <;> simp only [Ends.flip, htail] <;> rfl

/-- Take a node out. -/
def remove (l : Links π) (e : Ends π) (x : π) : Links π × Ends π :=
  match l.prev x with
  | some p =>
    let l := l.setNext p (l.next x)
    match l.next x with
    | some n => (l.setPrev n (l.prev x), e)
    | none => (l, ⟨e.head, l.prev x⟩)
  | none =>
    match l.next x with
    | some n => (l.setPrev n none, ⟨(l.setPrev n none).next x, e.tail⟩)
    | none => (l, ⟨none, none⟩)

end Links

/-- Follow the `next` fields from a node until one satisfies a condition. The outer `none` says that
the bound on the number of nodes did not suffice. -/
def search (next : π → Option π) (cond : π → Bool) : ℕ → Option π → Option (Option π)
  | _, none => some none
  | 0, some _ => none
  | n + 1, some x => if cond x then some (some x) else search next cond n (next x)

/-! ## Lists -/

/-- The nodes `xs`, in order, are linked to each other, and the ends are theirs. -/
structure Linked (l : Links π) (e : Ends π) (xs : List π) : Prop where
  nodup : xs.Nodup
  head : e.head = xs.head?
  tail : e.tail = xs.getLast?
  links : ∀ l₁ x l₂, xs = l₁ ++ x :: l₂ → l.prev x = l₁.getLast? ∧ l.next x = l₂.head?

namespace Linked

variable {l l' : Links π} {e : Ends π} {xs : List π} {x y : π}

lemma nil (l : Links π) : Linked l ⟨none, none⟩ [] := by
  refine ⟨nodup_nil, rfl, rfl, ?_⟩
  intro l₁ x l₂ h
  exact absurd h (by simp)

section

variable (h : Linked l e xs)

include h

lemma flip : Linked l.flip e.flip xs.reverse := by
  refine ⟨nodup_reverse.mpr h.nodup, ?_, ?_, ?_⟩
  · rw [List.head?_reverse]
    exact h.tail
  · rw [getLast?_reverse]
    exact h.head
  · intro l₁ x l₂ hxs
    obtain ⟨hprev, hnext⟩ := h.links l₂.reverse x l₁.reverse (by simp [reverse_eq_iff.mp hxs])
    rw [getLast?_reverse] at hprev
    rw [List.head?_reverse] at hnext
    exact ⟨hnext, hprev⟩

lemma ends_eq : e = ⟨xs.head?, xs.getLast?⟩ := by
  rw [← h.head, ← h.tail]

lemma frame (hprev : ∀ x ∈ xs, l'.prev x = l.prev x) (hnext : ∀ x ∈ xs, l'.next x = l.next x) : Linked l' e xs := by
  refine ⟨h.nodup, h.head, h.tail, ?_⟩
  intro l₁ x l₂ hxs
  have hx : x ∈ xs := by rw [hxs]; exact mem_append_right l₁ mem_cons_self
  rw [hprev x hx, hnext x hx]
  exact h.links l₁ x l₂ hxs

/-- The search looks at the nodes in order; a bound that is not below their number suffices. -/
lemma search_eq (cond : π → Bool) {n : ℕ} (hn : xs.length ≤ n) :
    search l.next cond n e.head = some (xs.find? cond) := by
  -- from a node in the middle, with the nodes before it passed
  have hfrom : ∀ l₁ l₂ n, xs = l₁ ++ l₂ → l₂.length ≤ n → search l.next cond n l₂.head? = some (l₂.find? cond) := by
    intro l₁ l₂
    induction l₂ generalizing l₁ with
    | nil =>
      intro n _ _
      cases n <;> rfl
    | cons x l₂ ih =>
      intro n hxs hn
      obtain ⟨n, rfl⟩ : ∃ k, n = k + 1 := ⟨n - 1, by rw [length_cons] at hn; omega⟩
      rw [List.head?_cons, search]
      by_cases hx : cond x = true
      · rw [if_pos hx, List.find?_cons_of_pos hx]
      · rw [if_neg hx, List.find?_cons_of_neg hx, (h.links l₁ x l₂ hxs).2]
        refine ih (l₁ ++ [x]) n ?_ (by rw [length_cons] at hn; omega)
        rw [hxs, append_assoc, singleton_append]
  rw [h.head]
  exact hfrom [] xs n rfl hn

end

section Nodup

variable {l₁ l₂ : List π}

/-- Without repetitions, what follows a part with `y` does not begin with `y`. -/
lemma head?_ne_of_nodup (hnodup : (l₁ ++ l₂).Nodup) (hy : y ∈ l₁) : l₂.head? ≠ some y := by
  intro hhead
  exact disjoint_of_nodup_append hnodup hy (mem_of_head? hhead)

lemma getLast?_ne_of_nodup (hnodup : (l₁ ++ l₂).Nodup) (hy : y ∈ l₂) : l₁.getLast? ≠ some y := by
  intro hlast
  exact disjoint_of_nodup_append hnodup (mem_of_getLast? hlast) hy

lemma getLast?_ne_of_lt (hnodup : (l₁ ++ y :: x :: l₂).Nodup) : (l₁ ++ y :: x :: l₂).getLast? ≠ some y := by
  rw [getLast?_append, getLast?_cons_cons, or_of_isSome (by simp)]
  intro hlast
  have hmem : y ∈ x :: l₂ := mem_of_getLast? hlast
  exact (nodup_cons.mp (nodup_append.mp hnodup).2.1).1 hmem

end Nodup

section Operations

variable [DecidableEq π]

/-! ### What the operations assign -/

lemma addHead_spec (h : Linked l e xs) (hx : x ∉ xs) : (∀ y, (l.addHead e x).1.prev y =
        if y = x then none else if xs.head? = some y then some x else l.prev y) ∧
      (∀ y, (l.addHead e x).1.next y = if y = x then xs.head? else l.next y) ∧
      (l.addHead e x).2 = ⟨some x, (x :: xs).getLast?⟩ := by
  unfold Links.addHead
  rw [h.head]
  cases xs with
  | nil =>
    refine ⟨?_, ?_, rfl⟩
    · intro y
      simp only [Links.setNext, Links.setPrev, update_apply, List.head?_nil, reduceCtorEq, if_false]
    · intro y
      simp only [Links.setNext, Links.setPrev, update_apply, List.head?_nil]
  | cons a xs =>
    have hax : a ≠ x := fun heq => hx (heq ▸ mem_cons_self)
    refine ⟨?_, ?_, ?_⟩
    · intro y
      simp only [Links.setNext, Links.setPrev, update_apply, List.head?_cons, Option.some.injEq]
      by_cases hya : y = a
      · rw [if_pos hya, if_neg (hya ▸ hax), if_pos hya.symm]
      · rw [if_neg hya, if_neg (Ne.symm hya)]
    · intro y
      simp only [Links.setNext, Links.setPrev, update_apply, List.head?_cons]
    · simp [h.tail]

lemma addEnd_spec (h : Linked l e xs) (hx : x ∉ xs) :
    (∀ y, (l.addEnd e x).1.prev y = if y = x then xs.getLast? else l.prev y) ∧ (∀ y, (l.addEnd e x).1.next y =
        if y = x then none else if xs.getLast? = some y then some x else l.next y) ∧
      (l.addEnd e x).2 = ⟨(xs ++ [x]).head?, some x⟩ := by
  obtain ⟨hprev, hnext, hends⟩ := h.flip.addHead_spec (x := x) (by simpa using hx)
  rw [Links.addHead_flip] at hprev hnext hends
  rw [List.head?_reverse] at hprev hnext
  rw [show x :: xs.reverse = (xs ++ [x]).reverse by simp, getLast?_reverse] at hends
  exact ⟨hnext, hprev, congrArg Ends.flip hends⟩

lemma remove_spec {l₁ l₂ : List π} (h : Linked l e (l₁ ++ x :: l₂)) :
    (∀ y, (l.remove e x).1.prev y = if l₂.head? = some y then l₁.getLast? else l.prev y) ∧
      (∀ y, (l.remove e x).1.next y = if l₁.getLast? = some y then l₂.head? else l.next y) ∧
      (l.remove e x).2 = ⟨(l₁ ++ l₂).head?, (l₁ ++ l₂).getLast?⟩ := by
  obtain ⟨hprev, hnext⟩ := h.links l₁ x l₂ rfl
  have hhead := h.head
  have htail := h.tail
  unfold Links.remove
  rcases eq_nil_or_concat l₁ with rfl | ⟨ys, a, rfl⟩
  · rw [hprev]
    cases l₂ with
    | nil => simp [hnext]
    | cons b l₂ =>
      simp only [hnext, List.head?_cons, getLast?_nil, reduceCtorEq, if_false,
        implies_true, nil_append, Option.some.injEq, Links.setPrev, true_and]
      refine ⟨?_, ?_⟩
      · intro y
        rw [update_apply]
        exact if_congr eq_comm rfl rfl
      · rw [htail]
        rfl
  · have hxa : x ≠ a := by
      rintro rfl
      have hnodup := h.nodup
      rw [concat_eq_append, append_assoc] at hnodup
      exact (nodup_append.mp hnodup).2.1 |>.notMem (by simp)
    rw [concat_eq_append] at hprev hhead htail ⊢
    rw [getLast?_append, getLast?_singleton, some_or] at hprev ⊢
    rw [hprev]
    simp only [Links.setNext, update_of_ne hxa, hnext]
    cases l₂ with
    | nil =>
      refine ⟨?_, ?_, ?_⟩
      · intro y
        simp
      · intro y
        simp only [List.head?_nil, update_apply, Option.some.injEq]
        exact if_congr eq_comm rfl rfl
      · simp only [List.head?_nil, hhead, hprev, append_nil, getLast?_append, getLast?_singleton, some_or]
        cases ys <;> rfl
    | cons b l₂ =>
      refine ⟨?_, ?_, ?_⟩
      · intro y
        simp only [List.head?_cons, Links.setPrev, update_apply, Option.some.injEq, hprev]
        exact if_congr eq_comm rfl rfl
      · intro y
        simp only [List.head?_cons, Links.setPrev, update_apply, Option.some.injEq]
        exact if_congr eq_comm rfl rfl
      · obtain ⟨eh, et⟩ := e
        simp only at hhead htail
        simp only [List.head?_cons, hhead, htail, getLast?_append, getLast?_cons_cons]
        cases ys <;> rfl

/-! ### What they do to a list -/

lemma addHead (h : Linked l e xs) (hx : x ∉ xs) : Linked (l.addHead e x).1 (l.addHead e x).2 (x :: xs) := by
  obtain ⟨hprev, hnext, hends⟩ := h.addHead_spec hx
  refine ⟨nodup_cons.mpr ⟨hx, h.nodup⟩, by rw [hends]; rfl, by rw [hends], ?_⟩
  intro l₁ y l₂ hsplit
  rw [hprev, hnext]
  cases l₁ with
  | nil =>
    obtain ⟨rfl, rfl⟩ := List.cons.inj hsplit
    rw [if_pos rfl, if_pos rfl]
    exact ⟨rfl, rfl⟩
  | cons a l₁ =>
    rw [cons_append] at hsplit
    obtain ⟨rfl, rfl⟩ := List.cons.inj hsplit
    have hyx : y ≠ x := fun heq => hx (heq ▸ by simp)
    obtain ⟨hprev₀, hnext₀⟩ := h.links l₁ y l₂ rfl
    rw [if_neg hyx, if_neg hyx]
    refine ⟨?_, hnext₀⟩
    cases l₁ with
    | nil => rw [nil_append, List.head?_cons, if_pos rfl]; rfl
    | cons b l₁ =>
      have hby : b ≠ y := by
        rintro rfl
        exact (nodup_cons.mp h.nodup).1 (by simp)
      rw [cons_append, List.head?_cons, if_neg (by simpa using hby), hprev₀, getLast?_cons_cons]

lemma addEnd (h : Linked l e xs) (hx : x ∉ xs) : Linked (l.addEnd e x).1 (l.addEnd e x).2 (xs ++ [x]) := by
  have hadd := (h.flip.addHead (x := x) (by simpa using hx)).flip
  rwa [Links.addHead_flip, reverse_cons, reverse_reverse] at hadd

lemma remove {l₁ l₂ : List π} (h : Linked l e (l₁ ++ x :: l₂)) :
    Linked (l.remove e x).1 (l.remove e x).2 (l₁ ++ l₂) := by
  obtain ⟨hprev, hnext, hends⟩ := h.remove_spec
  have hsub : (l₁ ++ l₂).Sublist (l₁ ++ x :: l₂) := (sublist_cons_self x l₂).append_left l₁
  have hnodup := h.nodup.sublist hsub
  refine ⟨hnodup, by rw [hends], by rw [hends], ?_⟩
  intro m₁ y m₂ hsplit
  rw [hprev, hnext]
  -- `y` is after `x` or before it
  have hcases : (∃ as, m₁ = l₁ ++ as ∧ l₂ = as ++ y :: m₂) ∨ ∃ as, l₁ = m₁ ++ y :: as ∧ m₂ = as ++ l₂ := by
    rcases append_eq_append_iff.mp hsplit with ⟨as, hm₁, hl₂⟩ | ⟨as, hl₁, hm⟩
    · exact Or.inl ⟨as, hm₁, hl₂⟩
    · cases as with
      | nil => exact Or.inl ⟨[], by rw [hl₁, append_nil, append_nil], hm.symm⟩
      | cons c as =>
        obtain ⟨rfl, rfl⟩ := List.cons.inj hm
        exact Or.inr ⟨as, hl₁, rfl⟩
  rcases hcases with ⟨as, rfl, rfl⟩ | ⟨as, rfl, rfl⟩
  · obtain ⟨hprev₀, hnext₀⟩ := h.links (l₁ ++ x :: as) y m₂ (by simp)
    rw [if_neg (getLast?_ne_of_nodup hnodup (by simp)), hprev₀, hnext₀]
    refine ⟨?_, rfl⟩
    cases as with
    | nil => rw [nil_append, List.head?_cons, if_pos rfl, append_nil]
    | cons b as =>
      have hby : (b :: as ++ y :: m₂).head? ≠ some y := by
        intro heq
        cases heq
        exact (nodup_cons.mp (nodup_append.mp hnodup).2.1).1 (by simp)
      rw [if_neg hby, getLast?_append, getLast?_append, getLast?_cons_cons]
  · obtain ⟨hprev₀, hnext₀⟩ := h.links m₁ y (as ++ x :: l₂) (by simp)
    rw [if_neg (head?_ne_of_nodup hnodup (by simp)), hprev₀, hnext₀]
    refine ⟨rfl, ?_⟩
    cases as with
    | nil => rw [getLast?_append, getLast?_singleton, some_or, if_pos rfl]; rfl
    | cons b as =>
      rw [if_neg (getLast?_ne_of_lt hnodup.of_append_left)]
      rfl

/-! ### Taking out what was put in -/

/-- A node is put at the front and taken out: the list is as before, and so are all other nodes. -/
lemma remove_addHead (h : Linked l e xs) (hx : x ∉ xs) : ((l.addHead e x).1.remove (l.addHead e x).2 x).2 = e ∧
      ∀ y, y ≠ x → ((l.addHead e x).1.remove (l.addHead e x).2 x).1.prev y = l.prev y ∧
        ((l.addHead e x).1.remove (l.addHead e x).2 x).1.next y = l.next y := by
  obtain ⟨hprev, hnext, -⟩ := h.addHead_spec hx
  have hadd : Linked (l.addHead e x).1 (l.addHead e x).2 ([] ++ x :: xs) := h.addHead hx
  obtain ⟨hprev', hnext', hends'⟩ := hadd.remove_spec
  refine ⟨?_, fun y hy => ⟨?_, ?_⟩⟩
  · rw [hends', nil_append]
    exact h.ends_eq.symm
  · rw [hprev', hprev, if_neg hy]
    split
    next hhead =>
      obtain ⟨ys, rfl⟩ := List.head?_eq_some_iff.mp hhead
      exact (h.links [] y ys rfl).1.symm
    next => rfl
  · rw [hnext', hnext, if_neg hy, if_neg (by simp)]

/-- A node is put at the end and taken out: the list is as before, and so are all other nodes. -/
lemma remove_addEnd (h : Linked l e xs) (hx : x ∉ xs) : ((l.addEnd e x).1.remove (l.addEnd e x).2 x).2 = e ∧
      ∀ y, y ≠ x → ((l.addEnd e x).1.remove (l.addEnd e x).2 x).1.prev y = l.prev y ∧
        ((l.addEnd e x).1.remove (l.addEnd e x).2 x).1.next y = l.next y := by
  obtain ⟨hprev, hnext, -⟩ := h.addEnd_spec hx
  obtain ⟨hprev', hnext', hends'⟩ := (h.addEnd hx).remove_spec
  refine ⟨?_, fun y hy => ⟨?_, ?_⟩⟩
  · rw [hends', append_nil]
    exact h.ends_eq.symm
  · rw [hprev', hprev, if_neg hy, if_neg (by simp)]
  · rw [hnext', hnext, if_neg hy]
    split
    next hlast =>
      obtain ⟨ys, rfl⟩ := getLast?_eq_some_iff.mp hlast
      exact (h.links ys y [] rfl).2.symm
    next => rfl

end Operations

end Linked

/-! ## Several lists in the same fields -/

/-- A list for each index, no two with a node in common. -/
structure LinkedFamily (l : Links π) (ends : ι → Ends π) (xs : ι → List π) : Prop where
  linked : ∀ i, Linked l (ends i) (xs i)
  disjoint : ∀ i j, i ≠ j → (xs i).Disjoint (xs j)

namespace LinkedFamily

variable {l l' : Links π} {ends : ι → Ends π} {xs : ι → List π} {x : π}

lemma nil (l : Links π) : LinkedFamily l (fun _ : ι => ⟨none, none⟩) fun _ => [] :=
  ⟨fun _ => Linked.nil l, fun _ _ _ => disjoint_nil_left _⟩

lemma ne_of_mem (h : LinkedFamily l ends xs) {i j : ι} {y : π} (hj : j ≠ i) (hy : y ∈ xs j) :
    (xs i).head? ≠ some y ∧ (xs i).getLast? ≠ some y :=
  ⟨fun hhead => h.disjoint j i hj hy (mem_of_head? hhead), fun hlast => h.disjoint j i hj hy (mem_of_getLast? hlast)⟩

lemma ne_of_notMem {j : ι} {y : π} (hx : ∀ j, x ∉ xs j) (hy : y ∈ xs j) : y ≠ x := by
  rintro rfl
  exact hx j hy

section Operations

variable [DecidableEq ι]

/-- Exchanging one list for another one, when the links of the nodes of all others stay as they
are. -/
lemma update (h : LinkedFamily l ends xs) {i : ι} {e : Ends π} {ys : List π} (hi : Linked l' e ys)
    (hprev : ∀ j, j ≠ i → ∀ y ∈ xs j, l'.prev y = l.prev y) (hnext : ∀ j, j ≠ i → ∀ y ∈ xs j, l'.next y = l.next y)
    (hdisjoint : ∀ j, j ≠ i → ys.Disjoint (xs j)) : LinkedFamily l' (update ends i e) (update xs i ys) := by
  refine ⟨?_, ?_⟩
  · intro j
    by_cases hj : j = i
    · subst hj
      rw [update_self, update_self]
      exact hi
    · rw [update_of_ne hj, update_of_ne hj]
      exact (h.linked j).frame (hprev j hj) (hnext j hj)
  · intro j k hjk
    by_cases hj : j = i
    · subst hj
      rw [update_self, update_of_ne (Ne.symm hjk)]
      exact hdisjoint k (Ne.symm hjk)
    · by_cases hk : k = i
      · subst hk
        rw [update_self, update_of_ne hj]
        exact disjoint_comm.mp (hdisjoint j hj)
      · rw [update_of_ne hj, update_of_ne hk]
        exact h.disjoint j k hjk

variable [DecidableEq π]

lemma addHead (h : LinkedFamily l ends xs) (hx : ∀ j, x ∉ xs j) (i : ι) :
    LinkedFamily (l.addHead (ends i) x).1 (Function.update ends i (l.addHead (ends i) x).2)
      (Function.update xs i (x :: xs i)) := by
  obtain ⟨hprev, hnext, -⟩ := (h.linked i).addHead_spec (hx i)
  refine h.update ((h.linked i).addHead (hx i)) ?_ ?_ ?_
  · intro j hj y hy
    rw [hprev, if_neg (ne_of_notMem hx hy), if_neg (h.ne_of_mem hj hy).1]
  · intro j hj y hy
    rw [hnext, if_neg (ne_of_notMem hx hy)]
  · intro j hj
    exact disjoint_cons_left.mpr ⟨hx j, h.disjoint i j (Ne.symm hj)⟩

lemma addEnd (h : LinkedFamily l ends xs) (hx : ∀ j, x ∉ xs j) (i : ι) :
    LinkedFamily (l.addEnd (ends i) x).1 (Function.update ends i (l.addEnd (ends i) x).2)
      (Function.update xs i (xs i ++ [x])) := by
  obtain ⟨hprev, hnext, -⟩ := (h.linked i).addEnd_spec (hx i)
  refine h.update ((h.linked i).addEnd (hx i)) ?_ ?_ ?_
  · intro j hj y hy
    rw [hprev, if_neg (ne_of_notMem hx hy)]
  · intro j hj y hy
    rw [hnext, if_neg (ne_of_notMem hx hy), if_neg (h.ne_of_mem hj hy).2]
  · intro j hj
    exact disjoint_append_left.mpr ⟨h.disjoint i j (Ne.symm hj), singleton_disjoint.mpr (hx j)⟩

lemma remove (h : LinkedFamily l ends xs) {i : ι} (hx : x ∈ xs i) :
    LinkedFamily (l.remove (ends i) x).1 (Function.update ends i (l.remove (ends i) x).2)
      (Function.update xs i ((xs i).erase x)) := by
  obtain ⟨l₁, l₂, hsplit⟩ := append_of_mem hx
  have hi := h.linked i
  have hsub : ∀ y, y ∈ l₁ ∨ y ∈ l₂ → y ∈ xs i := by
    intro y hy
    rw [hsplit]
    rcases hy with hy | hy
    · exact mem_append_left _ hy
    · exact mem_append_right _ (mem_cons_of_mem x hy)
  have herase : (xs i).erase x = l₁ ++ l₂ := by
    have hnotMem : x ∉ l₁ := by
      have hnodup := hi.nodup
      rw [hsplit] at hnodup
      exact fun hmem => disjoint_of_nodup_append hnodup hmem mem_cons_self
    rw [hsplit, erase_append_right _ hnotMem, erase_cons_head]
  rw [hsplit] at hi
  obtain ⟨hprev, hnext, -⟩ := hi.remove_spec
  rw [herase]
  refine h.update hi.remove ?_ ?_ ?_
  · intro j hj y hy
    rw [hprev, if_neg]
    intro hhead
    exact h.disjoint j i hj hy (hsub y (Or.inr (mem_of_head? hhead)))
  · intro j hj y hy
    rw [hnext, if_neg]
    intro hlast
    exact h.disjoint j i hj hy (hsub y (Or.inl (mem_of_getLast? hlast)))
  · intro j hj y hy
    exact h.disjoint i j (Ne.symm hj) (hsub y (mem_append.mp hy))

end Operations

end LinkedFamily

end QuickAssist.Lib
