import QuickAssist.MemPool.Stack

/-!
# Runs of the lock-free stack

Any number of threads pop from a stack and push to it, one access to the memory at a time, and hand blocks to each
other. `Frame` is what the accesses of one thread can do to what others rely on, `Settled.act` puts a step together,
and `Loaded.eq_since` is where the counter is used: a pop whose swap succeeds has read a word that no swap has changed
since.
-/

namespace QuickAssist.MemPool

open Lib Function List

variable {ι : Type*}

/-! ## What other threads rely on -/

/-- What an access of thread `i`, which owns the blocks `owned`, can do. -/
structure Frame (i : ι) (owned : Finset Addr) (c : StackMem ι) (lin : Order ι) (c' : StackMem ι)
    (lin' : Order ι) : Prop where
  hist : ∀ j, j ≠ i → ∀ n op, HistEvent.call (j, n) op ∈ c'.hist ↔ HistEvent.call (j, n) op ∈ c.hist
  lin : ∀ e : Taken (ι × ℕ) StackOp (Option Addr), e.id.1 ≠ i → (e ∈ lin' ↔ e ∈ lin)
  top : c'.swaps = c.swaps ∧ c'.top = c.top ∨ c'.swaps = c.swaps + 1 ∧ c'.top.ctr = c.top.ctr + 1
  pNext : ∀ b, b ∉ owned → c'.pNext b = c.pNext b

lemma Frame.refl (i : ι) (owned : Finset Addr) (c : StackMem ι) (lin : Order ι) : Frame i owned c lin c lin where
  hist _ _ _ _ := Iff.rfl
  lin _ _ := Iff.rfl
  top := Or.inl ⟨rfl, rfl⟩
  pNext _ _ := rfl

variable {since : ℕ} {op : StackOp} {phase : Phase} {oldTop : PointerT} {c : StackMem ι}

lemma Loaded.frame {c' : StackMem ι} (h : Loaded c oldTop since) (htop : c'.swaps = c.swaps ∧ c'.top = c.top ∨
      c'.swaps = c.swaps + 1 ∧ c'.top.ctr = c.top.ctr + 1) : Loaded c' oldTop since := by
  have hle := h.le
  rcases htop with ⟨hswaps, htop⟩ | ⟨hswaps, hctr⟩
  · refine ⟨?_, ?_, ?_⟩
    · rw [hswaps]
      exact hle
    · rw [hswaps, htop]
      exact h.ctr
    · rw [hswaps, htop]
      exact h.top
  · refine ⟨?_, ?_, ?_⟩
    · omega
    · rw [hctr, hswaps, h.ctr, Nat.sub_add_comm hle, BitVec.ofNat_add, add_assoc]
      rfl
    · intro heq
      omega

/-- **The counter**: a word that is the same has not been changed, if the counter has not gone round. -/
theorem Loaded.eq_since (h : Loaded c oldTop since)
    (htop : c.top = oldTop) (htimely : c.swaps < since + 2 ^ 16) : c.swaps = since := by
  have hle := h.le
  have hctr := congrArg BitVec.toNat h.ctr
  rw [htop, BitVec.toNat_add, BitVec.toNat_ofNat] at hctr
  omega

variable {l₀ l l' : List Addr} {s : Stack ι} {i : ι}
  {lin lin' : Order ι} {c' : StackMem ι} {t' : Thread} {res : Option Addr}
  {blocks : Addr → Prop} {s' : Stack ι}

lemma Settled.top_mem (hs : Settled l₀ s l lin) (h : s.shared.top.ptr ≠ 0) : s.shared.top.ptr ∈ l := by
  obtain ⟨rest, rfl, -⟩ := hs.chain.exists_cons h
  exact mem_cons_self

lemma Pending.frame {owned : Finset Addr} {j : ι} {n : ℕ}
    (h : Pending c lin (j, n) op) (hframe : Frame i owned c lin c' lin') (hj : j ≠ i) :
    Pending c' lin' (j, n) op := by
  refine ⟨(hframe.hist j hj n op).2 h.1, ?_⟩
  intro hmem
  obtain ⟨e, he, hid⟩ := mem_map.1 hmem
  have hother : e.id.1 ≠ i := by
    rw [hid]
    exact hj
  exact h.2 (mem_map.2 ⟨e, (hframe.lin e hother).1 he, hid⟩)

/-- **An access of one thread does no harm to another.** -/
theorem ThreadInv.frame (hs : Settled l₀ s l lin) {j : ι} (hj : j ≠ i)
    (hframe : Frame i (s.agent i).owned s.shared lin c' lin') : ThreadInv j c' lin' (s.agent j) := by
  have h := hs.thread j
  refine ⟨?_, ?_⟩
  · have hphase := h.phase
    generalize hp : (s.agent j).phase = p at hphase ⊢
    cases p with
    | idle => trivial
    | popLoad => exact Pending.frame hphase hframe hj
    | popNext oldTop since =>
      obtain ⟨hpending, hloaded, hne⟩ := hphase
      exact ⟨hpending.frame hframe hj, hloaded.frame hframe.top, hne⟩
    | popSwap oldTop newTop since =>
      obtain ⟨hpending, hloaded, hne, hctr, hnext⟩ := hphase
      refine ⟨hpending.frame hframe hj, hloaded.frame hframe.top, hne, hctr, ?_⟩
      intro hsince
      have hle := hloaded.le
      -- if no swap has succeeded, the block is still on the stack, and nobody owns it
      rcases hframe.top with ⟨hswaps, -⟩ | ⟨hswaps, -⟩
      · rw [hswaps] at hsince
        have htop := hloaded.top hsince
        rw [← htop] at hne
        have hmem := hs.top_mem hne
        rw [hnext hsince, hframe.pNext oldTop.ptr]
        intro howned
        rw [← htop] at howned
        exact hs.apart i _ howned hmem
      · omega
    | pushLoad val | pushNext val oldTop => exact ⟨Pending.frame hphase.1 hframe hj, hphase.2⟩
    | pushSwap val oldTop newTop =>
      obtain ⟨hpending, howned, hnew, hnext⟩ := hphase
      refine ⟨hpending.frame hframe hj, howned, hnew, ?_⟩
      rw [hframe.pNext val, hnext]
      exact fun howned' => hj (hs.exclusive j i val howned howned')
    | done op res => exact (hframe.lin _ hj).2 hphase
  · intro n op hn hmem
    exact h.fresh n op hn ((hframe.hist j hj n op).1 hmem)

lemma PhaseInv.mono {t : Thread} {p : Phase} (h : PhaseInv i c lin t p) (hops : t'.ops = t.ops)
    (howned : t.owned ⊆ t'.owned) : PhaseInv i c lin t' p := by
  cases p with
  | idle => trivial
  | popLoad | popNext | popSwap | done => simpa only [PhaseInv, hops] using h
  | pushLoad | pushNext =>
    simp only [PhaseInv, hops] at h ⊢
    exact h.imp_right fun hmem => howned hmem
  | pushSwap =>
    simp only [PhaseInv, hops] at h ⊢
    exact h.imp_right (And.imp_left fun hmem => howned hmem)

lemma Settled.fresh (hs : Settled l₀ s l lin) (hne : phase ≠ .idle) :
    ∀ n op, (s.agent i).ops < n ∨ phase = .idle ∧ n = (s.agent i).ops → HistEvent.call (i, n) op ∉ s.shared.hist := by
  rintro n op (hn | ⟨hidle, -⟩)
  · exact (hs.thread i).fresh n op (Or.inl hn)
  · exact absurd hidle hne

lemma mem_append_taken {e : Taken (ι × ℕ) StackOp (Option Addr)} {n : ℕ}
    (he : e.id.1 ≠ i) : e ∈ lin ++ [⟨(i, n), op, res⟩] ↔ e ∈ lin := by
  constructor
  · intro hmem
    rcases mem_append.1 hmem with hmem | hmem
    · exact hmem
    · rw [mem_singleton.1 hmem] at he
      exact absurd rfl he
  · exact mem_append_left _

/-! ## Where blocks are -/

def At (l : List Addr) (s : Stack ι) : Option ι → Addr → Prop
  | none, b => b ∈ l
  | some i, b => b ∈ (s.agent i).owned

def SettledWith (l₀ : List Addr) (blocks : Addr → Prop) (s : Stack ι) : Prop :=
  ∃ l lin, Settled l₀ s l lin ∧ ∀ b, (∃ p, At l s p b) ↔ blocks b

/-- Threads that do not use the stack, which holds the blocks `l`. All blocks are different. -/
structure AtRest (s : Stack ι) (l : List Addr) : Prop extends Placed s l where
  idle : ∀ i, (s.agent i).phase = .idle
  hist : s.shared.hist = []

lemma AtRest.settledWith (h : AtRest s l) : SettledWith l (fun b => ∃ p, At l s p b) s := by
  refine ⟨l, [], ⟨h.toPlaced, ?_, ?_⟩, fun _ => Iff.rfl⟩
  · rw [h.hist]
    exact Linearizes.nil lifo l
  · intro i
    refine ⟨?_, ?_⟩
    · rw [h.idle i]
      trivial
    · intro n op _
      rw [h.hist]
      exact not_mem_nil

lemma Settled.at_unique (hs : Settled l₀ s l lin) {p q : Option ι} {b : Addr} (hp : At l s p b)
    (hq : At l s q b) : p = q := by
  cases p with
  | none =>
    cases q with
    | none => rfl
    | some j => exact absurd hp (hs.apart j b hq)
  | some i =>
    cases q with
    | none => exact absurd hq (hs.apart i b hp)
    | some j => rw [hs.exclusive i j b hp hq]

/-! ## Putting a step together -/

variable [DecidableEq ι]

section

variable (hs : Settled l₀ s l lin) {newTop : PointerT}

include hs

section

variable (hframe : Frame i (s.agent i).owned s.shared lin c' lin')

include hframe

/-- **A step**, from what becomes of the thread, of the stack and of the order. Blocks may go from the thread
to the stack and back. -/
theorem Settled.act (hchain : NextChain c'.pNext 0 c'.top.ptr l') (hnodup : l'.Nodup)
    (hlin : Linearizes lifo l₀ c'.hist lin' l') (hthread : ThreadInv i c' lin' t') (hapart : ∀ b ∈ t'.owned, b ∉ l')
    (hblocks : ∀ b, b ∈ l' ∨ b ∈ t'.owned ↔ b ∈ l ∨ b ∈ (s.agent i).owned) :
    Settled l₀ ⟨c', update s.agent i t'⟩ l' lin' := by
  -- blocks of others are neither the thread's nor on the stack, before and after
  have hother : ∀ j, j ≠ i → ∀ b ∈ (s.agent j).owned, b ∉ l' ∧ b ∉ t'.owned := by
    intro j hj b hb
    have hnot : ¬ (b ∈ l ∨ b ∈ (s.agent i).owned) := by
      rintro (hmem | hmem)
      · exact hs.apart j b hb hmem
      · exact hj (hs.exclusive j i b hb hmem)
    exact not_or.1 (fun h => hnot ((hblocks b).1 h))
  refine ⟨⟨hchain, hnodup, ?_, ?_, ?_⟩, hlin, ?_⟩
  · exact (forall_update_iff s.agent fun _ t => ∀ b ∈ t.owned, b ∉ l').mpr ⟨hapart, fun j hj b hb => (hother j hj b hb).1⟩
  · intro j k b hb hb'
    by_cases hj : j = i
    · by_cases hk : k = i
      · rw [hj, hk]
      · subst hj
        simp only [update_self, update_of_ne hk] at hb hb'
        exact absurd hb (hother k hk b hb').2
    · by_cases hk : k = i
      · subst hk
        simp only [update_self, update_of_ne hj] at hb hb'
        exact absurd hb' (hother j hj b hb).2
      · simp only [update_of_ne hj, update_of_ne hk] at hb hb'
        exact hs.exclusive j k b hb hb'
  · refine (forall_update_iff s.agent fun _ t => ∀ b ∈ t.owned, b ≠ 0).mpr ⟨fun b hb => ?_, fun j _ => hs.ne_null j⟩
    rcases (hblocks b).1 (Or.inr hb) with hmem | hmem
    · exact hs.chain.ne_null hmem
    · exact hs.ne_null i b hmem
  · exact (forall_update_iff _ fun j t => ThreadInv j c' lin' t).mpr
      ⟨hthread, fun j hj => ThreadInv.frame hs hj hframe⟩

lemma Settled.stay (hlin : Linearizes lifo l₀ c'.hist lin' l) (hthread : ThreadInv i c' lin' t')
    (htop : c'.top = s.shared.top) (howned : t'.owned = (s.agent i).owned) :
    Settled l₀ ⟨c', update s.agent i t'⟩ l lin' := by
  apply hs.act hframe ?_ hs.nodup hlin hthread
  · rw [howned]
    exact hs.apart i
  · intro b
    rw [howned]
  · rw [htop]
    apply hs.chain.congr
    intro b hb
    exact hframe.pNext b fun hmem => hs.apart i b hmem hb

end

/-! ## Calls and returns -/

lemma Settled.call (hidle : (s.agent i).phase = .idle) (hne : phase ≠ .idle)
    (hphase : ∀ c : StackMem ι, Pending c lin (i, (s.agent i).ops) op →
      PhaseInv i c lin { s.agent i with phase := phase } phase) :
    Settled l₀ ⟨{ s.shared with hist := s.shared.hist ++ [.call (i, (s.agent i).ops) op] },
      update s.agent i { s.agent i with phase := phase }⟩ l lin := by
  have hfresh := (hs.thread i).fresh
  have hnew : ∀ op', HistEvent.call (i, (s.agent i).ops) op' ∉ s.shared.hist :=
    fun op' => hfresh _ op' (Or.inr ⟨hidle, rfl⟩)
  refine hs.stay ⟨?_, fun _ _ => Iff.rfl, Or.inl ⟨rfl, rfl⟩, fun _ _ => rfl⟩
    (hs.linearizes.call hnew op) ⟨?_, ?_⟩ rfl rfl
  · intro j hj n op'
    simp [hj]
  · apply hphase
    refine ⟨mem_append_right _ (mem_singleton_self _), ?_⟩
    -- what was carried out has been called
    intro hmem
    obtain ⟨e, he, hid⟩ := mem_map.1 hmem
    have hcalled := hs.linearizes.called e he
    rw [hid] at hcalled
    exact hnew e.op hcalled
  · rintro n op' (hn | ⟨hphase', -⟩) hmem
    · have hn : (s.agent i).ops < n := hn
      rcases mem_append.1 hmem with hmem | hmem
      · exact hfresh n op' (Or.inl hn) hmem
      · simp only [mem_singleton, HistEvent.call.injEq, Prod.mk.injEq] at hmem
        omega
    · exact hne hphase'

lemma Settled.ret (hdone : (s.agent i).phase = .done op res) :
    Settled l₀ ⟨{ s.shared with hist := s.shared.hist ++ [.ret (i, (s.agent i).ops) res] }, update s.agent i
        { s.agent i with phase := .idle, ops := (s.agent i).ops + 1 }⟩ l lin := by
  have hphase := (hs.thread i).phase
  rw [hdone] at hphase
  refine hs.stay ⟨?_, fun _ _ => Iff.rfl, Or.inl ⟨rfl, rfl⟩, fun _ _ => rfl⟩
    (hs.linearizes.ret hphase) ⟨trivial, ?_⟩ rfl rfl
  · intro j hj n op'
    simp
  · intro n op' hn hmem
    have hn : (s.agent i).ops + 1 < n ∨ _ ∧ n = (s.agent i).ops + 1 := hn
    have hlt : (s.agent i).ops < n := by omega
    rcases mem_append.1 hmem with hmem | hmem
    · exact (hs.thread i).fresh n op' (Or.inl hlt) hmem
    · simp at hmem

/-! ## Accesses -/

lemma Settled.move (hne : phase ≠ .idle) (hphase : PhaseInv i s.shared lin { s.agent i with phase := phase } phase) :
    Settled l₀ ⟨s.shared, update s.agent i { s.agent i with phase := phase }⟩ l lin :=
  hs.stay (Frame.refl ..) hs.linearizes ⟨hphase, hs.fresh hne⟩ rfl rfl

lemma Settled.write {b v : Addr} (hb : b ∈ (s.agent i).owned)
    (hthread : ThreadInv i { s.shared with pNext := update s.shared.pNext b v } lin t')
    (howned : t'.owned = (s.agent i).owned) : Settled l₀ ⟨{ s.shared with pNext := update s.shared.pNext b v },
      update s.agent i t'⟩ l lin := by
  refine hs.stay ⟨fun _ _ _ _ => Iff.rfl, fun _ _ => Iff.rfl, Or.inl ⟨rfl, rfl⟩, ?_⟩ hs.linearizes hthread rfl howned
  intro b' hb'
  have hne : b' ≠ b := by
    rintro rfl
    exact hb' hb
  exact update_of_ne hne ..

/-- **A pop finds the stack empty.** -/
theorem Settled.popEmpty (hphase : (s.agent i).phase = .popLoad) (hempty : s.shared.top.ptr = 0) :
    ∃ lin', Settled l₀ ⟨s.shared, update s.agent i { s.agent i with phase := .done .pop none }⟩ l lin' := by
  have hpending := (hs.thread i).phase
  rw [hphase] at hpending
  obtain ⟨hcall, hnew⟩ := hpending
  have hchain := hs.chain
  rw [hempty] at hchain
  obtain rfl := hchain.eq_nil
  refine ⟨_, hs.stay ⟨fun _ _ _ _ => Iff.rfl, fun _ he => mem_append_taken he, Or.inl ⟨rfl, rfl⟩,
    fun _ _ => rfl⟩ (hs.linearizes.take hcall hnew) ⟨?_, hs.fresh (by simp)⟩ rfl rfl⟩
  exact mem_append_right _ (mem_singleton_self _)

/-- **The swap of a pop succeeds.** The word has not been changed since it was read, so the first block is
taken off the stack, with what was read of it. -/
theorem Settled.popSwap (hphase : (s.agent i).phase = .popSwap oldTop newTop since) (htop : s.shared.top = oldTop)
    (htimely : s.shared.swaps < since + 2 ^ 16) :
    ∃ l' lin', Settled l₀ ⟨{ s.shared with top := newTop, swaps := s.shared.swaps + 1 },
        update s.agent i { s.agent i with
          phase := .done .pop (some oldTop.ptr)
          owned := insert oldTop.ptr (s.agent i).owned }⟩ l' lin' ∧
      ∀ b, b ∈ l' ∨ b ∈ insert oldTop.ptr (s.agent i).owned ↔ b ∈ l ∨ b ∈ (s.agent i).owned := by
  have hpending := (hs.thread i).phase
  rw [hphase] at hpending
  obtain ⟨⟨hcall, hnew⟩, hloaded, hne, hctr, hnext⟩ := hpending
  have hsince := hloaded.eq_since htop htimely
  obtain ⟨rest, rfl, hrest⟩ := hs.chain.exists_cons (htop ▸ hne)
  rw [htop] at hrest ⊢
  have hnotin : oldTop.ptr ∉ rest := by
    have hnodup := hs.nodup
    rw [htop] at hnodup
    exact (nodup_cons.1 hnodup).1
  have hblocks : ∀ b, b ∈ rest ∨ b ∈ insert oldTop.ptr (s.agent i).owned ↔
      b ∈ oldTop.ptr :: rest ∨ b ∈ (s.agent i).owned := by
    intro b
    simp only [Finset.mem_insert, mem_cons]
    tauto
  have hlin := hs.linearizes.take hcall hnew
  rw [htop] at hlin
  refine ⟨rest, _, hs.act ⟨fun _ _ _ _ => Iff.rfl, fun _ he => mem_append_taken he, ?_,
    fun _ _ => rfl⟩ ?_ (nodup_cons.1 hs.nodup).2 hlin ⟨?_, hs.fresh (by simp)⟩ ?_ ?_, hblocks⟩
  · right
    refine ⟨rfl, ?_⟩
    rw [htop]
    exact hctr
  · rw [hnext hsince]
    exact hrest
  · exact mem_append_right _ (mem_singleton_self _)
  · intro b hb
    rcases Finset.mem_insert.1 hb with rfl | hb
    · exact hnotin
    · exact fun hmem => hs.apart i b hb (mem_cons_of_mem _ hmem)
  · rw [htop]
    exact hblocks

/-- **The swap of a push succeeds.** The field of the block leads to the stack as it is. -/
theorem Settled.pushSwap {val : Addr}
    (hphase : (s.agent i).phase = .pushSwap val oldTop newTop) (htop : s.shared.top = oldTop) :
    ∃ l' lin', Settled l₀ ⟨{ s.shared with top := newTop, swaps := s.shared.swaps + 1 },
        update s.agent i { s.agent i with
          phase := .done (.push val) none
          owned := (s.agent i).owned.erase val }⟩ l' lin' ∧
      ∀ b, b ∈ l' ∨ b ∈ (s.agent i).owned.erase val ↔ b ∈ l ∨ b ∈ (s.agent i).owned := by
  have hpending := (hs.thread i).phase
  rw [hphase] at hpending
  obtain ⟨⟨hcall, hnew⟩, howned, rfl, hnext⟩ := hpending
  have hblocks : ∀ b, b ∈ val :: l ∨ b ∈ (s.agent i).owned.erase val ↔ b ∈ l ∨ b ∈ (s.agent i).owned := by
    intro b
    by_cases hb : b = val
    · subst hb
      simp [howned]
    · simp [hb]
  refine ⟨val :: l, _, hs.act ⟨fun _ _ _ _ => Iff.rfl, fun _ he => mem_append_taken he, ?_,
    fun _ _ => rfl⟩ ?_ (nodup_cons.2 ⟨hs.apart i val howned, hs.nodup⟩)
    (hs.linearizes.take hcall hnew) ⟨?_, hs.fresh (by simp)⟩ ?_ hblocks, hblocks⟩
  · right
    refine ⟨rfl, ?_⟩
    rw [htop]
  · apply NextChain.cons (hs.ne_null i val howned)
    rw [hnext, ← htop]
    exact hs.chain
  · exact mem_append_right _ (mem_singleton_self _)
  · intro b hb
    obtain ⟨hne, hb⟩ := Finset.mem_erase.1 hb
    intro hmem
    rcases mem_cons.1 hmem with rfl | hmem
    · exact hne rfl
    · exact hs.apart i b hb hmem

end

/-! ## Steps and runs -/

def SameBlocks (l : List Addr) (t : Thread) (l' : List Addr) (t' : Thread) : Prop :=
  ∀ b, b ∈ l' ∨ b ∈ t'.owned ↔ b ∈ l ∨ b ∈ t.owned

/-- **An access of a call keeps the invariant.** -/
theorem Settled.goOn (hs : Settled l₀ s l lin)
    (htimely : ∀ oldTop newTop since, (s.agent i).phase = .popSwap oldTop newTop since →
      s.shared.swaps < since + 2 ^ 16)
    (hstep : MemPool.goOn i s.shared (s.agent i) (s.agent i).phase = some (c', t')) :
    ∃ l' lin', Settled l₀ ⟨c', update s.agent i t'⟩ l' lin' ∧ SameBlocks l (s.agent i) l' t' := by
  have hphase := (hs.thread i).phase
  generalize hp : (s.agent i).phase = p at hphase hstep
  cases p with
  | idle => cases hstep
  | popLoad =>
    simp only [MemPool.goOn] at hstep
    split at hstep
    next hempty =>
      cases hstep
      obtain ⟨lin', hs'⟩ := hs.popEmpty hp hempty
      exact ⟨l, lin', hs', fun _ => Iff.rfl⟩
    next hne =>
      cases hstep
      have hloaded : Loaded s.shared s.shared.top s.shared.swaps := ⟨Nat.le_refl _, by simp, fun _ => rfl⟩
      exact ⟨l, lin, hs.move (by simp) ⟨hphase, hloaded, hne⟩, fun _ => Iff.rfl⟩
  | popNext oldTop since =>
    cases hstep
    obtain ⟨hpending, hloaded, hne⟩ := hphase
    exact ⟨l, lin, hs.move (by simp) ⟨hpending, hloaded, hne, rfl, fun _ => rfl⟩, fun _ => Iff.rfl⟩
  | popSwap oldTop newTop since =>
    simp only [MemPool.goOn] at hstep
    split at hstep
    next htop =>
      cases hstep
      exact hs.popSwap hp htop (htimely oldTop newTop since hp)
    next =>
      cases hstep
      exact ⟨l, lin, hs.move (by simp) hphase.1, fun _ => Iff.rfl⟩
  | pushLoad val =>
    cases hstep
    exact ⟨l, lin, hs.move (by simp) hphase, fun _ => Iff.rfl⟩
  | pushNext val oldTop =>
    cases hstep
    refine ⟨l, lin, hs.write hphase.2 ⟨?_, hs.fresh (by simp)⟩ rfl, fun _ => Iff.rfl⟩
    exact ⟨hphase.1, hphase.2, rfl, update_self ..⟩
  | pushSwap val oldTop newTop =>
    simp only [MemPool.goOn] at hstep
    split at hstep
    next htop =>
      cases hstep
      exact hs.pushSwap hp htop
    next =>
      cases hstep
      exact ⟨l, lin, hs.move (by simp) ⟨hphase.1, hphase.2.1⟩, fun _ => Iff.rfl⟩
  | done op res =>
    cases hstep
    exact ⟨l, lin, hs.ret hp, fun _ => Iff.rfl⟩

/-- **An action of a thread keeps the invariant.** -/
theorem Settled.stackAct (hs : Settled l₀ s l lin) {a : StackAction ι} (htimely : Timely s (i, a))
    (hstep : MemPool.stackAct i s.shared (s.agent i) a = some (c', t')) :
    ∃ l' lin', Settled l₀ ⟨c', update s.agent i t'⟩ l' lin' ∧ SameBlocks l (s.agent i) l' t' := by
  cases a with
  | pop =>
    obtain ⟨hidle, hsome⟩ := Option.ite_none_right_eq_some.mp hstep
    cases hsome
    exact ⟨l, lin, hs.call hidle (by simp) (fun _ h => h), fun _ => Iff.rfl⟩
  | push val =>
    obtain ⟨hidle, hsome⟩ := Option.ite_none_right_eq_some.mp hstep
    cases hsome
    exact ⟨l, lin, hs.call hidle.1 (by simp) (fun _ h => ⟨h, hidle.2⟩), fun _ => Iff.rfl⟩
  | go => exact hs.goOn htimely hstep
  | write b v =>
    obtain ⟨hidle, hsome⟩ := Option.ite_none_right_eq_some.mp hstep
    cases hsome
    refine ⟨l, lin, hs.write hidle.2 ⟨?_, (hs.thread i).fresh⟩ rfl, fun _ => Iff.rfl⟩
    rw [hidle.1]
    trivial
  | hand b j => cases hstep

lemma SameBlocks.exists_at (h : SameBlocks l (s.agent i) l' t') (b : Addr) :
    (∃ p, At l' ⟨c', update s.agent i t'⟩ p b) ↔ ∃ p, At l s p b := by
  have hafter := exists_update_iff s.agent (a := i) (b := t') fun _ t => b ∈ t.owned
  have hbefore := exists_update_iff s.agent (a := i) (b := s.agent i) fun _ t => b ∈ t.owned
  rw [update_eq_self] at hbefore
  simp only [Option.exists, At, hafter, hbefore, ← or_assoc, h b]

/-- **A thread that gives a block away keeps the invariant.** The one that gets it may be inside a call. -/
theorem SettledWith.handOver (h : SettledWith l₀ blocks s) {j : ι} {b : Addr}
    (hstep : MemPool.handOver s i j b = some s') : SettledWith l₀ blocks s' := by
  obtain ⟨l, lin, hs, hblocks⟩ := h
  obtain ⟨⟨hidle, hb⟩, hsome⟩ := Option.ite_none_right_eq_some.mp hstep
  cases hsome
  have honly : ∀ k, k ≠ i → b ∉ (s.agent k).owned := fun k hk hmem => hk (hs.exclusive k i b hmem hb)
  -- the block is thread `j`'s, and every other block is where it was
  have howned : ∀ k b', b' ∈ (if k = j then insert b (s.agent k).owned
      else if k = i then (s.agent k).owned.erase b else (s.agent k).owned) ↔
      if b' = b then k = j else b' ∈ (s.agent k).owned := by
    intro k b'
    by_cases hb' : b' = b
    · rw [if_pos hb', hb']
      split_ifs with hj hi
      · simp [hj]
      · simp [hj]
      · simp [hj, honly k hi]
    · rw [if_neg hb']
      split_ifs <;> simp [hb']
  have hfrom : ∀ k b', (if b' = b then k = j else b' ∈ (s.agent k).owned) → ∃ k', b' ∈ (s.agent k').owned := by
    intro k b' hmem
    split_ifs at hmem with hb'
    · exact ⟨i, hb' ▸ hb⟩
    · exact ⟨k, hmem⟩
  refine ⟨l, lin, ⟨⟨hs.chain, hs.nodup, ?_, ?_, ?_⟩, hs.linearizes, ?_⟩, ?_⟩
  · intro k b' hmem
    obtain ⟨k', hmem'⟩ := hfrom k b' ((howned k b').1 hmem)
    exact hs.apart k' b' hmem'
  · intro k k' b' hmem hmem'
    have hk := (howned k b').1 hmem
    have hk' := (howned k' b').1 hmem'
    split_ifs at hk hk'
    · exact hk.trans hk'.symm
    · exact hs.exclusive k k' b' hk hk'
  · intro k b' hmem
    obtain ⟨k', hmem'⟩ := hfrom k b' ((howned k b').1 hmem)
    exact hs.ne_null k' b' hmem'
  · intro k
    refine ⟨?_, (hs.thread k).fresh⟩
    by_cases hk : k = i
    · subst hk
      simp only [hidle]
      trivial
    · refine PhaseInv.mono (hs.thread k).phase rfl ?_
      intro b' hmem
      apply (howned k b').2
      rw [if_neg]
      · exact hmem
      · exact fun hb' => honly k hk (hb' ▸ hmem)
  · intro b'
    rw [← hblocks b']
    simp only [Option.exists, At, howned]
    split_ifs with hb'
    · subst hb'
      exact or_congr_right (iff_of_true ⟨j, rfl⟩ ⟨i, hb⟩)
    · rfl

lemma SettledWith.step {e : ι × StackAction ι} (h : SettledWith l₀ blocks s) (htimely : Timely s e)
    (hstep : stackStep s e = some s') : SettledWith l₀ blocks s' := by
  obtain ⟨i, a⟩ := e
  cases a with
  | hand b j => exact h.handOver hstep
  | _ =>
    obtain ⟨l, lin, hs, hblocks⟩ := h
    obtain ⟨c', t', hact, rfl⟩ := Agents.step_eq_some hstep
    obtain ⟨l', lin', hs', hsame⟩ := hs.stackAct htimely hact
    exact ⟨l', lin', hs', fun b => (hsame.exists_at b).trans (hblocks b)⟩

/-! ## The result -/

/-- **The stack is linearizable**, for any number of threads that take one access to the memory at a time, and
every block there is has one place. -/
theorem stack_linearizable {s₀ : Stack ι} {es : List (ι × StackAction ι)}
    (hrest : AtRest s₀ l₀) (hrun : Run (guarded Timely (ofFun stackStep)) s₀ es s) :
    ∃ l, NextChain s.shared.pNext 0 s.shared.top.ptr l ∧ l.Nodup ∧ (∀ b, (∃ p, At l₀ s₀ p b) → ∃! p, At l s p b) ∧
      (∀ b p, At l s p b → ∃ q, At l₀ s₀ q b) ∧ Linearizable lifo l₀ s.shared.hist := by
  have h : SettledWith l₀ (fun b => ∃ p, At l₀ s₀ p b) s :=
    hrun.invariant (fun _ _ _ hs hstep => hs.step hstep.1 hstep.2) hrest.settledWith
  obtain ⟨l, lin, hs, hblocks⟩ := h
  refine ⟨l, hs.chain, hs.nodup, ?_, ?_, lin, l, hs.linearizes⟩
  · intro b hb
    obtain ⟨p, hp⟩ := (hblocks b).2 hb
    exact ⟨p, hp, fun q hq => hs.at_unique hq hp⟩
  · exact fun b p hp => (hblocks b).1 ⟨p, hp⟩

def twoBlocks : Stack Bool where
  shared := ⟨⟨0, 1⟩, fun b => if b = 1 then 2 else 0, 0, []⟩
  agent _ := ⟨.idle, ∅, 0⟩

lemma twoBlocks_atRest : AtRest twoBlocks [1, 2] where
  idle _ := rfl
  hist := rfl
  chain := ⟨rfl, by decide, rfl, by decide, rfl⟩
  nodup := by decide
  apart _ _ hb := absurd hb (Finset.notMem_empty _)
  exclusive _ _ _ hb := absurd hb (Finset.notMem_empty _)
  ne_null _ _ hb := absurd hb (Finset.notMem_empty _)

/-- One thread is about to swap when the other pops the first block. Its swap fails and it pops the second one. The
first block is then handed to it, and it pushes that block. -/
def popsAndHand : List (Bool × StackAction Bool) :=
  [(false, .pop), (false, .go), (false, .go), (true, .pop), (true, .go), (true, .go), (true, .go), (true, .go),
    (false, .go), (false, .go), (false, .go), (false, .go), (false, .go), (true, .hand 1 false), (false, .push 1),
    (false, .go), (false, .go), (false, .go), (false, .go)]

theorem two_pops_linearizable : ∃ s, Run (guarded Timely (ofFun stackStep)) twoBlocks popsAndHand s ∧
    s.shared.top = ⟨3, 1⟩ ∧ s.shared.pNext 1 = 0 ∧ (s.agent true).owned = ∅ ∧ (s.agent false).owned = {2} ∧
    Linearizable lifo [1, 2] s.shared.hist := by
  have hexec : (exec (guardFun (fun s _ => s.shared.swaps < 2 ^ 16) stackStep) twoBlocks popsAndHand).map
      (fun s => (s.shared.top, s.shared.pNext 1, (s.agent true).owned, (s.agent false).owned)) =
        some (⟨3, 1⟩, 0, ∅, {2}) := by
    decide +kernel
  obtain ⟨s, hs, heq⟩ := Option.map_eq_some_iff.mp hexec
  simp only [Prod.mk.injEq] at heq
  obtain ⟨htop, hnext, htrue, hfalse⟩ := heq
  have hrun : Run (guarded Timely (ofFun stackStep)) twoBlocks popsAndHand s :=
    (exec_guardFun_run hs).mono fun _ _ _ hstep => ⟨fun _ _ _ _ => Nat.lt_add_left _ hstep.1, hstep.2⟩
  obtain ⟨l, -, -, -, -, hlin⟩ := stack_linearizable twoBlocks_atRest hrun
  exact ⟨s, hrun, htop, hnext, htrue, hfalse, hlin⟩

end QuickAssist.MemPool
