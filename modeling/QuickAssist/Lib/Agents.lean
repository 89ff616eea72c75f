import QuickAssist.Lib.Run

/-!
# Agents with a shared state

Any number of agents take turns. An action of an agent may change its own state and the state that all of them share.
Three rules derive facts about the whole from facts about one action: `Agents.agent_of_run`, `Agents.forall_step` and
`Exclusive.step`. The last is about a flag in the shared state: if an agent takes hold of something only while the
flag is clear, sets it then, and clears it when it lets go, there is at most one holder.
-/

namespace QuickAssist.Lib

open Function

variable {σ τ ι α : Type*}

/-- The shared state and the state of each agent. -/
structure Agents (σ τ ι : Type*) where
  shared : σ
  agent : ι → τ

namespace Agents

variable [DecidableEq ι]

/-- An agent takes an action. -/
def step (act : σ → τ → α → Option (σ × τ)) (s : Agents σ τ ι) (e : ι × α) : Option (Agents σ τ ι) :=
  (act s.shared (s.agent e.1) e.2).map fun c => ⟨c.1, update s.agent e.1 c.2⟩

variable {act : σ → τ → α → Option (σ × τ)} {s s' : Agents σ τ ι} {e : ι × α}

lemma step_eq_some (h : step act s e = some s') :
    ∃ c t, act s.shared (s.agent e.1) e.2 = some (c, t) ∧ s' = ⟨c, update s.agent e.1 t⟩ := by
  obtain ⟨⟨c, t⟩, hact, rfl⟩ := Option.map_eq_some_iff.mp h
  exact ⟨c, t, hact, rfl⟩

/-- What holds of all agents, and of the new state of the one that acts, holds of all afterwards. -/
lemma forall_step {P : τ → Prop} {i : ι} {c : σ} {t : τ} (h : ∀ j, P (s.agent j)) (ht : P t) :
    ∀ j, P ((⟨c, update s.agent i t⟩ : Agents σ τ ι).agent j) := by
  intro j
  by_cases hj : j = i
  · subst hj
    simpa using ht
  · simpa [update_of_ne hj] using h j

lemma agent_of_run {es : List (ι × α)} {i : ι} (h : Run (ofFun (step act)) s es s')
    (hi : i ∉ es.map Prod.fst) : s'.agent i = s.agent i := by
  induction h with
  | nil s => rfl
  | @cons s t u e es hstep _ ih =>
    simp only [List.map_cons, List.mem_cons, not_or] at hi
    obtain ⟨c, x, -, rfl⟩ := step_eq_some hstep
    rw [ih hi.2]
    exact update_of_ne hi.1 x s.agent

end Agents

/-! ## A flag with one holder -/

/-- The flag says whether there is a holder, and there is at most one. -/
structure Exclusive (flag : σ → Prop) (holds : τ → Prop) (s : Agents σ τ ι) : Prop where
  flag_iff : flag s.shared ↔ ∃ i, holds (s.agent i)
  unique : ∀ i j, holds (s.agent i) → holds (s.agent j) → i = j

/-- How an action treats the flag. -/
structure KeepsFlag (flag : σ → Prop) (holds : τ → Prop) (c : σ) (t : τ) (c' : σ) (t' : τ) : Prop where
  take : ¬ holds t → holds t' → ¬ flag c ∧ flag c'
  letGo : holds t → ¬ holds t' → ¬ flag c'
  keep : (holds t' ↔ holds t) → (flag c' ↔ flag c)

lemma KeepsFlag.of_same {flag : σ → Prop} {holds : τ → Prop} {c c' : σ} {t t' : τ}
    (hholds : holds t' ↔ holds t) (hflag : flag c' ↔ flag c) : KeepsFlag flag holds c t c' t' where
  take := fun hnot hholds' => absurd (hholds.mp hholds') hnot
  letGo := fun hholds' hnot => absurd (hholds.mpr hholds') hnot
  keep := fun _ => hflag

section Flag

variable [DecidableEq ι] {flag : σ → Prop} {holds : τ → Prop} {s : Agents σ τ ι} {i : ι} {c : σ} {t : τ}

lemma Exclusive.of_alone (halone : ∀ j, j ≠ i → ¬ holds (s.agent j)) (hflag : flag c ↔ holds t) :
    Exclusive flag holds ⟨c, update s.agent i t⟩ := by
  have hholder : ∀ j, holds (update s.agent i t j) → j = i := by
    intro j hj
    by_contra hne
    rw [update_of_ne hne] at hj
    exact halone j hne hj
  constructor
  · refine hflag.trans ⟨fun ht => ⟨i, by simpa using ht⟩, ?_⟩
    rintro ⟨j, hj⟩
    obtain rfl := hholder j hj
    simpa using hj
  · intro j k hj hk
    rw [hholder j hj, hholder k hk]

/-- **The flag stays right.** -/
theorem Exclusive.step (h : Exclusive flag holds s) (hkeeps : KeepsFlag flag holds s.shared (s.agent i) c t) :
    Exclusive flag holds ⟨c, update s.agent i t⟩ := by
  by_cases hbefore : holds (s.agent i)
  · -- there was no other holder
    apply Exclusive.of_alone
    · intro j hj hholds
      exact hj (h.unique j i hholds hbefore)
    · by_cases hafter : holds t
      · exact (hkeeps.keep (iff_of_true hafter hbefore)).trans (iff_of_true (h.flag_iff.mpr ⟨i, hbefore⟩) hafter)
      · exact iff_of_false (hkeeps.letGo hbefore hafter) hafter
  · by_cases hafter : holds t
    · -- nobody held it
      obtain ⟨hclear, hset⟩ := hkeeps.take hbefore hafter
      apply Exclusive.of_alone
      · intro j _ hj
        exact hclear (h.flag_iff.mpr ⟨j, hj⟩)
      · exact iff_of_true hset hafter
    · have hsame : ∀ j, holds (update s.agent i t j) ↔ holds (s.agent j) := by
        intro j
        by_cases hj : j = i
        · subst hj
          simp [hafter, hbefore]
        · simp [update_of_ne hj]
      constructor
      · refine (hkeeps.keep (iff_of_false hafter hbefore)).trans (h.flag_iff.trans ?_)
        exact (exists_congr hsame).symm
      · intro j k hj hk
        exact h.unique j k ((hsame j).mp hj) ((hsame k).mp hk)

end Flag

end QuickAssist.Lib
