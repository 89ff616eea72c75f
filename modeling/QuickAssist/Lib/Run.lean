import Mathlib.Data.List.Basic

/-!
# Runs of a step relation, and the induction that proves invariants of them

A component that takes step after step is a relation `step : σ → ε → σ → Prop`: in state `s` the event `e` may lead to
`s'`. Most of what is proved about whole runs goes through `Run.invariant`: a property that every step keeps holds at
the end of every run that starts in it. A run of `guarded G step` is a run all of whose steps meet the condition `G` on
the state *before* the step and the event. `exec` runs a *function* `step : σ → ε → Option σ`, and `exec_run` turns
such an execution into a `Run`.
-/

namespace QuickAssist.Lib

variable {σ ε : Type*} {I : σ → Prop}

/-- The events `es` lead from the first state to the last, one step each. -/
inductive Run (step : σ → ε → σ → Prop) : σ → List ε → σ → Prop
  | nil (s : σ) : Run step s [] s
  | cons {s t u : σ} {e : ε} {es : List ε} : step s e t → Run step t es u → Run step s (e :: es) u

/-- The steps of `step` that meet the condition `G` on the event and on the state before it. -/
def guarded (G : σ → ε → Prop) (step : σ → ε → σ → Prop) (s : σ) (e : ε) (s' : σ) : Prop := G s e ∧ step s e s'

/-- The step relation of a step function that may refuse an event. -/
def ofFun (step : σ → ε → Option σ) (s : σ) (e : ε) (s' : σ) : Prop := step s e = some s'

namespace Run

variable {step step' : σ → ε → σ → Prop} {s t u : σ} {e : ε} {es fs : List ε}

lemma single (h : step s e t) : Run step s [e] t := cons h (nil t)

lemma append (h₁ : Run step s es t) (h₂ : Run step t fs u) : Run step s (es ++ fs) u := by
  induction h₁ with
  | nil s => exact h₂
  | cons hstep _ ih => exact cons hstep (ih h₂)

lemma mono (hsub : ∀ s e s', step s e s' → step' s e s') (h : Run step s es t) : Run step' s es t := by
  induction h with
  | nil s => exact nil s
  | cons hstep _ ih => exact cons (hsub _ _ _ hstep) ih

/-- **The invariant rule.** A property that every step keeps holds after every run that starts
in a state with the property. -/
theorem invariant (hstep : ∀ s e s', I s → step s e s' → I s') (h : Run step s es t) (hs : I s) : I t := by
  induction h with
  | nil s => exact hs
  | cons h₁ _ ih => exact ih (hstep _ _ _ hs h₁)

/-- **Simulation.** If every step is matched by a step of another relation, between what the states
stand for, every run is matched by a run. -/
theorem simulation {τ : Type*} {abs : σ → τ} {astep : τ → ε → τ → Prop}
    (hstep : ∀ s e s', I s → step s e s' → I s' ∧ astep (abs s) e (abs s'))
    (h : Run step s es t) (hs : I s) : I t ∧ Run astep (abs s) es (abs t) := by
  induction h with
  | nil s => exact ⟨hs, nil _⟩
  | cons h₁ _ ih =>
    obtain ⟨hI, hmatch⟩ := hstep _ _ _ hs h₁
    obtain ⟨hend, hrun⟩ := ih hI
    exact ⟨hend, cons hmatch hrun⟩

/-- A run that exists, with what is known of every run. -/
lemma exists_and {P : σ → Prop} (h : Run step s es t) (hP : Run step s es t → P t) : ∃ t, Run step s es t ∧ P t :=
  ⟨t, h, hP h⟩

end Run

/-! ## Executions of a step function -/

/-- Run a step function over a list of events, stopping at the first refusal. -/
def exec (step : σ → ε → Option σ) : σ → List ε → Option σ
  | s, [] => some s
  | s, e :: es => (step s e).bind fun s' => exec step s' es

lemma exec_run {step : σ → ε → Option σ} {s t : σ} {es : List ε}
    (h : exec step s es = some t) : Run (ofFun step) s es t := by
  induction es generalizing s with
  | nil =>
    simp only [exec, Option.some.injEq] at h
    exact h ▸ Run.nil s
  | cons e es ih =>
    simp only [exec, Option.bind_eq_some_iff] at h
    obtain ⟨s', hstep, hrest⟩ := h
    exact Run.cons hstep (ih hrest)

lemma exec_invariant {step : σ → ε → Option σ} {s t : σ} {es : List ε}
    (hstep : ∀ s e s', I s → step s e = some s' → I s') (h : exec step s es = some t) (hs : I s) : I t :=
  (exec_run h).invariant hstep hs

/-- The step function that refuses the events that do not meet a condition. -/
def guardFun (G : σ → ε → Prop) [∀ s e, Decidable (G s e)] (step : σ → ε → Option σ) (s : σ) (e : ε) : Option σ :=
  if G s e then step s e else none

lemma exec_guardFun_run {G : σ → ε → Prop} [∀ s e, Decidable (G s e)]
    {step : σ → ε → Option σ} {s t : σ} {es : List ε}
    (h : exec (guardFun G step) s es = some t) : Run (guarded G (ofFun step)) s es t := by
  refine (exec_run h).mono ?_
  intro s e s' hstep
  unfold ofFun guardFun at hstep
  split_ifs at hstep with hG
  exact ⟨hG, hstep⟩

end QuickAssist.Lib
