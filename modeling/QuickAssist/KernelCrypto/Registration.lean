import Mathlib.Data.Finset.Card
import QuickAssist.Lib.Run

/-!
# Registering the algorithms

The first device to start registers the symmetric and the asymmetric algorithms with the kernel, and the last one to
stop takes them back. The devices are counted in an `active_devs` for each of the two files.

**The defects.** `adf_dev_stop` lowers the counters after an `adf_dev_start` that failed before it raised them, and
`adf_dev_start` keeps its increment when the kernel refuses an algorithm: `algorithms_registered`, `failed_start_counted`.
-/

namespace QuickAssist.KernelCrypto

open Lib Finset Function

/-- The files `qat_algs.c` and `qat_asym_algs.c`. -/
inductive AlgsFile
  | algs
  | asymAlgs
  deriving DecidableEq

/-- The counter of a file, which of its two kinds of algorithms the kernel has, and (not in the source) the devices
whose registration was made and not undone. -/
structure Algs (δ : Type*) where
  activeDevs : ℤ
  first : Bool
  second : Bool
  made : Finset δ

structure Registration (δ : Type*) where
  starting : δ → Bool
  started : δ → Bool
  file : AlgsFile → Algs δ

/-- How a call of `adf_dev_start` goes: it fails before it registers anything, or it gets there, and the kernel would
take the two kinds of algorithms of a file or refuse them. -/
inductive StartAnswer
  | failed
  | reached (takes : AlgsFile → Bool × Bool)

inductive RegistrationEvent (δ : Type*)
  | start (d : δ) (answer : StartAnswer)
  | stop (d : δ)

variable {δ : Type*} [DecidableEq δ]

/-- Source: `qat_algs_register` and `qat_asym_algs_register`. Only the former takes the first kind back if the second
is refused. -/
def algsRegister (f : AlgsFile) (takes : Bool × Bool) (d : δ) (a : Algs δ) : Algs δ × Bool :=
  let a := { a with activeDevs := a.activeDevs + 1 }
  if a.activeDevs ≠ 1 then ({ a with made := insert d a.made }, true)
  else if !takes.1 then (a, false)
  else if !takes.2 then ({ a with first := f = .asymAlgs }, false)
  else ({ a with first := true, second := true, made := insert d a.made }, true)

/-- Source: `qat_algs_unregister` and `qat_asym_algs_unregister`. -/
def algsUnregister (d : δ) (a : Algs δ) : Algs δ :=
  let a := { a with activeDevs := a.activeDevs - 1, made := a.made.erase d }
  if a.activeDevs ≠ 0 then a else { a with first := false, second := false }

-- a device offers the algorithms of a file if its `crypto_list` is not empty and the bit in its
-- `accel_capabilities_mask` is set
variable (offers : δ → AlgsFile → Bool)

/-- What `adf_dev_start` does with a file, and whether that went well. -/
def startFile (d : δ) (takes : AlgsFile → Bool × Bool) (s : Registration δ) (f : AlgsFile) : Algs δ × Bool :=
  if offers d f then algsRegister f (takes f) d (s.file f) else (s.file f, true)

def adfDevStart (d : δ) (answer : StartAnswer) (s : Registration δ) : Registration δ :=
  match answer with
  | .failed => { s with starting := update s.starting d true }
  | .reached takes =>
    let ok := (startFile offers d takes s .algs).2 && (startFile offers d takes s .asymAlgs).2
    { starting := update s.starting d !ok
      started := update s.started d ok
      file := fun f => (startFile offers d takes s f).1 }

def adfDevStop (d : δ) (s : Registration δ) : Registration δ :=
  if !s.started d && !s.starting d then s
  else
    { starting := update s.starting d false
      started := update s.started d false
      file := fun f => if offers d f then algsUnregister d (s.file f) else s.file f }

/-- The callers start only a device that is not started. -/
def registrationStep (s : Registration δ) : RegistrationEvent δ → Option (Registration δ)
  | .start d answer => if s.started d then none else some (adfDevStart offers d answer s)
  | .stop d => some (adfDevStop offers d s)

def registrationInit : Registration δ := ⟨fun _ => false, fun _ => false, fun _ => ⟨0, false, false, ∅⟩⟩

/-- The counters count the devices that are registered, and the kernel has the algorithms of a file exactly while a
device that is started offers them. -/
def Registration.Sound (s : Registration δ) : Prop :=
  ∀ f, (s.file f).activeDevs = (s.file f).made.card ∧
    ((s.file f).first ↔ ∃ d, s.started d ∧ offers d f) ∧ ((s.file f).second ↔ ∃ d, s.started d ∧ offers d f)

/-- The kernel refuses no algorithm, and a device that offers some is not stopped after a start that failed. -/
def RegistrationEvent.Careful (s : Registration δ) : RegistrationEvent δ → Prop
  | .start _ .failed => True
  | .start _ (.reached takes) => ∀ f, takes f = (true, true)
  | .stop d => ∀ f, s.starting d = true → offers d f = false

/-- The counter of a file counts its devices, and the kernel has both kinds of algorithms as long as there is one. -/
structure Algs.Counts (a : Algs δ) : Prop where
  active : a.activeDevs = a.made.card
  first : a.first ↔ a.made.Nonempty
  second : a.second ↔ a.made.Nonempty

section Step

variable {offers} {a : Algs δ} {s t : Registration δ} {d : δ}

lemma Algs.Counts.register (h : a.Counts) (hd : d ∉ a.made) (f : AlgsFile) :
    ∃ a' : Algs δ, algsRegister f (true, true) d a = (a', true) ∧ a'.Counts ∧ a'.made = insert d a.made := by
  have hcard : ((insert d a.made).card : ℤ) = a.activeDevs + 1 := by
    rw [card_insert_of_notMem hd, h.active]
    rfl
  simp only [algsRegister, Bool.not_true, Bool.false_eq_true, if_false]
  split_ifs with hone
  · -- another device has registered the algorithms
    have hnonempty : a.made.Nonempty := card_pos.mp (by have := h.active; omega)
    exact ⟨_, rfl, ⟨hcard.symm, by simp [h.first, hnonempty], by simp [h.second, hnonempty]⟩, rfl⟩
  · exact ⟨_, rfl, ⟨hcard.symm, by simp, by simp⟩, rfl⟩

lemma Algs.Counts.unregister (h : a.Counts) (hd : d ∈ a.made) :
    (algsUnregister d a).Counts ∧ (algsUnregister d a).made = a.made.erase d := by
  have hsome : a.made.Nonempty := ⟨d, hd⟩
  have hcard : ((a.made.erase d).card : ℤ) = a.activeDevs - 1 := by
    have hpos := hsome.card_pos
    rw [card_erase_of_mem hd, h.active]
    omega
  have hlast : a.activeDevs - 1 = 0 ↔ ¬ (a.made.erase d).Nonempty := by
    rw [← hcard, not_nonempty_iff_eq_empty, ← card_eq_zero, Int.natCast_eq_zero]
  unfold algsUnregister
  dsimp only
  split_ifs with hone
  · have hleft := not_not.mp (mt hlast.mpr hone)
    exact ⟨⟨hcard.symm, by simp [h.first, hleft, hsome], by simp [h.second, hleft, hsome]⟩, rfl⟩
  · have hnone := hlast.mp (not_not.mp hone)
    exact ⟨⟨hcard.symm, by simp [hnone], by simp [hnone]⟩, rfl⟩

/-- Every file counts the devices that are started and offer its algorithms. -/
def Registration.Inv (offers : δ → AlgsFile → Bool) (s : Registration δ) : Prop :=
  ∀ f, (s.file f).Counts ∧ ∀ d, d ∈ (s.file f).made ↔ s.started d ∧ offers d f

lemma Registration.Inv.startFile {takes : AlgsFile → Bool × Bool} (h : s.Inv offers) (hd : s.started d = false)
    (ht : ∀ f, takes f = (true, true)) (f : AlgsFile) :
    ∃ a : Algs δ, startFile offers d takes s f = (a, true) ∧ a.Counts ∧
      a.made = if offers d f then insert d (s.file f).made else (s.file f).made := by
  unfold KernelCrypto.startFile
  split_ifs
  · rw [ht]
    exact (h f).1.register (by simp [(h f).2, hd]) f
  · exact ⟨_, rfl, (h f).1, rfl⟩

lemma Registration.Inv.start {answer : StartAnswer} (h : s.Inv offers) (hd : s.started d = false)
    (hc : (RegistrationEvent.start d answer).Careful offers s) : (adfDevStart offers d answer s).Inv offers := by
  cases answer with
  | failed => exact h
  | reached takes =>
    intro f
    obtain ⟨_, halgs, -⟩ := h.startFile hd hc .algs
    obtain ⟨_, hasym, -⟩ := h.startFile hd hc .asymAlgs
    obtain ⟨a, hfile, hcounts, hmade⟩ := h.startFile hd hc f
    simp only [adfDevStart, halgs, hasym, hfile]
    refine ⟨hcounts, fun d' => ?_⟩
    have hmem := (h f).2 d'
    rw [hmade]
    by_cases hsame : d' = d <;> split_ifs <;> simp_all

lemma Registration.Inv.stop (h : s.Inv offers) (hc : (RegistrationEvent.stop d).Careful offers s) :
    (adfDevStop offers d s).Inv offers := by
  unfold adfDevStop
  split_ifs with hidle
  · exact h
  intro f
  have hmem := (h f).2
  have hother (d') : (s.started d' ∧ offers d' f) ∧ d' ≠ d ↔ update s.started d false d' ∧ offers d' f := by
    by_cases hsame : d' = d <;> simp [hsame]
  dsimp only
  split_ifs with hoffers
  · -- the device has been started
    have hstarted : s.started d = true := by
      cases hstarting : s.starting d with
      | false => simpa [hstarting] using hidle
      | true => exact absurd hoffers (by simp [hc f hstarting])
    obtain ⟨hcounts, hmade⟩ := (h f).1.unregister ((hmem d).mpr ⟨hstarted, hoffers⟩)
    refine ⟨hcounts, fun d' => ?_⟩
    rw [hmade, mem_erase, hmem, and_comm, hother]
  · refine ⟨(h f).1, fun d' => ?_⟩
    rw [hmem, ← hother]
    refine (and_iff_left_of_imp ?_).symm
    rintro ⟨-, hon⟩ rfl
    exact hoffers hon

end Step

/-- **Algorithms are registered while they are offered**, if the kernel refuses none and no device is stopped after a
start that failed. -/
theorem algorithms_registered {es : List (RegistrationEvent δ)} {s : Registration δ}
    (h : Run (guarded (fun s e => e.Careful offers s) (ofFun (registrationStep offers))) registrationInit es s) :
    s.Sound offers := by
  have hinit : (registrationInit : Registration δ).Inv offers := fun f => by
    refine ⟨⟨rfl, ?_, ?_⟩, fun d => ?_⟩ <;> simp [registrationInit]
  have hinv := h.invariant (I := Registration.Inv offers) (fun s e t hi ⟨hc, hstep⟩ => by
    cases e with
    | start d answer =>
      simp only [ofFun, registrationStep, Option.ite_none_left_eq_some, Option.some.injEq, Bool.not_eq_true] at hstep
      exact hstep.2 ▸ hi.start hstep.1 hc
    | stop d =>
      cases hstep
      exact hi.stop hc) hinit
  intro f
  obtain ⟨hcounts, hmade⟩ := hinv f
  simp only [hcounts.active, hcounts.first, hcounts.second, Finset.Nonempty, hmade, and_self]

/-- Two devices are started, and one of them is stopped. -/
theorem two_devices_registered : ∃ s, Run (guarded (fun s e => e.Careful (fun _ _ => true) s)
      (ofFun (registrationStep fun _ _ => true))) registrationInit
      [.start false (.reached fun _ => (true, true)), .start true (.reached fun _ => (true, true)), .stop false] s ∧
    (s.file .algs).activeDevs = 1 ∧ s.Sound fun _ _ => true := by
  apply Run.exists_and
  · apply Run.cons ⟨fun _ => rfl, rfl⟩
    apply Run.cons ⟨fun _ => rfl, rfl⟩
    exact Run.single ⟨fun _ hstarting => absurd hstarting (by decide), rfl⟩
  · exact fun hrun => ⟨rfl, algorithms_registered _ hrun⟩

/-- **A start that failed is counted when the device is stopped**, so that the next one registers nothing. A
registration that the kernel refuses stays counted. -/
theorem failed_start_counted :
    (∃ s : Registration Unit, Run (ofFun (registrationStep fun _ _ => true)) registrationInit
      [.start () .failed, .stop (), .start () (.reached fun _ => (true, true))] s ∧ s.started () = true ∧
        (s.file .algs).activeDevs = 0 ∧ (s.file .algs).first = false ∧ ¬ s.Sound fun _ _ => true) ∧
      ∃ s : Registration Unit, Run (ofFun (registrationStep fun _ _ => true)) registrationInit
        [.start () (.reached fun _ => (false, true))] s ∧ (s.file .algs).activeDevs = 1 ∧
          (s.file .algs).made = ∅ ∧ ¬ s.Sound fun _ _ => true := by
  constructor
  · exact ⟨_, exec_run rfl, rfl, rfl, rfl, fun h => absurd (h .algs).1 (by decide)⟩
  · exact ⟨_, exec_run rfl, rfl, rfl, fun h => absurd (h .algs).1 (by decide)⟩

end QuickAssist.KernelCrypto
