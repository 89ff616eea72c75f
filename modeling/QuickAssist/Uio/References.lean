import Mathlib.Data.Int.Notation
import Mathlib.Data.List.Count
import QuickAssist.Lib.Run

/-!
# How long a device is in use

A device can be shut down when its reference count is zero. Opening a bundle device takes a reference of the device,
and a mapping takes one of the accelerator object and one of the bundle object. All three are dropped when a mapping
goes away; closing a file drops none.

**The defects.** A file that was opened and never mapped keeps its reference for ever, a second mapping of a file drops
a reference that was not taken, and a mapping that fails in `remap_pfn_range` keeps those that it took:
`references_go_wrong`. With one mapping for each file the counts are right: `references_sound`.

**Left out.** The reference of the module, which goes with the first and last of the device. A device is not removed
while its files are in use, and address spaces are not copied.
-/

namespace QuickAssist.Uio

open Lib List Option

/-- What there are references of. -/
inductive Object
  | device
  | accel
  | bundle (number : ℕ)
  deriving DecidableEq

abbrev Refs := Object → ℤ

def Refs.add (r : Refs) (objects : List Object) (n : ℤ) : Refs := fun o => if o ∈ objects then r o + n else r o

def adfDevGet (r : Refs) : Refs := r.add [.device] 1

def adfDevPut (r : Refs) : Refs := r.add [.device] (-1)

def adfUioOpen (r : Refs) : Refs := adfDevGet r

def adfUioRelease (r : Refs) : Refs := r

/-- How a mapping ends: nothing was done, `remap_pfn_range` failed, or there is a mapping. -/
inductive MmapAnswer
  | refused
  | remapFailed
  | mapped

def adfUioMmap (bundle : ℕ) (r : Refs) : MmapAnswer → Refs
  | .refused => r
  | _ => r.add [.accel, .bundle bundle] 1

def adfUioMmapClose (bundle : ℕ) (r : Refs) : Refs := (adfDevPut r).add [.accel, .bundle bundle] (-1)

/-! ## Files and mappings -/

/-- A file: the bundle that it was opened for, and how many mappings were made of it. -/
structure UioFile where
  bundle : ℕ
  maps : ℕ
  deriving DecidableEq

/-- The references, the open files and the bundles of the mappings that there are. -/
structure Usage where
  refs : Refs
  files : List UioFile
  mappings : List ℕ

inductive UsageEvent
  | openFile (bundle : ℕ)
  | mmap (file : UioFile) (answer : MmapAnswer)
  | munmap (bundle : ℕ)
  | close (file : UioFile)

def usageStep (s : Usage) : UsageEvent → Option Usage
  | .openFile bundle => some { s with refs := adfUioOpen s.refs, files := ⟨bundle, 0⟩ :: s.files }
  | .mmap file answer =>
    if file ∈ s.files then
      match answer with
      | .mapped => some
        { refs := adfUioMmap file.bundle s.refs answer
          files := ⟨file.bundle, file.maps + 1⟩ :: s.files.erase file
          mappings := file.bundle :: s.mappings }
      | _ => some { s with refs := adfUioMmap file.bundle s.refs answer }
    else none
  | .munmap bundle =>
    if bundle ∈ s.mappings then
      some { s with refs := adfUioMmapClose bundle s.refs, mappings := s.mappings.erase bundle }
    else none
  | .close file =>
    if file ∈ s.files then some { s with refs := adfUioRelease s.refs, files := s.files.erase file } else none

structure Usage.Sound (r : Refs) (s : Usage) : Prop where
  nonneg : ∀ o, 0 ≤ s.refs o
  pos : ∀ b ∈ s.mappings, ∀ o ∈ [.device, .accel, .bundle b], 0 < s.refs o
  balanced : s.files = [] → s.mappings = [] → s.refs = r

/-- A file is mapped once before it is closed, and not more often. -/
def UsageEvent.Careful : UsageEvent → Prop
  | .mmap file .mapped => file.maps = 0
  | .mmap _ .remapFailed => False
  | .close file => file.maps ≠ 0
  | _ => True

instance (e : UsageEvent) : Decidable e.Careful := by
  rcases e with _ | ⟨_, _ | _ | _⟩ | _ | _ <;> unfold UsageEvent.Careful <;> infer_instance

/-- The number of the files of which there was no mapping yet. -/
def fresh (files : List UioFile) : ℕ := files.countP (·.maps = 0)

/-- How many references there should be. -/
def Usage.held (s : Usage) : Object → ℕ
  | .device => fresh s.files + s.mappings.length
  | .accel => s.mappings.length
  | .bundle b => s.mappings.count b

def Counted (r : Refs) (s : Usage) : Prop := ∀ o, s.refs o = r o + s.held o

variable {r : Refs} {s t : Usage}

@[simp] lemma fresh_cons (file : UioFile) (files : List UioFile) :
    fresh (file :: files) = fresh files + if file.maps = 0 then 1 else 0 := by
  simp [fresh, countP_cons]

lemma fresh_erase {files : List UioFile} {file : UioFile} (h : file ∈ files) :
    fresh files = fresh (files.erase file) + if file.maps = 0 then 1 else 0 :=
  ((perm_cons_erase h).countP_eq _).trans (fresh_cons file _)

lemma Counted.step {e : UsageEvent} (h : Counted r s) (hcareful : e.Careful) (hstep : usageStep s e = some t) :
    Counted r t := by
  intro o
  have ho := h o
  cases e with
  | openFile bundle =>
    cases hstep
    cases o <;> simp [adfUioOpen, adfDevGet, Refs.add, Usage.held] at ho ⊢ <;> omega
  | mmap file answer =>
    obtain ⟨hfile, hstep⟩ := ite_none_right_eq_some.mp hstep
    cases answer with
    | refused =>
      cases hstep
      exact ho
    | remapFailed => exact hcareful.elim
    | mapped =>
      cases hstep
      have hfresh := fresh_erase hfile
      rw [if_pos (show file.maps = 0 from hcareful)] at hfresh
      cases o <;> simp [adfUioMmap, Refs.add, Usage.held, count_cons] at ho ⊢ <;> grind
  | munmap bundle =>
    obtain ⟨hmapping, hstep⟩ := ite_none_right_eq_some.mp hstep
    cases hstep
    have hperm := perm_cons_erase hmapping
    have hlen := hperm.length_eq
    cases o with
    | bundle b =>
      have hcount := hperm.count_eq b
      simp [adfUioMmapClose, adfDevPut, Refs.add, Usage.held, count_cons] at ho hcount ⊢
      grind
    | _ =>
      simp [adfUioMmapClose, adfDevPut, Refs.add, Usage.held] at ho hlen ⊢
      omega
  | close file =>
    obtain ⟨hfile, hstep⟩ := ite_none_right_eq_some.mp hstep
    cases hstep
    have hfresh := fresh_erase hfile
    rw [if_neg (show file.maps ≠ 0 from hcareful)] at hfresh
    cases o <;> simp [adfUioRelease, Usage.held, hfresh] at ho ⊢ <;> exact ho

lemma Counted.sound (h : Counted r s) (hr : ∀ o, 0 ≤ r o) : s.Sound r := by
  refine ⟨fun o => ?_, fun b hb o ho => ?_, fun hfiles hmappings => funext fun o => ?_⟩
  · have ho := hr o
    rw [h]
    omega
  · have hlen := length_pos_of_mem hb
    have hcount := count_pos_iff.mpr hb
    have hheld : 0 < s.held o := by
      simp only [mem_cons, not_mem_nil, or_false] at ho
      rcases ho with rfl | rfl | rfl <;> simp only [Usage.held] <;> omega
    have ho := hr o
    rw [h]
    omega
  · cases o <;> simp [h _, Usage.held, hfiles, hmappings, fresh]

def usageInit (r : Refs) : Usage := ⟨r, [], []⟩

/-- **With one mapping for each file the references are right:** positive while there is a mapping, and as in the
beginning when all is closed. -/
theorem references_sound (hr : ∀ o, 0 ≤ r o) {es : List UsageEvent}
    (hrun : Run (guarded (fun _ e => e.Careful) (ofFun usageStep)) (usageInit r) es s) : s.Sound r := by
  have hinit : Counted r (usageInit r) := by
    intro o
    cases o <;> simp [usageInit, Usage.held, fresh]
  have hcounted := hrun.invariant (I := Counted r) (fun _ _ _ h hstep => h.step hstep.1 hstep.2) hinit
  exact hcounted.sound hr

def noRefs : Refs := fun _ => 0

theorem two_files_sound : ∃ s, Run (guarded (fun _ e => e.Careful) (ofFun usageStep)) (usageInit noRefs)
      [.openFile 0, .openFile 1, .mmap ⟨1, 0⟩ .mapped, .mmap ⟨0, 0⟩ .mapped, .close ⟨0, 1⟩, .munmap 0] s ∧
    s.refs .device = 1 ∧ s.mappings = [1] ∧ s.Sound noRefs :=
  (exec_guardFun_run rfl).exists_and fun hrun => ⟨rfl, rfl, references_sound (fun _ => Int.le_refl 0) hrun⟩

/-- **What goes wrong:** a file that is not mapped, a file that is mapped twice, and a mapping that fails. -/
theorem references_go_wrong :
    (∃ s, Run (ofFun usageStep) (usageInit noRefs) [.openFile 0, .close ⟨0, 0⟩] s ∧ s.files = [] ∧ s.mappings = [] ∧
      s.refs .device = 1 ∧ ¬ s.Sound noRefs) ∧ (∃ s, Run (ofFun usageStep) (usageInit noRefs)
        [.openFile 0, .mmap ⟨0, 0⟩ .mapped, .mmap ⟨0, 1⟩ .mapped, .munmap 0] s ∧
      s.mappings = [0] ∧ s.refs .device = 0 ∧ ¬ s.Sound noRefs) ∧ ∃ s, Run (ofFun usageStep) (usageInit noRefs)
        [.openFile 0, .mmap ⟨0, 0⟩ .remapFailed, .mmap ⟨0, 0⟩ .mapped, .munmap 0, .close ⟨0, 1⟩] s ∧
      s.files = [] ∧ s.mappings = [] ∧ s.refs .accel = 1 ∧ s.refs (.bundle 0) = 1 ∧ ¬ s.Sound noRefs := by
  refine ⟨⟨_, exec_run rfl, rfl, rfl, rfl, fun h => ?_⟩, ⟨_, exec_run rfl, rfl, rfl, fun h => ?_⟩,
    _, exec_run rfl, rfl, rfl, rfl, rfl, fun h => ?_⟩
  · exact absurd (congrFun (h.balanced rfl rfl) .device) (by decide)
  · exact absurd (h.pos 0 (by decide) .device (by decide)) (by decide)
  · exact absurd (congrFun (h.balanced rfl rfl) .accel) (by decide)

end QuickAssist.Uio
