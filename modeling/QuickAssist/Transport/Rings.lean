import Mathlib.Data.Finset.Basic
import QuickAssist.Lib.Run

/-!
# Making and removing the rings of a bank

`adf_create_ring` reserves a ring in the mask of its bank, allocates its buffer and writes its address to the base
register, and undoes that if a step fails; `adf_remove_ring` undoes it later. Both write the mask to the arbiter. Which
rings are there, which buffers are in use and whether one was freed that is not in use is not in the driver.

**The defects.** A buffer that is not aligned is freed by `adf_init_ring` and once more by its caller. If there is no
debugfs entry, the buffer is freed, but its address stays in the base register (`rings_sound`, `creates_go_wrong`).
-/

namespace QuickAssist.Transport

open Lib Function Option

structure BankRings where
  ringMask : Fin 16 → Bool
  /-- The last value that was written to the arbiter. -/
  arbEnable : Fin 16 → Bool
  baseAddr : Fin 16 → Option ℕ
  ringBase : Fin 16 → Option ℕ
  /-- The rings that are there, with their buffers. -/
  live : Fin 16 → Option ℕ
  inUse : Finset ℕ
  freedTwice : Bool

/-- How a call of `adf_create_ring` goes, with the address of the buffer. -/
inductive CreateAnswer
  | noMemory
  | notAligned (addr : ℕ)
  | noDebugfs (addr : ℕ)
  | ok (addr : ℕ)

def CreateAnswer.addr : CreateAnswer → Option ℕ
  | noMemory => none
  | notAligned addr | noDebugfs addr | ok addr => some addr

inductive RingEvent
  | create (ring : Fin 16) (answer : CreateAnswer)
  | remove (ring : Fin 16)

def adfUpdateRingArb (s : BankRings) : BankRings := { s with arbEnable := fun r => s.ringMask r && r < 8 }

def adfReserveRing (r : Fin 16) (s : BankRings) : BankRings := { s with ringMask := update s.ringMask r true }

def adfUnreserveRing (r : Fin 16) (s : BankRings) : BankRings := { s with ringMask := update s.ringMask r false }

def dmaFreeCoherent (addr : ℕ) (s : BankRings) : BankRings :=
  { s with inUse := s.inUse.erase addr, freedTwice := s.freedTwice || addr ∉ s.inUse }

/-- The buffer stays in the structure of the ring. -/
def adfCleanupRing (r : Fin 16) (s : BankRings) : BankRings :=
  match s.baseAddr r with
  | none => s
  | some addr => dmaFreeCoherent addr s

/-- The result says whether zero is returned. -/
def adfInitRing (r : Fin 16) (answer : CreateAnswer) (s : BankRings) : BankRings × Bool :=
  let s := { s with
    baseAddr := update s.baseAddr r answer.addr
    inUse := answer.addr.elim s.inUse (insert · s.inUse) }
  match answer with
  | .noMemory => (s, false)
  | .notAligned addr => (dmaFreeCoherent addr s, false)
  | .noDebugfs addr | .ok addr => ({ s with ringBase := update s.ringBase r (some addr) }, true)

/-- Source: the label `err` of `adf_create_ring`. -/
def createFailed (r : Fin 16) (s : BankRings) : BankRings :=
  adfUpdateRingArb (adfUnreserveRing r (adfCleanupRing r s))

def createRing (r : Fin 16) (answer : CreateAnswer) (s : BankRings) : BankRings :=
  if s.ringMask r then s
  else
    match adfInitRing r answer (adfReserveRing r s), answer with
    | (s, false), _ => createFailed r s
    | (s, true), .noDebugfs _ => createFailed r (adfUpdateRingArb s)
    | (s, true), _ => { adfUpdateRingArb s with live := update s.live r answer.addr }

def adfRemoveRing (r : Fin 16) (s : BankRings) : BankRings :=
  let s := { s with ringBase := update s.ringBase r none, live := update s.live r none }
  adfCleanupRing r (adfUpdateRingArb (adfUnreserveRing r s))

/-- The allocator chooses an address that is not in use, and only a ring that is there is removed. -/
def ringStep (s : BankRings) : RingEvent → Option BankRings
  | .create r answer => if answer.addr.any (· ∈ s.inUse) then none else some (createRing r answer s)
  | .remove r => if (s.live r).isSome then some (adfRemoveRing r s) else none

def ringsInit : BankRings := ⟨fun _ => false, fun _ => false, fun _ => none, fun _ => none, fun _ => none, ∅, false⟩

/-- The mask is the set of the rings, the arbiter has its low bits, the buffers in use are those of the rings and none
was freed twice, and the register of a ring that is not there does not hold the address of a buffer that was freed. -/
structure BankRings.Sound (s : BankRings) : Prop where
  mask : s.ringMask = fun r => (s.live r).isSome
  arb : s.arbEnable = fun r => s.ringMask r && r < 8
  once : s.freedTwice = false
  inUse : ∀ a, a ∈ s.inUse ↔ ∃ r, s.live r = some a
  base : ∀ r a, s.live r = none → s.ringBase r = some a → a ∈ s.inUse

structure BankRings.Inv (s : BankRings) : Prop extends s.Sound where
  held : ∀ r a, s.live r = some a → s.baseAddr r = some a
  apart : ∀ r r' a, s.live r = some a → s.live r' = some a → r = r'
  cleared : ∀ r, s.live r = none → s.ringBase r = none

def RingEvent.Careful : RingEvent → Prop
  | .create _ (.notAligned _) | .create _ (.noDebugfs _) => False
  | _ => True

variable {s : BankRings} {r : Fin 16}

lemma createRing_noMemory (hr : s.ringMask r = false) : createRing r .noMemory s =
    adfUpdateRingArb { s with baseAddr := update s.baseAddr r none } := by
  have hsame : update s.ringMask r false = s.ringMask := update_eq_self_iff.mpr hr.symm
  simp [createRing, hr, adfReserveRing, adfInitRing, CreateAnswer.addr, createFailed, adfCleanupRing,
    adfUnreserveRing, adfUpdateRingArb, hsame]

lemma createRing_ok (hr : s.ringMask r = false) (a : ℕ) : createRing r (.ok a) s = adfUpdateRingArb { s with
      ringMask := update s.ringMask r true
      baseAddr := update s.baseAddr r (some a)
      ringBase := update s.ringBase r (some a)
      live := update s.live r (some a)
      inUse := insert a s.inUse } := by
  simp [createRing, hr, adfReserveRing, adfInitRing, CreateAnswer.addr, adfUpdateRingArb]

lemma BankRings.Inv.createRing_noMemory (h : s.Inv) (hr : s.live r = none) : (createRing r .noMemory s).Inv := by
  rw [Transport.createRing_noMemory (by simp [h.mask, hr])]
  refine ⟨⟨h.mask, rfl, h.once, h.inUse, h.base⟩, fun r' a hr' => ?_, h.apart, h.cleared⟩
  have hne : r' ≠ r := fun heq => by
    rw [heq] at hr'
    exact absurd (hr.symm.trans hr') (by simp)
  exact (update_of_ne hne _ _).trans (h.held r' a hr')

lemma BankRings.Inv.createRing_ok (h : s.Inv) (hr : s.live r = none) {a : ℕ} (ha : a ∉ s.inUse) :
    (createRing r (.ok a) s).Inv := by
  rw [Transport.createRing_ok (by simp [h.mask, hr]), adfUpdateRingArb]
  obtain ⟨⟨hmask, -, honce, hinUse, hbase⟩, hheld, hapart, hcleared⟩ := h
  constructor
  · refine ⟨?_, rfl, honce, fun b => ⟨fun hb => ?_, ?_⟩, ?_⟩
    · funext r'
      simp only [hmask, update_apply]
      split <;> rfl
    · rcases Finset.mem_insert.mp hb with rfl | hb
      · exact ⟨r, update_self _ _ _⟩
      · obtain ⟨r', hr'⟩ := (hinUse b).mp hb
        exact ⟨r', (update_of_ne (by grind) _ _).trans hr'⟩
    all_goals grind [update_apply]
  all_goals grind [update_apply]

lemma BankRings.Inv.adfRemoveRing (h : s.Inv) {a : ℕ} (hr : s.live r = some a) : (adfRemoveRing r s).Inv := by
  have ha : a ∈ s.inUse := (h.inUse a).mpr ⟨r, hr⟩
  obtain ⟨⟨hmask, -, honce, hinUse, hbase⟩, hheld, hapart, hcleared⟩ := h
  simp only [Transport.adfRemoveRing, adfCleanupRing, adfUpdateRingArb, adfUnreserveRing, hheld r a hr, dmaFreeCoherent]
  constructor
  · refine ⟨?_, rfl, by simp [honce, ha], fun b => ⟨fun hb => ?_, ?_⟩, ?_⟩
    · funext r'
      simp only [hmask, update_apply]
      split <;> rfl
    · obtain ⟨hne, hb⟩ := Finset.mem_erase.mp hb
      obtain ⟨r', hr'⟩ := (hinUse b).mp hb
      exact ⟨r', (update_of_ne (by grind) _ _).trans hr'⟩
    all_goals grind [update_apply]
  all_goals grind [update_apply]

lemma BankRings.Inv.step {t : BankRings} {e : RingEvent} (h : s.Inv) (hc : e.Careful) (hstep : ringStep s e = some t) :
    t.Inv := by
  cases e with
  | remove r =>
    simp only [ringStep, ite_none_right_eq_some, Option.some.injEq] at hstep
    obtain ⟨hsome, rfl⟩ := hstep
    obtain ⟨a, ha⟩ := isSome_iff_exists.mp hsome
    exact h.adfRemoveRing ha
  | create r answer =>
    simp only [ringStep, ite_none_left_eq_some, Option.some.injEq] at hstep
    obtain ⟨hfresh, rfl⟩ := hstep
    rcases hr : s.live r with _ | a
    · cases answer with
      | noMemory => exact h.createRing_noMemory hr
      | ok a => exact h.createRing_ok hr (by simpa [CreateAnswer.addr] using hfresh)
      | notAligned a => exact hc.elim
      | noDebugfs a => exact hc.elim
    · unfold createRing
      rwa [if_pos (by simp [h.mask, hr])]

/-- **In every run in which all buffers are aligned and no debugfs entry is refused**, the rings and their buffers are in
order. -/
theorem rings_sound {es : List RingEvent} (h : Run (guarded (fun _ e => e.Careful) (ofFun ringStep)) ringsInit es s) :
    s.Sound := by
  have hinit : ringsInit.Inv := by
    refine ⟨⟨rfl, rfl, rfl, ?_, ?_⟩, ?_, ?_, ?_⟩ <;> simp [ringsInit]
  exact (h.invariant (I := BankRings.Inv) (fun _ _ _ hi ⟨hc, hstep⟩ => hi.step hc hstep) hinit).toSound

/-- Two rings are made, and one of them is removed. -/
theorem two_rings_sound : ∃ s, Run (guarded (fun _ e => e.Careful) (ofFun ringStep)) ringsInit
      [.create 0 (.ok 64), .create 8 (.ok 128), .remove 0] s ∧ s.inUse = {128} ∧ s.Sound := by
  apply Run.exists_and
  · apply Run.cons ⟨trivial, rfl⟩
    apply Run.cons ⟨trivial, rfl⟩
    exact Run.single ⟨trivial, rfl⟩
  · exact fun hrun => ⟨by decide, rings_sound hrun⟩

/-- **A buffer is freed twice**, and a register holds the address of one that was freed. -/
theorem creates_go_wrong :
    (∃ s, Run (ofFun ringStep) ringsInit [.create 0 (.notAligned 64)] s ∧ s.freedTwice = true ∧ ¬ s.Sound) ∧
      ∃ s, Run (ofFun ringStep) ringsInit [.create 0 (.noDebugfs 64)] s ∧
        s.live 0 = none ∧ s.ringBase 0 = some 64 ∧ 64 ∉ s.inUse ∧ ¬ s.Sound := by
  constructor
  · exact ⟨_, exec_run rfl, rfl, fun h => absurd h.once (by decide)⟩
  · exact ⟨_, exec_run rfl, rfl, rfl, by decide, fun h => absurd (h.base 0 64 rfl rfl) (by decide)⟩

end QuickAssist.Transport
