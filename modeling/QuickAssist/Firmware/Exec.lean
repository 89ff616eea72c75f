import QuickAssist.Firmware.Ustore

/-!
# Running instructions on an engine

`qat_hal_exec_micro_inst` puts instructions at the start of the control store of an engine, runs them in a context and
puts back what was there, with the registers that it has saved. What is written is recorded in two parts, before the
instructions run and after that.

**The defects.** Nothing is put back if the wait for the end fails, nor are the words of more than 100 instructions:
`execMicroInst_restored_iff`.

**Outside.** What the instructions do is left open, but for what the registers read afterwards have.
-/

namespace QuickAssist.Firmware

/-- The registers of an engine and, up to `ctxSigEvents`, of the context. -/
inductive Csr
  | lmAddr0 | lmAddr1 | lmAddrByte0 | lmAddrByte1 | wakeupEvents | ctxSts | futureCountSignal | ctxSigEvents
  | ctxEnables | ccEnable | activeCtxStatus | ctxArbCntl | ctxSigEventsActive | aeMiscControl
  deriving DecidableEq

structure EngineState where
  csr : Csr → U32
  ustore : ℕ → U64

/-- What is written to registers, in order, and to the control store. -/
structure Writes where
  csrs : List (Csr × U32)
  words : List UwordWrite

def maxExecInst : ℕ := 100

def upcMask : U32 := 0x1ffff

def acsAcno : U32 := 0x7

/-- Without the bits 25, 27 and 29. -/
def ignoreW1cMask : U32 := 0xd5ffffff

/-- The registers that are saved. -/
def savedCsrs : List Csr :=
  [.lmAddr0, .lmAddr1, .lmAddrByte0, .lmAddrByte1, .wakeupEvents, .ctxSts, .ctxEnables, .ccEnable, .activeCtxStatus,
    .ctxArbCntl, .futureCountSignal, .ctxSigEvents, .ctxSigEventsActive]

/-- The value that a register is saved with. -/
def EngineState.saved (e : EngineState) : Csr → U32
  | .ctxSts => e.csr .ctxSts &&& upcMask
  | .ctxEnables => e.csr .ctxEnables &&& ignoreW1cMask
  | r => e.csr r

/-- Source: `qat_hal_enable_ctx`, what it writes. -/
def qatHalEnableCtx (ctxEnables ctxMask : U32) : U32 :=
  let ctx := ctxEnables &&& ignoreW1cMask
  ctx ||| (ctxMask &&& if ctx &&& 0x80000000 ≠ 0 then 0x55 else 0xFF) <<< 8

/-- Source: `qat_hal_disable_ctx`, what it writes. -/
def qatHalDisableCtx (ctxEnables ctxMask : U32) : U32 :=
  ctxEnables &&& (ignoreW1cMask &&& ~~~((ctxMask &&& 0xff) <<< 8))

/-- How a call goes: the engine and context, what it is given, the state before, whether the wait fails, and the
registers after it. -/
structure ExecCall where
  ae : ℕ
  ctx : Fin 8
  microInst : Option (ℕ → U64)
  instNum : ℕ
  codeOff : Bool
  before : EngineState
  timeout : Bool
  after : Csr → U32

namespace ExecCall

variable (c : ExecCall)

def ctxMask : U32 := (1 : U32) <<< c.ctx.val

/-- The part of `qat_hal_exec_micro_inst` up to the wait. -/
def load (microInst : ℕ → U64) : Writes where
  csrs := [(.ctxEnables, c.before.saved .ctxEnables), (.ctxSts, 0), (.activeCtxStatus, .ofNat 32 c.ctx &&& acsAcno)] ++
    (if c.codeOff then [(.ccEnable, c.before.csr .ccEnable &&& 0xffffdfff)] else []) ++
    [(.wakeupEvents, 1), (.ctxSigEvents, 0), (.ctxSigEventsActive, 0),
      (.ctxEnables, qatHalEnableCtx (c.before.saved .ctxEnables) c.ctxMask)]
  words := qatHalWrUwords c.ae 0 c.instNum microInst 0

/-- The part of `qat_hal_exec_micro_inst` after the wait. -/
def restore : Writes where
  csrs := [(.ctxEnables, qatHalDisableCtx (c.after .ctxEnables) c.ctxMask),
    (.wakeupEvents, c.before.saved .wakeupEvents), (.ctxSts, upcMask &&& c.before.saved .ctxSts),
    (.aeMiscControl, c.after .aeMiscControl &&& 0xfffffffb), (.ccEnable, c.before.saved .ccEnable),
    (.activeCtxStatus, c.before.saved .activeCtxStatus &&& acsAcno), (.ctxArbCntl, c.before.saved .ctxArbCntl),
    (.lmAddr0, c.before.saved .lmAddr0), (.lmAddr1, c.before.saved .lmAddr1),
    (.lmAddrByte0, c.before.saved .lmAddrByte0), (.lmAddrByte1, c.before.saved .lmAddrByte1),
    (.futureCountSignal, c.before.saved .futureCountSignal), (.ctxSigEvents, c.before.saved .ctxSigEvents),
    (.ctxSigEventsActive, c.before.saved .ctxSigEventsActive), (.ctxEnables, c.before.saved .ctxEnables)]
  words := if c.instNum ≤ maxExecInst then qatHalWrUwords c.ae 0 c.instNum c.before.ustore 0 else []

end ExecCall

/-- Source: `qat_hal_exec_micro_inst`: what it writes until it waits and after that. -/
def qatHalExecMicroInst (c : ExecCall) : Option (Writes × Writes) :=
  if maxUstore < c.instNum then none
  else c.microInst.map fun microInst => (c.load microInst, if c.timeout then ⟨[], []⟩ else c.restore)

/-- The registers that were saved and the words that were overwritten are written last with what they had. -/
def Restored (c : ExecCall) (load back : Writes) : Prop :=
  (∀ r ∈ savedCsrs, back.csrs.reverse.lookup r = some (c.before.saved r)) ∧
    ∀ i < 2 ^ 32, (contents load.words c.ae (.ofNat 32 i)).isSome →
      contents back.words c.ae (.ofNat 32 i) = some (c.before.ustore i)

lemma contents_wrUwords_start {n : ℕ} (hn : n ≤ 2 ^ 32) {i : ℕ} (hi : i < 2 ^ 32) (ae : ℕ) (uword : ℕ → U64) :
    contents (qatHalWrUwords ae 0 n uword 0) ae (.ofNat 32 i) =
      if i < n then some (qatHalSetUwordEcc (uword i)) else none := by
  have hsub : (BitVec.ofNat 32 i - 0).toNat = i := by
    rw [BitVec.ofNat_eq_ofNat, BitVec.sub_zero, BitVec.toNat_ofNat, Nat.mod_eq_of_lt hi]
  rw [contents_wrUwords hn, hsub, Nat.zero_add]
  simp

lemma restore_lookup (c : ExecCall) {r : Csr} (hr : r ∈ savedCsrs) (hne : r ≠ .activeCtxStatus) :
    c.restore.csrs.reverse.lookup r = some (c.before.saved r) := by
  cases r with
  | activeCtxStatus => exact absurd rfl hne
  | aeMiscControl => exact absurd hr (by decide)
  | ctxSts =>
    change some (upcMask &&& (c.before.csr .ctxSts &&& upcMask)) = some (c.before.csr .ctxSts &&& upcMask)
    rw [BitVec.and_comm, BitVec.and_assoc, BitVec.and_self]
  | _ => rfl

lemma restore_csrs_iff (c : ExecCall) : (∀ r ∈ savedCsrs, c.restore.csrs.reverse.lookup r = some (c.before.saved r)) ↔
    c.before.csr .activeCtxStatus &&& acsAcno = c.before.csr .activeCtxStatus := by
  constructor
  · intro h
    exact Option.some.inj (h .activeCtxStatus (by decide))
  · intro h r hr
    by_cases hne : r = .activeCtxStatus
    · rw [hne]
      exact congrArg some h
    · exact restore_lookup c hr hne

lemma restore_words_iff {c : ExecCall} (hnum : c.instNum ≤ 2 ^ 32) (microInst : ℕ → U64) :
    (∀ i < 2 ^ 32, (contents (c.load microInst).words c.ae (.ofNat 32 i)).isSome →
        contents c.restore.words c.ae (.ofNat 32 i) = some (c.before.ustore i)) ↔
      c.instNum ≤ maxExecInst ∧ ∀ i < c.instNum, qatHalSetUwordEcc (c.before.ustore i) = c.before.ustore i := by
  have hload : ∀ i < 2 ^ 32, (contents (c.load microInst).words c.ae (.ofNat 32 i)).isSome ↔ i < c.instNum := by
    intro i hi
    rw [ExecCall.load, contents_wrUwords_start hnum hi]
    split <;> simp [*]
  by_cases hle : c.instNum ≤ maxExecInst
  · rw [and_iff_right hle, ExecCall.restore, if_pos hle]
    constructor
    · intro h i hi
      have hword := h i (by omega) ((hload i (by omega)).mpr hi)
      rw [contents_wrUwords_start hnum (by omega), if_pos hi] at hword
      exact Option.some.inj hword
    · intro h i hi hsome
      rw [hload i hi] at hsome
      rw [contents_wrUwords_start hnum hi, if_pos hsome, h i hsome]
  · refine iff_of_false (fun h => ?_) (fun h => hle h.1)
    have hword := h 0 (by norm_num) ((hload 0 (by norm_num)).mpr (by omega))
    rw [ExecCall.restore, if_neg hle] at hword
    exact Option.some_ne_none _ hword.symm

/-- **What is overwritten is put back iff the wait does not fail, there are at most 100 instructions, no more than the
number of a context is in the register for the active one, and the words have the check bits that they are written
with.** -/
theorem execMicroInst_restored_iff {c : ExecCall} {load back : Writes}
    (h : qatHalExecMicroInst c = some (load, back)) : Restored c load back ↔ c.timeout = false ∧
      c.instNum ≤ maxExecInst ∧ c.before.csr .activeCtxStatus &&& acsAcno = c.before.csr .activeCtxStatus ∧
      ∀ i < c.instNum, qatHalSetUwordEcc (c.before.ustore i) = c.before.ustore i := by
  unfold qatHalExecMicroInst at h
  split at h
  · cases h
  · rename_i hmax
    have hnum : c.instNum ≤ 2 ^ 32 := (not_lt.mp hmax).trans (by decide)
    obtain ⟨microInst, -, heq⟩ := Option.map_eq_some_iff.mp h
    cases heq
    cases htimeout : c.timeout with
    | true => exact iff_of_false (fun h => absurd (h.1 .ctxSts (by decide)) (by simp)) (by simp)
    | false =>
      rw [if_neg (by simp), Restored, restore_csrs_iff, restore_words_iff hnum, and_iff_right rfl, and_left_comm]

/-- A call that runs one instruction. -/
def runOne (timeout : Bool) : ExecCall :=
  ⟨0, 0, some fun _ => 0x0E000010000, 1, true,
    ⟨fun csr => if csr = .activeCtxStatus then 5 else 0x81, fun _ => qatHalSetUwordEcc 0x0F0000C0300⟩, timeout,
    fun _ => 0x1234⟩

theorem runOne_restored : ∃ load back, qatHalExecMicroInst (runOne false) = some (load, back) ∧
    Restored (runOne false) load back := by
  obtain ⟨load, back, h⟩ : ∃ load back, qatHalExecMicroInst (runOne false) = some (load, back) := ⟨_, _, rfl⟩
  have hword : qatHalSetUwordEcc (qatHalSetUwordEcc 0x0F0000C0300) = qatHalSetUwordEcc 0x0F0000C0300 := by decide
  exact ⟨load, back, h, (execMicroInst_restored_iff h).mpr ⟨rfl, by decide, by decide, fun _ _ => hword⟩⟩

theorem runOne_timeout_not_restored : ∃ load, qatHalExecMicroInst (runOne true) = some (load, ⟨[], []⟩) ∧
    ¬ Restored (runOne true) load ⟨[], []⟩ :=
  ⟨_, rfl, fun h => absurd (h.1 .ctxSts (by decide)) (by decide)⟩

end QuickAssist.Firmware
