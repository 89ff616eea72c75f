import QuickAssist.Lib.Ring
import Mathlib.Data.Nat.Size
import Mathlib.Tactic.NormNum

/-!
# User-space rings

The rings a user-space process shares with the device, from `uio_user_ring.c`: how a ring is sized, how a request is
put on it and how responses are taken off it. A slot that holds the signature `EMPTY_RING_SIG_WORD` is `none`; a
message is assumed not to begin with that word, as the polling code assumes. The code's `uint32_t` arithmetic is
arithmetic on `ℕ` with the wraps written out.
-/

namespace QuickAssist.UserRing

open Lib Nat

/-- The wrap of the source's `uint32_t`. -/
def u32 (x : ℕ) : ℕ := x % 2 ^ 32

/-! ## Sizing a ring -/

/-- Source: `modulo` in `adf_platform_common.h`. -/
def modulo (data shift : ℕ) : ℕ :=
  let div := data >>> shift
  let mult := div <<< shift
  data - mult

@[simp] lemma modulo_eq (data shift : ℕ) : modulo data shift = data % 2 ^ shift := sub_shiftLeft_shiftRight data shift

def sizeToBytes (size : ℕ) : ℕ := 64 <<< size

/-- `ICP_RINGSIZE_KILO_1`, `_KILO_16` and `_MEG_4`. -/
def ringsizeKilo1 : ℕ := 0x04

@[inherit_doc ringsizeKilo1] def ringsizeKilo16 : ℕ := 0x08

@[inherit_doc ringsizeKilo1] def ringsizeMeg4 : ℕ := 0x10

/-- The loop of `validateRingSize`, `while (kbytes > 0) { kbytes = kbytes >> 1; k_size++; }`. -/
def kSizeLoop (kbytes kSize : ℕ) : ℕ := if h : 0 < kbytes then kSizeLoop (kbytes >>> 1) (kSize + 1) else kSize
termination_by kbytes
decreasing_by
  rw [shiftRight_one]
  omega

lemma kSizeLoop_eq (kbytes kSize : ℕ) : kSizeLoop kbytes kSize = kSize + Nat.size kbytes := by
  induction kbytes using Nat.strongRecOn generalizing kSize with
  | _ kbytes ih =>
    rw [kSizeLoop]
    by_cases h : 0 < kbytes
    · have hlt : kbytes >>> 1 < kbytes := by
        omega
      rw [dif_pos h, ih _ hlt]
      have hsize : Nat.size kbytes = Nat.size (kbytes >>> 1) + 1 := by
        conv_lhs => rw [← bit_bodd_div2 kbytes]
        rw [size_bit (by rw [bit_bodd_div2]; omega), div2_val, shiftRight_one]
      omega
    · obtain rfl : kbytes = 0 := by omega
      simp

/-- The size configuration of a ring and the shift of its `modulo`. -/
def validateRingSize (numMsgsOnRing msgSizeInBytes : ℕ) : ℕ × ℕ :=
  let sizeInBytes := u32 (numMsgsOnRing * msgSizeInBytes)
  if numMsgsOnRing = 0 ∨ msgSizeInBytes = 0 ∨ modulo msgSizeInBytes 4 ≠ 0 then
    (ringsizeKilo16, 14)
  else if sizeInBytes ≤ sizeToBytes ringsizeMeg4 then
    let kbytes := u32 (sizeInBytes + 2 ^ 32 - 1) >>> 10
    (ringsizeKilo1 + kSizeLoop kbytes 0, 10 + kSizeLoop kbytes 0)
  else (ringsizeMeg4, 22)

lemma kSizeLoop_two_pow_sub_one (j : ℕ) : kSizeLoop (2 ^ j - 1) 0 = j := by
  rw [kSizeLoop_eq, Nat.zero_add]
  induction j with
  | zero => rfl
  | succ j ih =>
    have hpos : 0 < 2 ^ j := Nat.two_pow_pos j
    have hbit : 2 ^ (j + 1) - 1 = bit true (2 ^ j - 1) := by
      rw [bit_true_apply, Nat.pow_succ]
      omega
    rw [hbit, size_bit (by rw [bit_true_apply]; omega), ih]

lemma validateRingSize_two_pow {num msgSize j : ℕ} (hj : j ≤ 12)
    (hbytes : num * msgSize = 2 ^ (10 + j)) (hmsg : msgSize % 2 ^ 4 = 0) :
    validateRingSize num msgSize = (ringsizeKilo1 + j, 10 + j) := by
  have hpow : 2 ^ (10 + j) ≤ 2 ^ 22 := Nat.pow_le_pow_right (by decide) (by omega)
  have hpos : 0 < 2 ^ (10 + j) := Nat.two_pow_pos _
  have hne : ¬ (num = 0 ∨ msgSize = 0 ∨ modulo msgSize 4 ≠ 0) := by
    rintro (h | h | h)
    · rw [h, Nat.zero_mul] at hbytes
      omega
    · rw [h, Nat.mul_zero] at hbytes
      omega
    · exact h (by rw [modulo_eq, hmsg])
  have hwrap : u32 (num * msgSize) = 2 ^ (10 + j) := by
    rw [hbytes]
    exact mod_eq_of_lt (lt_of_le_of_lt hpow (by norm_num))
  have hk : u32 (2 ^ (10 + j) + 2 ^ 32 - 1) >>> 10 = 2 ^ j - 1 := by
    have hsub : u32 (2 ^ (10 + j) + 2 ^ 32 - 1) = 2 ^ (10 + j) - 1 := by
      unfold u32
      omega
    have hj := Nat.two_pow_pos j
    rw [hsub, shiftRight_eq_div_pow, Nat.pow_add, mul_sub_div]
    omega
  simp only [validateRingSize, if_neg hne, hwrap, hk, kSizeLoop_two_pow_sub_one]
  rw [if_pos]
  exact hpow.trans (by decide)

/-! ## Rings -/

/-- A ring, as its user sees it.
Source: `adf_dev_ring_handle_t`. -/
structure Ring (μ : Type*) where
  head : ℕ
  tail : ℕ
  messageSize : ℕ
  /-- `modulo`, the shift that wraps an offset. -/
  modulo : ℕ
  ringSize : ℕ
  maxRequestsInflight : ℕ
  coalWriteCount : ℕ
  minRespsPerHeadWrite : ℕ
  csrHead : ℕ
  csrTail : ℕ
  /-- The message at each offset, `none` where the signature stands. -/
  mem : ℕ → Option μ

variable {μ : Type*}

def Ring.numSlots (ring : Ring μ) : ℕ := ring.ringSize / ring.messageSize

def minResponsesPerHeadWrite : ℕ := 32

def adfInitRing (numMsgs msgSize : ℕ) : Ring μ :=
  let cfg := validateRingSize numMsgs msgSize
  let ringSizeBytes := sizeToBytes cfg.1
  { head := 0
    tail := 0
    messageSize := msgSize
    modulo := cfg.2
    ringSize := ringSizeBytes
    maxRequestsInflight := u32 (numMsgs + 2 ^ 32 - 1)
    coalWriteCount := 0
    minRespsPerHeadWrite := min ((ringSizeBytes / msgSize) >>> 1) minResponsesPerHeadWrite
    csrHead := 0
    csrTail := 0
    mem := fun _ => none }

/-- `CPA_STATUS_SUCCESS`, `_RETRY` and `_FAIL`. -/
inductive CpaStatus
  | success
  | retry
  | fail
  deriving DecidableEq

/-- Put a message on the ring: the status, the ring and the shared in-flight count afterwards.
`lockOk` is whether the ring's mutex could be taken. -/
def adfUserPutMsg (ring : Ring μ) (inFlight : ℕ) (lockOk : Bool) (inBuf : μ) : CpaStatus × Ring μ × ℕ :=
  if !lockOk then (.fail, ring, inFlight)
  else
    let flight := u32 (inFlight + 1)
    if ring.maxRequestsInflight < flight then (.retry, ring, u32 (flight + 2 ^ 32 - 1))
    else if ring.messageSize = 64 ∨ ring.messageSize = 128 then
      let tail := UserRing.modulo (u32 (ring.tail + ring.messageSize)) ring.modulo
      (.success,
        { ring with mem := Function.update ring.mem ring.tail (some inBuf), tail := tail, csrTail := tail },
        flight)
    else (.fail, ring, flight)

/-- One round of the loop of `adf_user_notify_msgs` and `adf_user_notify_msgs_poll`; `none` if there is no
message. -/
def pollMsg (ring : Ring μ) : Option (μ × Ring μ) :=
  (ring.mem ring.head).map fun msg =>
    (msg,
      { ring with
        mem := Function.update ring.mem ring.head none
        head := UserRing.modulo (u32 (ring.head + ring.messageSize)) ring.modulo })

/-- What a polling call does after its loop: the shared count is lowered, and the device is told the head unless
few messages were taken (and, in `adf_user_notify_msgs_poll`, the ring is not an interrupt ring). -/
def pollEnd (ring : Ring μ) (inFlight msgCounter : ℕ) (respIrq : Bool) : Ring μ × ℕ :=
  if 0 < msgCounter then
    let ring' :=
      if ring.coalWriteCount < msgCounter ∨ respIrq = true then
        { ring with coalWriteCount := ring.minRespsPerHeadWrite, csrHead := ring.head }
      else { ring with coalWriteCount := ring.coalWriteCount - msgCounter }
    (ring', u32 (inFlight + 2 ^ 32 - msgCounter))
  else (ring, inFlight)

/-! ## Rings that are as large as they say -/

/-- The sizes of a ring of `n` messages. -/
structure Ring.Sized (ring : Ring μ) (n msgSize : ℕ) : Prop where
  messageSize : ring.messageSize = msgSize
  ringSize : ring.ringSize = n * msgSize
  modulo : 2 ^ ring.modulo = n * msgSize
  bound : n * msgSize ≤ 2 ^ 22

lemma Ring.Sized.next {ring : Ring μ} {n msgSize : ℕ} (h : ring.Sized n msgSize) (hn : 0 < n) (k : ℕ) :
    UserRing.modulo (u32 (k % n * msgSize + ring.messageSize)) ring.modulo = (k + 1) % n * msgSize := by
  have hlt : k % n * msgSize + msgSize ≤ n * msgSize := by
    have hk : k % n + 1 ≤ n := mod_lt k hn
    calc k % n * msgSize + msgSize = (k % n + 1) * msgSize := by rw [Nat.add_mul, Nat.one_mul]
      _ ≤ n * msgSize := Nat.mul_le_mul_right msgSize hk
  have hwrap : u32 (k % n * msgSize + msgSize) = k % n * msgSize + msgSize := by
    unfold u32
    have hbound := h.bound
    omega
  rw [h.messageSize, hwrap, modulo_eq, h.modulo, offset_succ]

lemma adfInitRing_sized {num msgSize j : ℕ} (hj : j ≤ 12)
    (hbytes : num * msgSize = 2 ^ (10 + j)) (hmsg : msgSize % 2 ^ 4 = 0) :
    (adfInitRing num msgSize : Ring μ).Sized num msgSize := by
  have hcfg := validateRingSize_two_pow hj hbytes hmsg
  have hpow : 2 ^ (10 + j) ≤ 2 ^ 22 := Nat.pow_le_pow_right (by decide) (by omega)
  refine ⟨rfl, ?_, ?_, hbytes ▸ hpow⟩
  · simp only [adfInitRing, hcfg, sizeToBytes, ringsizeKilo1, shiftLeft_eq]
    rw [hbytes, show 10 + j = 6 + (4 + j) by omega, Nat.pow_add 2 6]
  · simp only [adfInitRing, hcfg]
    exact hbytes.symm

end QuickAssist.UserRing
