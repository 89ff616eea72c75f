import QuickAssist.Lib.Ring
import Mathlib.Tactic.Positivity
import QuickAssist.Lib.Words

/-!
# Kernel rings

The rings of the kernel driver, from `adf_transport.c` and `adf_transport_access_macros.h`. A ring of size `i` has
`2 ^ (i + 6)` bytes, from 128 bytes to 4 MB; a message size counts units of 32 bytes. The size of a ring is found by
comparing the product of its arguments, *taken as a `uint32_t`*, with the sixteen possible ones, and is 16 KB if none of
them matches. Of a message only the first word is told apart: a slot whose first word is `ADF_RING_EMPTY_SIG` is empty.
-/

namespace QuickAssist.Transport

open Lib

/-! ## Sizes -/

def msgSizeToBytes (size : ℕ) : ℕ := size <<< 5

def bytesToMsgSize (size : ℕ) : ℕ := size >>> 5

def sizeToRingSizeInBytes (size : ℕ) : ℕ := (1 <<< (size - 1)) <<< 7

def ringSizeModulo (size : ℕ) : ℕ := size + 0x6

/-- `ADF_SIZE_TO_POW`, on a value of three bits, where `& ~0x4` is `& 0x3`. -/
def sizeToPow (size : ℕ) : ℕ := (((size &&& 0x4) >>> 1) ||| ((size &&& 0x4) >>> 2) ||| size) &&& 0x3

def maxInflights (ringSize msgSize : ℕ) : ℕ := ((1 <<< (ringSize - 1)) <<< 3) >>> sizeToPow msgSize - 1

def adfModulo (data shift : ℕ) : ℕ :=
  let div := data >>> shift
  let mult := div <<< shift
  data - mult

/-- The first of the sizes 1 to 16 whose bytes are those asked for, or `ADF_DEFAULT_RING_SIZE`. -/
def adfVerifyRingSize (msgSize msgNum : ℕ) : ℕ :=
  ((List.range' 1 16).find? fun i => (msgSize * msgNum) % 2 ^ 32 = sizeToRingSizeInBytes i).getD 0x08

def numSlots (ringSize msgBytes : ℕ) : ℕ := sizeToRingSizeInBytes ringSize / msgBytes

def IsMsgBytes (m : ℕ) : Prop := m = 32 ∨ m = 64 ∨ m = 128

lemma sizeToRingSizeInBytes_eq {i : ℕ} (hi : 1 ≤ i) : sizeToRingSizeInBytes i = 2 ^ (i + 6) := by
  rw [sizeToRingSizeInBytes, Nat.shiftLeft_eq, Nat.shiftLeft_eq, Nat.one_mul, ← Nat.pow_add]
  congr 1
  omega

lemma numSlots_eq {i s : ℕ} (hi : 1 ≤ i) (hs : s ≤ 2) : numSlots i (32 * 2 ^ s) = 2 ^ (i + 1 - s) := by
  have hsplit : 2 ^ (i + 6) = 2 ^ (i + 1 - s) * (32 * 2 ^ s) := by
    rw [show 32 = 2 ^ 5 from rfl, ← Nat.pow_add, ← Nat.pow_add]
    congr 1
    omega
  rw [numSlots, sizeToRingSizeInBytes_eq hi, hsplit]
  exact Nat.mul_div_cancel _ (by positivity)

lemma IsMsgBytes.exists_pow {m : ℕ} (hm : IsMsgBytes m) : ∃ s, s ≤ 2 ∧ m = 32 * 2 ^ s := by
  rcases hm with rfl | rfl | rfl
  · exact ⟨0, by omega, rfl⟩
  · exact ⟨1, by omega, rfl⟩
  · exact ⟨2, by omega, rfl⟩

lemma adfVerifyRingSize_cases (msgSize msgNum : ℕ) :
    (∃ i, (1 ≤ i ∧ i ≤ 16) ∧ (msgSize * msgNum) % 2 ^ 32 = sizeToRingSizeInBytes i ∧
        adfVerifyRingSize msgSize msgNum = i) ∨
      ((∀ i, 1 ≤ i ∧ i ≤ 16 → (msgSize * msgNum) % 2 ^ 32 ≠ sizeToRingSizeInBytes i) ∧
        adfVerifyRingSize msgSize msgNum = 8) := by
  unfold adfVerifyRingSize
  rcases hfind : (List.range' 1 16).find? fun i => (msgSize * msgNum) % 2 ^ 32 = sizeToRingSizeInBytes i with _ | i
  · refine Or.inr ⟨?_, rfl⟩
    intro i hi
    have hnone := List.find?_eq_none.mp hfind i (by rw [List.mem_range'_1]; omega)
    simpa using hnone
  · have hmem := List.mem_of_find?_eq_some hfind
    have hbytes := List.find?_some hfind
    rw [List.mem_range'_1] at hmem
    exact Or.inl ⟨i, by omega, by simpa using hbytes, rfl⟩

lemma adfVerifyRingSize_mem (msgSize msgNum : ℕ) :
    1 ≤ adfVerifyRingSize msgSize msgNum ∧ adfVerifyRingSize msgSize msgNum ≤ 16 := by
  rcases adfVerifyRingSize_cases msgSize msgNum with ⟨i, hi, -, heq⟩ | ⟨-, heq⟩
  · rw [heq]
    exact hi
  · rw [heq]
    exact ⟨by decide, by decide⟩

lemma numSlots_mul {i m : ℕ} (hi : 1 ≤ i) (hm : IsMsgBytes m) : numSlots i m * m = 2 ^ ringSizeModulo i := by
  obtain ⟨s, hs, rfl⟩ := hm.exists_pow
  rw [numSlots_eq hi hs, ringSizeModulo, show 32 = 2 ^ 5 from rfl, ← Nat.pow_add, ← Nat.pow_add]
  congr 1
  omega

lemma maxInflights_eq {i m : ℕ} (hi : 1 ≤ i) (hm : IsMsgBytes m) :
    maxInflights i (bytesToMsgSize m) = numSlots i m - 1 := by
  have hlimit : ∀ s, s ≤ 2 → ((1 <<< (i - 1)) <<< 3) >>> (s + 1) = 2 ^ (i + 1 - s) := by
    intro s hs
    rw [Nat.shiftLeft_eq, Nat.shiftLeft_eq, Nat.one_mul, ← Nat.pow_add, Nat.shiftRight_eq_div_pow,
      Nat.pow_div (by omega) (by decide)]
    congr 1
    omega
  rcases hm with rfl | rfl | rfl
  · exact congrArg (· - 1) ((hlimit 0 (by omega)).trans (numSlots_eq hi (by omega)).symm)
  · exact congrArg (· - 1) ((hlimit 1 (by omega)).trans (numSlots_eq hi (by omega)).symm)
  · exact congrArg (· - 1) ((hlimit 2 (by omega)).trans (numSlots_eq hi (by omega)).symm)

lemma two_mul_numSlots_le {a b m : ℕ} (ha : 1 ≤ a) (hb : 1 ≤ b) (hm : IsMsgBytes m)
    (h : numSlots a 32 < numSlots b m) : 2 * numSlots a 32 ≤ numSlots b m := by
  obtain ⟨s, hs, rfl⟩ := hm.exists_pow
  have hslots : numSlots a 32 = 2 ^ (a + 1) := numSlots_eq (s := 0) ha (by omega)
  rw [hslots, numSlots_eq hb hs] at h ⊢
  have hlt : a + 1 < b + 1 - s := (Nat.pow_lt_pow_iff_right (by decide)).mp h
  calc 2 * 2 ^ (a + 1) = 2 ^ (a + 1 + 1) := (Nat.pow_succ' ..).symm
    _ ≤ 2 ^ (b + 1 - s) := Nat.pow_le_pow_right (by decide) hlt

/-! ## Rings -/

structure Msg where
  word0 : U32
  rest : List U32
  deriving DecidableEq

def ringEmptySig : U32 := 0x7F7F7F7F

def Msg.read (msg : Msg) : Option Msg := if msg.word0 = ringEmptySig then none else some msg

def Msg.clear (msg : Msg) : Msg := { msg with word0 := ringEmptySig }

lemma Msg.read_of_ne {msg : Msg} (h : msg.word0 ≠ ringEmptySig) : msg.read = some msg := if_neg h

lemma Msg.eq_of_read {msg msg' : Msg} (h : msg.read = some msg') : msg = msg' := by
  unfold Msg.read at h
  split_ifs at h
  exact Option.some.inj h

/-- A ring.
Source: `struct adf_etr_ring_data`. -/
structure EtrRing where
  head : ℕ
  tail : ℕ
  ringSize : ℕ
  msgSize : ℕ
  maxInflights : ℕ
  csrHead : ℕ
  csrTail : ℕ
  mem : ℕ → Msg

/-- The offset after a given one.
Source: the calls of `adf_modulo` in `adf_send_message` and `adf_handle_response`. -/
def EtrRing.advance (ring : EtrRing) (offset : ℕ) : ℕ :=
  adfModulo ((offset + msgSizeToBytes ring.msgSize) % 2 ^ 32) (ringSizeModulo ring.ringSize)

/-- A new ring, with its memory filled with `0x7F`; `none` if the sizes are refused. Source: `adf_create_ring`
and `adf_init_ring`. -/
def adfCreateRing (numMsgs msgSize : ℕ) : Option EtrRing :=
  if msgSizeToBytes 0x04 < msgSize then none
  else if maxInflights (adfVerifyRingSize msgSize numMsgs) (bytesToMsgSize msgSize) < 2 then none
  else
    some
      { head := 0
        tail := 0
        ringSize := adfVerifyRingSize msgSize numMsgs
        msgSize := bytesToMsgSize msgSize
        maxInflights := maxInflights (adfVerifyRingSize msgSize numMsgs) (bytesToMsgSize msgSize)
        csrHead := 0
        csrTail := 0
        mem := fun _ => ⟨ringEmptySig, List.replicate (msgSize / 4 - 1) ringEmptySig⟩ }

/-- The sizes of a ring of `n` messages of `m` bytes. -/
structure EtrRing.Sized (ring : EtrRing) (n m : ℕ) : Prop where
  bytes : msgSizeToBytes ring.msgSize = m
  pos : 0 < m
  ringSize : 2 ^ ringSizeModulo ring.ringSize = n * m
  small : ringSizeModulo ring.ringSize ≤ 32

lemma EtrRing.Sized.advance {ring : EtrRing} {n m : ℕ} (h : ring.Sized n m) (k : ℕ) :
    ring.advance (k % n * m) = (k + 1) % n * m := by
  have hdvd : 2 ^ ringSizeModulo ring.ringSize ∣ 2 ^ 32 := Nat.pow_dvd_pow 2 h.small
  rw [EtrRing.advance, adfModulo, sub_shiftLeft_shiftRight, Nat.mod_mod_of_dvd _ hdvd, h.bytes,
    h.ringSize, offset_succ]

lemma adfCreateRing_spec {num m : ℕ} {ring : EtrRing} (hm : IsMsgBytes m) (h : adfCreateRing num m = some ring) :
    ring.Sized (numSlots (adfVerifyRingSize m num) m) m ∧
      ring.maxInflights = numSlots (adfVerifyRingSize m num) m - 1 ∧ 3 ≤ numSlots (adfVerifyRingSize m num) m ∧
      ring.head = 0 ∧ ring.tail = 0 ∧ ring.csrTail = 0 ∧ ∀ i, (ring.mem i).read = none := by
  have hsize := adfVerifyRingSize_mem m num
  unfold adfCreateRing at h
  rw [maxInflights_eq hsize.1 hm] at h
  split_ifs at h with hbytes hslots
  cases h
  have hunit : msgSizeToBytes (bytesToMsgSize m) = m ∧ 0 < m := by
    rcases hm with rfl | rfl | rfl <;> exact ⟨rfl, by decide⟩
  have hsmall : ringSizeModulo (adfVerifyRingSize m num) ≤ 32 := by
    unfold ringSizeModulo
    omega
  exact ⟨⟨hunit.1, hunit.2, (numSlots_mul hsize.1 hm).symm, hsmall⟩, rfl, by omega, rfl, rfl, rfl,
    fun _ => if_pos rfl⟩

end QuickAssist.Transport
