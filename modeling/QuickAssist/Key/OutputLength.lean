import Mathlib.Algebra.Group.Nat.Defs
import QuickAssist.Key.Tls

/-!
# How much the device writes

The last check of a key-generation request is that the caller's buffer holds as many bytes as are asked for. The
message then tells the device how many to write.

**The defect.** The number in the message is the one asked for rounded up to a multiple of eight, and the check is made
before the rounding: for a buffer of just the length asked for, up to seven bytes behind it are overwritten.

**Left out.** What `cpaCyKeyGenMgfExt` checks of the hash algorithm before it calls `LacSymKey_MgfCommon`.
-/

namespace QuickAssist.Key

open Lib BitVec
open QuickAssist.Sym (HashAlgorithm Failure reject)

/-! ## The requests -/

structure MgfOpData where
  seedBuffer : FlatBuffer
  maskLenInBytes : U32

def mgfSeedLenMax : U32 := 255

def mgfMaskLenMax : U32 := 65528

/-- Source: the checks of `LacSymKey_MgfCommon`. -/
def mgfCommonCheck (op : MgfOpData) (generatedMaskBuffer : FlatBuffer) : Except Failure Unit := do
  reject generatedMaskBuffer.pData.isNone
  reject op.seedBuffer.pData.isNone
  reject (mgfSeedLenMax < op.seedBuffer.dataLenInBytes)
  reject (mgfMaskLenMax < op.maskLenInBytes)
  reject (generatedMaskBuffer.dataLenInBytes < op.maskLenInBytes)

/-- `LAC_ALIGN_POW2_ROUNDUP(num, LAC_QUAD_WORD_IN_BYTES)` -/
def alignPow2Roundup (num : U32) : U32 := (num + 8 - 1) &&& ~~~ (8 - 1)

/-- The field `output_lgth_tls`. -/
def keyTlsRequestPopulate (generatedKeyLenInBytes : U32) : U8 := (alignPow2Roundup generatedKeyLenInBytes).setWidth 8

/-- The field `mask_length`. -/
def keyMgfRequestPopulate (maskLenInBytes : U16) : U16 := (alignPow2Roundup (maskLenInBytes.setWidth 32)).setWidth 16

inductive KeyGenRequest
  | tls (cmd : TlsCmd) (hashAlgorithm : HashAlgorithm) (op : TlsOpData)
  | mgf (op : MgfOpData)

namespace KeyGenRequest

def check (generated : FlatBuffer) : KeyGenRequest → Except Failure Unit
  | tls cmd hashAlgorithm op => checkParamSslTls cmd hashAlgorithm op generated
  | mgf op => mgfCommonCheck op generated

def requested : KeyGenRequest → ℕ
  | tls _ _ op => op.generatedKeyLenInBytes.toNat
  | mgf op => op.maskLenInBytes.toNat

/-- The number of bytes that the message tells the device to write. -/
def outputLength : KeyGenRequest → ℕ
  | tls _ _ op => (keyTlsRequestPopulate op.generatedKeyLenInBytes).toNat
  | mgf op => (keyMgfRequestPopulate (op.maskLenInBytes.setWidth 16)).toNat

/-! ## What is written -/

lemma toNat_and_not_seven (x : U32) : (x &&& ~~~ 7#32).toNat = x.toNat / 8 * 8 := by
  have hshift : x &&& ~~~ 7#32 = (x >>> 3) <<< 3 := by
    ext i hi
    have hseven : (7#32)[i] = decide (i < 3) := Nat.testBit_two_pow_sub_one 3 i
    rw [getElem_and, getElem_not, hseven]
    by_cases hlow : i < 3
    · simp [hlow]
    · simp [hlow, Nat.add_sub_cancel' (Nat.le_of_not_lt hlow), getLsbD_eq_getElem hi]
  rw [hshift, toNat_shiftLeft, toNat_ushiftRight, Nat.shiftRight_eq_div_pow, Nat.shiftLeft_eq]
  omega

lemma toNat_alignPow2Roundup {num : U32} (h : num.toNat + 7 < 2 ^ 32) :
    (alignPow2Roundup num).toNat = (num.toNat + 7) / 8 * 8 := by
  have hadd : (num + 8 - 1).toNat = num.toNat + 7 := by bv_omega
  exact (toNat_and_not_seven _).trans (by rw [hadd])

lemma outputLength_eq {r : KeyGenRequest} {generated : FlatBuffer} (h : r.check generated = .ok ()) :
    r.outputLength = (r.requested + 7) / 8 * 8 ∧ r.requested ≤ generated.dataLenInBytes.toNat := by
  cases r with
  | tls cmd alg op =>
    simp only [check, checkParamSslTls, bind_eq_ok, Sym.reject_eq_ok] at h
    obtain ⟨-, -, -, -, -, -, -, -, hmax, hroom⟩ := h
    have hmax : op.generatedKeyLenInBytes.toNat ≤ 248 := BitVec.not_lt.mp hmax
    refine ⟨?_, BitVec.not_lt.mp hroom⟩
    rw [outputLength, keyTlsRequestPopulate, toNat_setWidth, toNat_alignPow2Roundup (by omega)]
    exact Nat.mod_eq_of_lt (by omega)
  | mgf op =>
    simp only [check, mgfCommonCheck, bind_eq_ok, Sym.reject_eq_ok] at h
    obtain ⟨-, -, -, hmax, hroom⟩ := h
    have hmax : op.maskLenInBytes.toNat ≤ 65528 := BitVec.not_lt.mp hmax
    refine ⟨?_, BitVec.not_lt.mp hroom⟩
    have hlen : ((op.maskLenInBytes.setWidth 16).setWidth 32).toNat = op.maskLenInBytes.toNat := by
      simp only [toNat_setWidth]
      omega
    rw [outputLength, keyMgfRequestPopulate, toNat_setWidth, toNat_alignPow2Roundup (by omega), hlen]
    exact Nat.mod_eq_of_lt (by omega)

/-- **The device stays inside the caller's buffer exactly if** the length asked for is a multiple of eight, or the
buffer goes on to the next one. -/
theorem outputLength_le_iff {r : KeyGenRequest} {generated : FlatBuffer} (h : r.check generated = .ok ()) :
    r.outputLength ≤ generated.dataLenInBytes.toNat ↔
      8 ∣ r.requested ∨ (r.requested / 8 + 1) * 8 ≤ generated.dataLenInBytes.toNat := by
  obtain ⟨heq, hroom⟩ := outputLength_eq h
  omega

def oneByte (len : U32) : FlatBuffer := ⟨some fun _ => 0, len⟩

/-- A mask of nine bytes, in a buffer of sixteen. -/
theorem mask_inside : (mgf ⟨oneByte 1, 9⟩).check (oneByte 16) = .ok () ∧
    (mgf ⟨oneByte 1, 9⟩).outputLength ≤ (oneByte 16).dataLenInBytes.toNat :=
  ⟨rfl, (outputLength_le_iff rfl).mpr (by decide)⟩

/-- **Eight bytes are written into a buffer of one**, for a key and for a mask of one byte. -/
theorem one_byte_overrun :
    (tls .tlsV12 .sha256 ⟨.userDefined, oneByte 1, oneByte 1, 1, oneByte 1⟩).check (oneByte 1) = .ok () ∧
    (tls .tlsV12 .sha256 ⟨.userDefined, oneByte 1, oneByte 1, 1, oneByte 1⟩).outputLength = 8 ∧
    (mgf ⟨oneByte 1, 1⟩).check (oneByte 1) = .ok () ∧ (mgf ⟨oneByte 1, 1⟩).outputLength = 8 :=
  ⟨rfl, rfl, rfl, rfl⟩

end KeyGenRequest

end QuickAssist.Key
