import QuickAssist.BufferDesc.ZeroFromOffset
import QuickAssist.Sym.Regions

/-!
# What is left of a packet that does not verify

When the digest of a packet of an authenticated cipher is wrong, the device has already deciphered the packet.
`LacSymCb_CleanUserData` then zeroes the region of the cipher, with AES-CCM also the digest behind it, and the digest
where it is kept apart. No deciphered byte is left if the end of the region, and of the digest behind it, is within 32
bits: under that bound `LacBuffDesc_BufferListZeroFromOffset` is known to zero what it is to.
-/

namespace QuickAssist.Sym

open BufferDesc (Mem osalMemSet bufferListZeroFromOffset extents)
open Lib.Scatter

/-- The number of bytes that are removed from the buffers. With AES-CCM the digest is among them.
Source: `LacSymCb_CleanUserData`. -/
def cleanedLength (desc : SessionDesc) (op : OpData) (isCCM : Bool) : U32 :=
  if isCCM then op.messageLenToCipherInBytes + desc.hashResultSize else op.messageLenToCipherInBytes

/-- Remove what was computed for a packet. `pDigestResult` is where the digest is, if it is given. -/
def cleanUserData (desc : SessionDesc) (bufs : List BufferDesc.FlatBuffer) (op : OpData)
    (pDigestResult : Option ℕ) (isCCM : Bool) (m : Mem) : Option Mem :=
  (bufferListZeroFromOffset bufs op.cryptoStartSrcOffsetInBytes (cleanedLength desc op isCCM) m).map
    fun m =>
      match pDigestResult with
      | some digest => if desc.digestIsAppended then m else osalMemSet m digest 0 desc.hashResultSize.toNat
      | none => m

/-- What the callback does to the memory when the device reports of a packet.
Source: `LacSymCb_ProcessCallbackInternal`. -/
def verifyResponse (desc : SessionDesc) (bufs : List BufferDesc.FlatBuffer) (op : OpData)
    (pDigestResult : Option ℕ) (qatRespStatusOkFlag : Bool) (m : Mem) : Option Mem :=
  if desc.symOperation ≠ .cipher ∧ desc.digestVerify = true ∧
      (op.packetType = .full ∨ op.packetType = .lastPartial) ∧ qatRespStatusOkFlag = false then
    match desc.cipherAlgorithm with
    | .aesCcm => cleanUserData desc bufs op pDigestResult true m
    | .aesGcm => cleanUserData desc bufs op pDigestResult false m
    | _ => some m
  else some m

def NoPlaintext (bufs : List BufferDesc.FlatBuffer) (op : OpData) (m : Mem) : Prop :=
  ∀ a, Covers (extents bufs) op.cryptoStartSrcOffsetInBytes.toNat op.messageLenToCipherInBytes.toNat a → m a = 0

variable {desc : SessionDesc} {bufs : List BufferDesc.FlatBuffer} {op : OpData} {pDigestResult : Option ℕ}
  {isCCM : Bool} {m : Mem}

lemma NoPlaintext.osalMemSet (h : NoPlaintext bufs op m) (ptr count : ℕ) :
    NoPlaintext bufs op (osalMemSet m ptr 0 count) := by
  intro a ha
  unfold BufferDesc.osalMemSet
  split
  · rfl
  · exact h a ha

variable (hend : op.cryptoStartSrcOffsetInBytes.toNat + op.messageLenToCipherInBytes.toNat +
  desc.hashResultSize.toNat < 2 ^ 32)

include hend

lemma cleanUserData_zero
    (hle : op.cryptoStartSrcOffsetInBytes.toNat + (cleanedLength desc op isCCM).toNat ≤ total (extents bufs)) :
    ∃ m', cleanUserData desc bufs op pDigestResult isCCM m = some m' ∧ NoPlaintext bufs op m' := by
  have hsum : (op.messageLenToCipherInBytes + desc.hashResultSize).toNat =
      op.messageLenToCipherInBytes.toNat + desc.hashResultSize.toNat := by
    apply BitVec.toNat_add_of_lt
    omega
  have hlen : op.messageLenToCipherInBytes.toNat ≤ (cleanedLength desc op isCCM).toNat ∧
      (cleanedLength desc op isCCM).toNat ≤ op.messageLenToCipherInBytes.toNat + desc.hashResultSize.toNat := by
    unfold cleanedLength
    split <;> omega
  have hfits : BufferDesc.Fits bufs op.cryptoStartSrcOffsetInBytes.toNat
      (cleanedLength desc op isCCM).toNat := BufferDesc.fits_of_lt (by omega)
  obtain ⟨m₁, hloop, hzero⟩ := BufferDesc.zeroLoop_zeroed (m := m) hle hfits
  have hzeroed : bufferListZeroFromOffset bufs op.cryptoStartSrcOffsetInBytes
      (cleanedLength desc op isCCM) m = some m₁ := hloop
  have hnone : NoPlaintext bufs op m₁ := by
    rintro a ⟨i, hoff, hlt, haddr⟩
    exact hzero.inside a ⟨i, hoff, by omega, haddr⟩
  refine ⟨_, by rw [cleanUserData, hzeroed, Option.map_some], ?_⟩
  split
  · split
    · exact hnone
    · exact hnone.osalMemSet _ _
  · exact hnone

/-- **No plaintext is left of a packet that does not verify**, whichever authenticated cipher the session has. -/
theorem failedVerify_leaves_no_plaintext (hop : desc.symOperation ≠ .cipher)
    (hverify : desc.digestVerify = true) (hpacket : op.packetType = .full ∨ op.packetType = .lastPartial)
    (halg : desc.cipherAlgorithm = .aesCcm ∨ desc.cipherAlgorithm = .aesGcm)
    (hle : op.cryptoStartSrcOffsetInBytes.toNat +
      (cleanedLength desc op (desc.cipherAlgorithm = .aesCcm)).toNat ≤ total (extents bufs)) :
    ∃ m', verifyResponse desc bufs op pDigestResult false m = some m' ∧ NoPlaintext bufs op m' := by
  unfold verifyResponse
  rw [if_pos ⟨hop, hverify, hpacket, rfl⟩]
  rcases halg with halg | halg
  all_goals
    rw [halg] at hle ⊢
    exact cleanUserData_zero hend (by simpa using hle)

def gcmDecryptSetup : SessionSetupData :=
  { gmacSetup with
    cipherSetupData := { gmacSetup.cipherSetupData with cipherDirection := .decrypt }
    hashSetupData := { gmacSetup.hashSetupData with hashAlgorithm := .aesGcm, aadLenInBytes := 8 } }

omit hend in
/-- AES-GCM, between two buffers. -/
theorem failed_gcm_packet_cleared :
    populateSession ⟨false, false⟩ gcmDecryptSetup false false = .ok (descOf gcmDecryptSetup) ∧
      ∃ m, verifyResponse (descOf gcmDecryptSetup) [⟨16, 24⟩, ⟨64, 24⟩] (fullPacket 16 16 0 32) (some 128) false
          (fun _ => 1) = some m ∧ NoPlaintext [⟨16, 24⟩, ⟨64, 24⟩] (fullPacket 16 16 0 32) m :=
  ⟨by decide, failedVerify_leaves_no_plaintext (by decide) (by decide) rfl (.inl rfl) (.inr rfl) (by decide)⟩

end QuickAssist.Sym
