import QuickAssist.Sym.Perform

/-!
# Where the device works

A request tells the device where to cipher and where to hash. `Contained` says that these regions, ended at offset plus
length *as integers*, lie in the source list, and that a separate destination list has room for what the request
writes. For a request that every check lets through this is `NoOverrun` (`perform_contained_iff`).

**The defects.** There are three.

* The checks add offsets and lengths as `Cpa32U` and compare the sum with a length in a `Cpa64U`. A sum that wraps
  passes: with an offset of `2 ^ 32 - 16` and a length of `32` a list of 16 bytes will do.
* For AES-GMAC the request's region starts at `cryptoStartSrcOffsetInBytes` and has `messageLenToHashInBytes` bytes.
  The pair that is checked is `hashStartSrcOffsetInBytes` and `messageLenToHashInBytes`.
* For a plain hash of nothing the buffer checks do not look at the lists, because these may be empty. The exception is
  made for chained operations too, so that the destination's length is not compared with the source's;
  `LacCipher_PerformParamCheck` relies on that comparison.
-/

namespace QuickAssist.Sym

open Lib (bind_eq_ok bind_value_eq_ok)

variable {desc : SessionDesc} {op : OpData} {src d : BufferList} {dst : Option BufferList} {v : Bool}
  {req : RequestParams} {n : ℕ}
open SymSession (PacketType)

/-! ## Containment -/

/-- The device is made to write a digest behind the hashed region: not if it is to be verified, and not in the
middle of a message that is only hashed. -/
def WritesDigest (desc : SessionDesc) (op : OpData) : Prop :=
  desc.digestIsAppended ∧ ¬ desc.digestVerify ∧ ¬ (desc.laCmdId = .auth ∧ op.packetType = .midPartial)

/-- **The regions of a request are in its buffers.** -/
structure Contained (desc : SessionDesc) (op : OpData) (src : BufferList) (dst : Option BufferList)
    (req : RequestParams) : Prop where
  cipher : ∀ r ∈ req.cipher, r.finish ≤ src.totalSizeGet
  auth : ∀ r ∈ req.auth, r.finish ≤ src.totalSizeGet
  ciphered : ∀ d ∈ dst, ∀ r ∈ req.cipher, r.finish ≤ d.totalSizeGet
  digest : ∀ d ∈ dst, ∀ r ∈ req.auth, WritesDigest desc op → r.finish + desc.hashResultSize.toNat ≤ d.totalSizeGet

/-- A sum that needs more than 32 bits does not go past `n`. -/
def NoWrapPast (sum n : ℕ) : Prop := 2 ^ 32 ≤ sum → sum ≤ n
  deriving Decidable

/-- **The condition** under which an accepted request stays in its buffers. -/
structure NoOverrun (desc : SessionDesc) (op : OpData) (src : BufferList) (dst : Option BufferList) : Prop where
  /-- The end of the region to cipher does not wrap. -/
  cipher : desc.isCipher → NoWrapPast (cipherRegion op).finish src.totalSizeGet
  auth : desc.isAuth → NoWrapPast (authRegion desc op).finish src.totalSizeGet
  gmac : desc.isAuthEncryptOp → desc.hashAlgorithm = .aesGmac →
    op.cryptoStartSrcOffsetInBytes.toNat + op.messageLenToHashInBytes.toNat ≤ src.totalSizeGet
  /-- The end of the digest does not wrap. -/
  digest : ∀ d ∈ dst, desc.isAuth → WritesDigest desc op →
    NoWrapPast ((authRegion desc op).finish + desc.hashResultSize.toNat) d.totalSizeGet
  zeroLength : ∀ d ∈ dst, ZeroLengthHash desc op → (desc.isCipher → (cipherRegion op).finish ≤ d.totalSizeGet) ∧
    (WritesDigest desc op → (authRegion desc op).finish + desc.hashResultSize.toNat ≤ d.totalSizeGet)

/-! ## What the checks say -/

/-- A sum that is in bounds modulo `2 ^ 32` is in bounds iff it does not wrap past them. -/
lemma le_iff_noWrapPast {sum : ℕ} (h : sum % 2 ^ 32 ≤ n) : sum ≤ n ↔ NoWrapPast sum n := by
  refine ⟨fun hle _ => hle, fun hwrap => ?_⟩
  rcases Nat.lt_or_ge sum (2 ^ 32) with hlt | hge
  · rwa [Nat.mod_eq_of_lt hlt] at h
  · exact hwrap hge

lemma bufferParamCheck_ok {src : BufferList} (h : bufferParamCheck src dst desc op = .ok ()) (hd : d ∈ dst)
    (hz : ¬ ZeroLengthHash desc op) : d.totalSizeGet = src.totalSizeGet := by
  obtain rfl := Option.mem_def.mp hd
  simp only [bufferParamCheck, checkedLength, hz, not_false_eq_true, if_true] at h
  obtain ⟨srcLen, hsrc, h⟩ := bind_value_eq_ok.mp h
  rw [totalSizeGet_of_bufferListVerify hsrc]
  obtain ⟨dstLen, hdst, h⟩ := bind_value_eq_ok.mp h
  rw [totalSizeGet_of_bufferListVerify hdst]
  have heq := reject_eq_ok.mp (bind_eq_ok.mp h).1
  exact (Decidable.not_not.mp heq).symm

lemma cipherPart_ok {c : Option Region} (h : cipherPart desc op n = .ok c) : (desc.laCmdId = .auth ∧ c = none) ∨
    (desc.laCmdId ≠ .auth ∧ c = some (cipherRegion op) ∧ (cipherRegion op).finish % 2 ^ 32 ≤ n) := by
  unfold cipherPart at h
  split at h
  next hcmd =>
    obtain ⟨hparam, h⟩ := bind_eq_ok.mp h
    obtain ⟨-, h⟩ := bind_eq_ok.mp h
    have hsum := reject_eq_ok.mp (bind_eq_ok.mp hparam).1
    rw [BitVec.toNat_add, Nat.add_comm, Nat.not_lt] at hsum
    exact .inr ⟨hcmd, (Except.ok.inj h).symm, hsum⟩
  next hcmd => exact .inl ⟨Decidable.not_not.mp hcmd, (Except.ok.inj h).symm⟩

lemma authPart_ok {a : Option Region} (h : authPart desc op src dst n v = .ok a) :
    (desc.laCmdId = .cipher ∧ a = none) ∨ (desc.laCmdId ≠ .cipher ∧ a = some (authRegion desc op) ∧
      (desc.hashAlgorithm ≠ .aesCcm → desc.hashAlgorithm ≠ .aesGcm →
        (op.hashStartSrcOffsetInBytes.toNat + op.messageLenToHashInBytes.toNat) % 2 ^ 32 ≤ n) ∧
      (desc.digestIsAppended → ((authRegion desc op).finish + desc.hashResultSize.toNat) % 2 ^ 32 ≤ n)) := by
  unfold authPart at h
  split at h
  next hcmd =>
    obtain ⟨hparam, h⟩ := bind_eq_ok.mp h
    obtain ⟨hdigest, h⟩ := bind_eq_ok.mp h
    have hok : Except.ok (some (authRegion desc op)) = Except.ok (ε := Failure) a := by
      split at h
      next => exact (bind_value_eq_ok.mp h).choose_spec.2
      next => exact h
    refine .inr ⟨hcmd, (Except.ok.inj hok).symm, fun hccm hgcm => ?_, fun happ => ?_⟩
    · simp only [hashPerformParamCheck, bind_eq_ok, hccm, hgcm, or_self, if_false] at hparam
      have hsum := reject_eq_ok.mp hparam.2.2.2.1
      rwa [BitVec.toNat_add, Nat.not_lt] at hsum
    · have hsum : ¬ n < _ := fun hlt => reject_eq_ok.mp hdigest ⟨happ, hlt⟩
      rwa [BitVec.toNat_add, BitVec.toNat_add, Nat.mod_add_mod, Nat.not_lt] at hsum
  next hcmd => exact .inl ⟨Decidable.not_not.mp hcmd, (Except.ok.inj h).symm⟩

lemma perform_ok (h : perform desc op src dst v = .ok req) : bufferParamCheck src dst desc op = .ok () ∧
    cipherPart desc op src.totalSizeGet = .ok req.cipher ∧
    authPart desc op src dst src.totalSizeGet v = .ok req.auth := by
  obtain ⟨hbuf, h⟩ := bind_eq_ok.mp h
  obtain ⟨-, h⟩ := bind_eq_ok.mp h
  obtain ⟨-, h⟩ := bind_eq_ok.mp h
  obtain ⟨c, hc, h⟩ := bind_value_eq_ok.mp h
  obtain ⟨a, ha, h⟩ := bind_value_eq_ok.mp h
  cases h
  exact ⟨hbuf, hc, ha⟩

/-! ## Containment, exactly -/

lemma SessionDesc.Sane.withState (h : desc.Sane) (state : PacketType) :
    SessionDesc.Sane { desc with partialState := state } := by
  obtain ⟨h₁, h₂, h₃, h₄, h₅, h₆, h₇⟩ := h
  exact ⟨h₁, h₂, h₃, h₄, h₅, h₆, h₇⟩

section

variable (hs : desc.Sane) (h : perform desc op src dst v = .ok req)

include hs h

lemma cipher_of_perform :
    (desc.isCipher = false ∧ req.cipher = none) ∨ (desc.isCipher = true ∧ req.cipher = some (cipherRegion op) ∧
      (cipherRegion op).finish % 2 ^ 32 ≤ src.totalSizeGet) := by
  rcases cipherPart_ok (perform_ok h).2.1 with ⟨hcmd, hc⟩ | ⟨hcmd, hc, hsum⟩
  · exact .inl ⟨hs.laCmdId_auth.mp hcmd, hc⟩
  · have hcipher : desc.isCipher ≠ false := fun hf => hcmd (hs.laCmdId_auth.mpr hf)
    exact .inr ⟨eq_true_of_ne_false hcipher, hc, hsum⟩

lemma auth_of_perform :
    (desc.isAuth = false ∧ req.auth = none) ∨ (desc.isAuth = true ∧ req.auth = some (authRegion desc op) ∧
      (¬ (desc.isAuthEncryptOp ∧ desc.hashAlgorithm = .aesGmac) →
        (authRegion desc op).finish % 2 ^ 32 ≤ src.totalSizeGet) ∧ (desc.digestIsAppended →
        ((authRegion desc op).finish + desc.hashResultSize.toNat) % 2 ^ 32 ≤ src.totalSizeGet)) := by
  rcases authPart_ok (perform_ok h).2.2 with ⟨hcmd, ha⟩ | ⟨hcmd, ha, hsum, hdigest⟩
  · exact .inl ⟨hs.laCmdId_cipher.mp hcmd, ha⟩
  · have hauth : desc.isAuth = true := eq_true_of_ne_false fun hf => hcmd (hs.laCmdId_cipher.mpr hf)
    refine .inr ⟨hauth, ha, fun hgmac => ?_, hdigest⟩
    rcases hae : desc.isAuthEncryptOp with _ | _
    · -- the pair that was checked is the pair the request carries
      have halg := hs.hashAlgorithm hauth hae
      have hregion := hsum halg.1 halg.2
      simpa [authRegion, hae, Region.finish] using hregion
    · -- the region to hash is the region to cipher, which has been checked
      have halg : desc.hashAlgorithm ≠ .aesGmac := fun hg => hgmac ⟨hae, hg⟩
      have hop := (hs.isAuthEncryptOp hae).1
      rcases cipher_of_perform hs h with ⟨hf, -⟩ | ⟨-, -, hsum⟩
      · rw [hs.isCipher.mpr (by rw [hop]; decide)] at hf
        cases hf
      · simpa [authRegion, hae, halg, cipherRegion] using hsum

lemma cipher_iff : (∀ r ∈ req.cipher, r.finish ≤ src.totalSizeGet) ↔
      (desc.isCipher → NoWrapPast (cipherRegion op).finish src.totalSizeGet) := by
  rcases cipher_of_perform hs h with ⟨hf, hc⟩ | ⟨ht, hc, hsum⟩
  · simp [hf, hc]
  · simp [ht, hc, le_iff_noWrapPast hsum]

/-- The region to hash is in the source iff its end does not wrap and, for AES-GMAC, it is. -/
lemma auth_iff : (∀ r ∈ req.auth, r.finish ≤ src.totalSizeGet) ↔
      (desc.isAuth → NoWrapPast (authRegion desc op).finish src.totalSizeGet) ∧
      (desc.isAuthEncryptOp → desc.hashAlgorithm = .aesGmac →
        op.cryptoStartSrcOffsetInBytes.toNat + op.messageLenToHashInBytes.toNat ≤ src.totalSizeGet) := by
  rcases auth_of_perform hs h with ⟨hf, ha⟩ | ⟨ht, ha, hsum, -⟩
  · have hae : desc.isAuthEncryptOp = false := by
      by_contra hae
      have hop := (hs.isAuthEncryptOp (eq_true_of_ne_false hae)).1
      rw [hs.isAuth.mpr (by rw [hop]; decide)] at hf
      cases hf
    simp [hf, ha, hae]
  · by_cases hgmac : desc.isAuthEncryptOp ∧ desc.hashAlgorithm = .aesGmac
    · have hregion : (authRegion desc op).finish =
          op.cryptoStartSrcOffsetInBytes.toNat + op.messageLenToHashInBytes.toNat := by
        simp [authRegion, hgmac, Region.finish]
      simp only [ht, ha, hgmac, hregion, Option.mem_some_iff, forall_eq', true_implies]
      exact ⟨fun hle => ⟨fun _ => hle, hle⟩, fun hle => hle.2⟩
    · have hvac : desc.isAuthEncryptOp → desc.hashAlgorithm = .aesGmac →
          op.cryptoStartSrcOffsetInBytes.toNat + op.messageLenToHashInBytes.toNat
            ≤ src.totalSizeGet := fun hae hg => absurd ⟨hae, hg⟩ hgmac
      rw [and_iff_left hvac]
      simp [ht, ha, le_iff_noWrapPast (hsum hgmac)]

lemma ciphered_iff (hsrc : ∀ r ∈ req.cipher, r.finish ≤ src.totalSizeGet) (hd : d ∈ dst) :
    (∀ r ∈ req.cipher, r.finish ≤ d.totalSizeGet) ↔
      (ZeroLengthHash desc op → desc.isCipher → (cipherRegion op).finish ≤ d.totalSizeGet) := by
  by_cases hz : ZeroLengthHash desc op
  · rcases cipher_of_perform hs h with ⟨hf, hc⟩ | ⟨ht, hc, -⟩
    · simp [hf, hc]
    · simp [ht, hc, hz]
  · rw [bufferParamCheck_ok (perform_ok h).1 hd hz]
    simp only [hz, false_implies, iff_true]
    exact hsrc

/-- An appended digest fits the destination iff its end does not wrap and, if nobody compared the
lists, it does. -/
lemma digest_iff (hd : d ∈ dst) : (∀ r ∈ req.auth, WritesDigest desc op →
      r.finish + desc.hashResultSize.toNat ≤ d.totalSizeGet) ↔ (desc.isAuth → WritesDigest desc op →
      NoWrapPast ((authRegion desc op).finish + desc.hashResultSize.toNat) d.totalSizeGet) ∧
    (ZeroLengthHash desc op → WritesDigest desc op →
      (authRegion desc op).finish + desc.hashResultSize.toNat ≤ d.totalSizeGet) := by
  rcases auth_of_perform hs h with ⟨hf, ha⟩ | ⟨ht, ha, -, hdigest⟩
  · have hz : ¬ ZeroLengthHash desc op := fun hz => by
      rw [hs.isAuth.mpr hz.1.1] at hf
      cases hf
    simp [hf, ha, hz]
  · simp only [ht, ha, Option.mem_some_iff, forall_eq', true_implies]
    by_cases hz : ZeroLengthHash desc op
    · exact ⟨fun hle => ⟨fun hw _ => hle hw, fun _ => hle⟩, fun hle => hle.2 hz⟩
    · simp only [hz, false_implies, and_true]
      refine forall_congr' fun hw => ?_
      have hsum := hdigest hw.1
      rw [← bufferParamCheck_ok (perform_ok h).1 hd hz] at hsum
      exact le_iff_noWrapPast hsum

lemma contained_iff_noOverrun : Contained desc op src dst req ↔ NoOverrun desc op src dst := by
  constructor
  · rintro ⟨hcipher, hauth, hciphered, hdigest⟩
    obtain ⟨hwrap, hgmac⟩ := (auth_iff hs h).mp hauth
    exact ⟨(cipher_iff hs h).mp hcipher, hwrap, hgmac, fun d hd => ((digest_iff hs h hd).mp (hdigest d hd)).1,
      fun d hd hz => ⟨(ciphered_iff hs h hcipher hd).mp (hciphered d hd) hz,
        ((digest_iff hs h hd).mp (hdigest d hd)).2 hz⟩⟩
  · rintro ⟨hcipher, hauth, hgmac, hdigest, hzero⟩
    have hsrc := (cipher_iff hs h).mpr hcipher
    exact ⟨hsrc, (auth_iff hs h).mpr ⟨hauth, hgmac⟩,
      fun d hd => (ciphered_iff hs h hsrc hd).mpr fun hz => (hzero d hd hz).1,
      fun d hd => (digest_iff hs h hd).mpr ⟨hdigest d hd, fun hz => (hzero d hd hz).2⟩⟩

end

/-- **Accepted requests stay in their buffers exactly under `NoOverrun`.** -/
theorem perform_contained_iff {caps : Capabilities} {setup : SessionSetupData} {dp sync : Bool}
    {desc : SessionDesc} (hinit : populateSession caps setup dp sync = .ok desc)
    (state : PacketType) {op : OpData} {src : BufferList} {dst : Option BufferList} {v : Bool} {req : RequestParams}
    (h : perform { desc with partialState := state } op src dst v = .ok req) :
    Contained { desc with partialState := state } op src dst req ↔
      NoOverrun { desc with partialState := state } op src dst :=
  contained_iff_noOverrun ((sane_of_populateSession hinit).withState state) h

/-! ## Requests that pass -/

def oneBuffer (len : U32) : BufferList :=
  { pBuffers := true
    buffers := [{ pData := true, dataLenInBytes := len }]
    pPrivateMetaData := true
    numBuffers_lt := by simp }

def cbcSetup (symOperation : SymOp) : SessionSetupData :=
  { symOperation := symOperation
    cipherSetupData :=
      { cipherAlgorithm := .aesCbc
        cipherKeyLenInBytes := 16
        pCipherKey := some fun _ => 0
        cipherDirection := .encrypt }
    hashSetupData :=
      { hashAlgorithm := .sha1
        hashMode := .plain
        digestResultLenInBytes := 20
        authKey := none
        authKeyLenInBytes := 0
        aadLenInBytes := 0
        outerHashAlgorithm := .none
        pInnerPrefixData := none
        innerPrefixLenInBytes := 0
        pOuterPrefixData := none
        outerPrefixLenInBytes := 0 }
    algChainOrder := .cipherThenHash
    digestIsAppended := false
    verifyDigest := false }

def gmacSetup : SessionSetupData :=
  { cbcSetup .algorithmChaining with
    cipherSetupData := { (cbcSetup .cipher).cipherSetupData with cipherAlgorithm := .aesGcm }
    hashSetupData :=
      { (cbcSetup .cipher).hashSetupData with
        hashAlgorithm := .aesGmac
        hashMode := .auth
        digestResultLenInBytes := 16 } }

def descOf (setup : SessionSetupData) : SessionDesc :=
  (buildCmdData (sessionDescOf setup false false) setup.algChainOrder).1

def fullPacket (cryptoStart cipherLen hashStart hashLen : U32) : OpData :=
  { packetType := .full
    pIv := true
    ivLenInBytes := 16
    cryptoStartSrcOffsetInBytes := cryptoStart
    messageLenToCipherInBytes := cipherLen
    hashStartSrcOffsetInBytes := hashStart
    messageLenToHashInBytes := hashLen
    pDigestResult := true
    pAdditionalAuthData := true }

/-- A chained request with a region to cipher and one to hash, between two lists of 64 bytes. -/
theorem chained_request_contained :
    Contained (descOf (cbcSetup .algorithmChaining)) (fullPacket 16 32 0 48) (oneBuffer 64)
      (some (oneBuffer 64)) ⟨some ⟨16, 32⟩, some ⟨0, 48⟩⟩ := by
  have hinit : populateSession ⟨false, false⟩ (cbcSetup .algorithmChaining) false false =
      .ok (descOf (cbcSetup .algorithmChaining)) := by decide
  have hreq : perform (descOf (cbcSetup .algorithmChaining)) (fullPacket 16 32 0 48) (oneBuffer 64)
      (some (oneBuffer 64)) false = .ok ⟨some ⟨16, 32⟩, some ⟨0, 48⟩⟩ := by decide
  refine (perform_contained_iff hinit .full hreq).mpr ⟨?_, ?_, ?_, ?_, ?_⟩
  · exact fun _ => by decide
  · exact fun _ => by decide
  · exact fun h => absurd h (by decide)
  · rintro _ _ _ ⟨h, -⟩
    exact absurd h (by decide)
  · rintro _ _ ⟨-, h⟩
    exact absurd h (by decide)

/-- **Accepted, and out of bounds**, once for each defect. -/
theorem accepted_requests_overrun : (populateSession ⟨false, false⟩ (cbcSetup .cipher) false false =
        .ok (descOf (cbcSetup .cipher)) ∧
      perform (descOf (cbcSetup .cipher)) (fullPacket (2 ^ 32 - 16) 32 0 0) (oneBuffer 16) none
        false = .ok ⟨some ⟨2 ^ 32 - 16, 32⟩, none⟩ ∧
      ¬ Contained (descOf (cbcSetup .cipher)) (fullPacket (2 ^ 32 - 16) 32 0 0) (oneBuffer 16) none
        ⟨some ⟨2 ^ 32 - 16, 32⟩, none⟩) ∧
    (populateSession ⟨false, false⟩ gmacSetup false false = .ok (descOf gmacSetup) ∧
      perform (descOf gmacSetup) (fullPacket 64 0 0 16) (oneBuffer 64) none false =
        .ok ⟨some ⟨64, 0⟩, some ⟨64, 16⟩⟩ ∧ ¬ Contained (descOf gmacSetup) (fullPacket 64 0 0 16) (oneBuffer 64) none
        ⟨some ⟨64, 0⟩, some ⟨64, 16⟩⟩) ∧ (populateSession ⟨false, false⟩ (cbcSetup .algorithmChaining) false false =
        .ok (descOf (cbcSetup .algorithmChaining)) ∧
      perform (descOf (cbcSetup .algorithmChaining)) (fullPacket 0 32 0 0) (oneBuffer 32)
        (some (oneBuffer 16)) false = .ok ⟨some ⟨0, 32⟩, some ⟨0, 0⟩⟩ ∧
      ¬ Contained (descOf (cbcSetup .algorithmChaining)) (fullPacket 0 32 0 0) (oneBuffer 32)
        (some (oneBuffer 16)) ⟨some ⟨0, 32⟩, some ⟨0, 0⟩⟩) := by
  refine ⟨⟨by decide, by decide, ?_⟩, ⟨by decide, by decide, ?_⟩, ⟨by decide, by decide, ?_⟩⟩
  · intro h
    exact absurd (h.cipher _ rfl) (by decide)
  · intro h
    exact absurd (h.auth _ rfl) (by decide)
  · intro h
    exact absurd (h.ciphered _ rfl _ rfl) (by decide)

end QuickAssist.Sym
