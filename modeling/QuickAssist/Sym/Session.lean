import QuickAssist.Lib.Checks
import QuickAssist.SymSession.Queue

/-!
# Setting up a symmetric session

What a client says about a symmetric session (`CpaCySymSessionSetupData`), the checks `cpaCySymInitSession` makes of
it, and the fields of the session descriptor these determine. A check that fails ends the call with a status other than
`CPA_STATUS_SUCCESS`: `Except Failure`. `reject` is the `if` with a `return` in it that these functions are made of.

**Zeroes.** A descriptor starts out as zeroes, so a session without a cipher has no cipher algorithm at all and one
without a hash no hash algorithm: `CipherAlgorithm`, `HashAlgorithm` and `HashMode` have a constructor for this value.
A client may pass it too, and is refused.
-/

namespace QuickAssist.Sym

open Lib (bind_eq_ok)
open SymSession (PacketType)

/-! ## Failing -/

/-- The statuses other than `CPA_STATUS_SUCCESS`. -/
inductive Failure
  | fail
  | retry
  | resource
  | invalidParam
  | unsupported
  deriving DecidableEq

/-- Return `CPA_STATUS_INVALID_PARAM` if `c`. -/
def reject (c : Prop) [Decidable c] : Except Failure Unit := if c then .error .invalidParam else .ok ()

@[simp] lemma reject_eq_ok {c : Prop} [Decidable c] : reject c = .ok () ↔ ¬ c := by
  unfold reject
  split <;> simp [*]

/-! ## Algorithms -/

/-- `CpaCySymOp` -/
inductive SymOp
  | cipher
  | hash
  | algorithmChaining
  deriving DecidableEq

inductive CipherAlgorithm
  | none
  | null | arc4 | aesEcb | aesCbc | aesCtr | aesCcm | aesGcm
  | desEcb | desCbc | tripleDesEcb | tripleDesCbc | tripleDesCtr
  | kasumiF8 | snow3gUea2 | aesF8 | aesXts | zucEea3
  deriving DecidableEq

inductive HashAlgorithm
  | none
  | md5 | sha1 | sha224 | sha256 | sha384 | sha512
  | aesXcbc | aesCcm | aesGcm | kasumiF9 | snow3gUia2 | aesCmac | aesGmac | aesCbcMac | zucEia3
  | sha3_256
  deriving DecidableEq

inductive HashMode
  | none
  | plain
  | auth
  | nested
  deriving DecidableEq

inductive CipherDirection
  | encrypt
  | decrypt
  deriving DecidableEq

inductive AlgChainOrder
  | hashThenCipher
  | cipherThenHash

namespace CipherAlgorithm

def isCtrMode : CipherAlgorithm → Bool
  | aesCtr | tripleDesCtr | aesCcm | aesGcm => true
  | _ => false

def isCbcMode : CipherAlgorithm → Bool
  | aesCbc | desCbc | tripleDesCbc => true
  | _ => false

def isF8Mode : CipherAlgorithm → Bool
  | kasumiF8 | aesF8 => true
  | _ => false

def blockSizeBytesGet : CipherAlgorithm → U8
  | aesEcb | aesCbc | aesCtr | aesCcm | aesGcm | aesXts | aesF8 => 16
  | arc4 | desEcb | desCbc | tripleDesEcb | tripleDesCbc | tripleDesCtr => 8
  | kasumiF8 | snow3gUea2 | zucEea3 | null => 8
  | none => 0

def ivSizeBytesGet (a : CipherAlgorithm) : U32 :=
  match a with
  | arc4 => 264
  | kasumiF8 => 8
  | snow3gUea2 => 16
  | zucEea3 => 16
  | aesEcb | desEcb | tripleDesEcb | null => 0
  | _ => a.blockSizeBytesGet.setWidth 32

end CipherAlgorithm

namespace HashAlgorithm

/-- `blockLength` in `lac_sym_qat_hash_alg_info_t`. -/
def blockLength : HashAlgorithm → U32
  | md5 | sha1 | sha224 | sha256 => 64
  | sha384 | sha512 => 128
  | sha3_256 => 136
  | aesXcbc | aesCmac | aesCcm | aesGcm | aesGmac | aesCbcMac => 16
  | kasumiF9 | snow3gUia2 => 8
  | zucEia3 => 4
  | none => 0

/-- `digestLength` in `lac_sym_qat_hash_alg_info_t`. -/
def digestLength : HashAlgorithm → U32
  | md5 => 16
  | sha1 => 20
  | sha224 => 28
  | sha256 | sha3_256 => 32
  | sha384 => 48
  | sha512 => 64
  | aesXcbc | aesCmac | aesCcm | aesGcm | aesGmac | aesCbcMac => 16
  | kasumiF9 | snow3gUia2 | zucEia3 => 4
  | none => 0

def isHmacAlg : HashAlgorithm → Bool
  | md5 | sha1 | sha224 | sha256 | sha384 | sha512 | sha3_256 => true
  | _ => false

def modeNotSupported (alg : HashAlgorithm) (mode : HashMode) : Bool :=
  match alg with
  | kasumiF9 | snow3gUia2 | aesXcbc | aesCcm | aesGcm | aesGmac | aesCmac | zucEia3 => decide (mode ≠ .auth)
  | sha3_256 => decide (mode = .nested)
  | _ => false

end HashAlgorithm

/-! ## Setup data -/

abbrev Bytes : Type := ℕ → U8

structure CipherSetupData where
  cipherAlgorithm : CipherAlgorithm
  cipherKeyLenInBytes : U32
  pCipherKey : Option Bytes
  cipherDirection : CipherDirection

structure HashSetupData where
  hashAlgorithm : HashAlgorithm
  hashMode : HashMode
  digestResultLenInBytes : U32
  authKey : Option Bytes
  authKeyLenInBytes : U32
  aadLenInBytes : U32
  outerHashAlgorithm : HashAlgorithm
  /-- `nestedModeSetupData.pInnerPrefixData`, or `none` for `NULL` -/
  pInnerPrefixData : Option Bytes
  innerPrefixLenInBytes : U32
  /-- `nestedModeSetupData.pOuterPrefixData`, or `none` for `NULL` -/
  pOuterPrefixData : Option Bytes
  outerPrefixLenInBytes : U32

structure SessionSetupData where
  symOperation : SymOp
  cipherSetupData : CipherSetupData
  hashSetupData : HashSetupData
  algChainOrder : AlgChainOrder
  digestIsAppended : Bool
  verifyDigest : Bool

/-- What the device can do beyond what every device can: the bits of `capabilitiesMask` that
`cpaCySymQueryCapabilities` reads. -/
structure Capabilities where
  zuc : Bool
  sha3 : Bool

/-- The bitmap `ciphers`.
Source: `cpaCySymQueryCapabilities`. -/
def Capabilities.ciphers (caps : Capabilities) : CipherAlgorithm → Bool
  | .none => false
  | .zucEea3 => caps.zuc
  | _ => true

/-- The bitmap `hashes`.
Source: `cpaCySymQueryCapabilities`. -/
def Capabilities.hashes (caps : Capabilities) : HashAlgorithm → Bool
  | .none => false
  | .zucEia3 => caps.zuc
  | .sha3_256 => caps.sha3
  | _ => true

/-! ## Checks -/

/-- Algorithms that only go together: exactly one of `cipher` and `hash` is what it should be. -/
def mismatched (cipher hash : Bool) : Prop := cipher ∧ ¬ hash ∨ hash ∧ ¬ cipher
  deriving Decidable

@[simp] lemma not_mismatched {cipher hash : Bool} : ¬ mismatched cipher hash ↔ cipher = hash := by
  cases cipher <;> cases hash <;> simp [mismatched]

def sessionParamCheck (caps : Capabilities) (setup : SessionSetupData) : Except Failure Unit :=
  let cipher := setup.cipherSetupData.cipherAlgorithm
  let hash := setup.hashSetupData.hashAlgorithm
  match setup.symOperation with
  | .algorithmChaining => do
    reject (mismatched (cipher = .aesCcm) (hash = .aesCcm))
    reject (mismatched (cipher = .aesGcm) (hash = .aesGcm || hash = .aesGmac))
    reject (mismatched (cipher = .kasumiF8) (hash = .kasumiF9))
    reject (mismatched (cipher = .snow3gUea2) (hash = .snow3gUia2))
    reject (mismatched (cipher = .zucEea3) (hash = .zucEia3))
  | .cipher => do
    reject (cipher = .aesCcm ∨ cipher = .aesGcm)
    reject (¬ caps.ciphers cipher)
  | .hash => do
    reject (¬ caps.hashes hash)
    reject (hash = .aesCcm ∨ hash = .aesGcm ∨ hash = .aesGmac)

def cipherSessionSetupDataCheck (c : CipherSetupData) : Except Failure Unit :=
  let len := c.cipherKeyLenInBytes
  if c.cipherAlgorithm = .null then .ok ()
  else do
    reject (c.pCipherKey.isNone)
    match c.cipherAlgorithm with
    | .arc4 => reject (256 < len)
    | .aesCcm => reject (len ≠ 16)
    | .aesXts => reject (len ≠ 32 ∧ len ≠ 64)
    | .aesEcb | .aesCbc | .aesCtr | .aesGcm => reject (len ≠ 16 ∧ len ≠ 24 ∧ len ≠ 32)
    | .aesF8 => reject (len ≠ 32 ∧ len ≠ 48 ∧ len ≠ 64)
    | .desEcb | .desCbc => reject (len ≠ 8)
    | .tripleDesEcb | .tripleDesCbc | .tripleDesCtr => reject (len ≠ 24)
    | .kasumiF8 | .snow3gUea2 | .zucEea3 => reject (len ≠ 16)
    | .none | .null => .error .invalidParam

def alignPow2Roundup (num align : U32) : U32 := (num + align - 1) &&& ~~~(align - 1)

/-- The length of the key and of the additional data in the mode `CPA_CY_SYM_HASH_MODE_AUTH`.
Source: `LacHash_HashContextCheck`. -/
def authModeCheck (h : HashSetupData) : Except Failure Unit := do
  match h.hashAlgorithm with
  | .aesGcm | .aesGmac => do
    reject (h.digestResultLenInBytes ≠ 8 ∧ h.digestResultLenInBytes ≠ 12 ∧ h.digestResultLenInBytes ≠ 16)
    reject (240 < alignPow2Roundup h.aadLenInBytes 16 ∧ h.hashAlgorithm ≠ .aesGmac)
  | .aesCcm => do
    reject (¬ (4 ≤ h.digestResultLenInBytes ∧ h.digestResultLenInBytes ≤ 16) ∨ h.digestResultLenInBytes &&& 1 ≠ 0)
    let aadDataSize := if 0 < h.aadLenInBytes then 16 + 2 + h.aadLenInBytes else 16
    reject (240 < alignPow2Roundup aadDataSize 16)
  | .kasumiF9 => reject (h.authKeyLenInBytes ≠ 16)
  | .snow3gUia2 => do
    reject (h.authKeyLenInBytes ≠ 16)
    reject (h.aadLenInBytes ≠ 16)
  | .aesXcbc | .aesCmac | .aesCbcMac => reject (h.authKeyLenInBytes ≠ 16)
  | .zucEia3 => do
    reject (h.authKeyLenInBytes ≠ 16)
    reject (h.aadLenInBytes ≠ 16)
  | _ => reject (h.hashAlgorithm.blockLength < h.authKeyLenInBytes)
  reject (h.hashAlgorithm ≠ .aesCcm ∧ h.hashAlgorithm ≠ .aesGcm ∧ 0 < h.authKeyLenInBytes ∧ h.authKey.isNone)

/-- The outer algorithm and the prefixes in the mode `CPA_CY_SYM_HASH_MODE_NESTED`.
Source: `LacHash_HashContextCheck`. -/
def nestedModeCheck (caps : Capabilities) (h : HashSetupData) : Except Failure Unit := do
  reject (¬ caps.hashes h.outerHashAlgorithm)
  reject (h.outerHashAlgorithm.modeNotSupported h.hashMode)
  reject (h.digestResultLenInBytes = 0 ∨ h.outerHashAlgorithm.digestLength < h.digestResultLenInBytes)
  reject (255 < h.innerPrefixLenInBytes)
  reject (0 < h.innerPrefixLenInBytes ∧ h.pInnerPrefixData.isNone)
  reject (255 < h.outerPrefixLenInBytes)
  reject (0 < h.outerPrefixLenInBytes ∧ h.pOuterPrefixData.isNone)

def hashContextCheck (caps : Capabilities) (h : HashSetupData) : Except Failure Unit := do
  reject (¬ caps.hashes h.hashAlgorithm ∧ h.hashAlgorithm ≠ .aesCbcMac)
  reject (h.hashMode = .none)
  reject (h.hashAlgorithm.modeNotSupported h.hashMode)
  reject ((h.hashMode = .plain ∨ h.hashMode = .auth) ∧ (h.digestResultLenInBytes = 0 ∨
    h.hashAlgorithm.digestLength < h.digestResultLenInBytes))
  match h.hashMode with
  | .auth => authModeCheck h
  | .nested => nestedModeCheck caps h
  | _ => .ok ()

/-! ## The session descriptor -/

/-- `icp_qat_fw_la_cmd_id_t` -/
inductive LaCmdId
  | cipher
  | auth
  | cipherHash
  | hashCipher
  deriving DecidableEq

inductive Proto
  | noProto
  | ccm
  | gcm
  | snow3g
  | zuc3g

/-- `icp_qat_hw_auth_mode_t` -/
inductive QatHashMode
  | mode0
  | mode1
  | mode2
  deriving DecidableEq

/-- What a session is for: the fields of `lac_session_desc_t` that say so. -/
structure SessionDesc where
  symOperation : SymOp
  isDPSession : Bool
  /-- `pSymCb` is `LacSync_GenBufListVerifyCb`: the client gave no callback. -/
  isSync : Bool
  isCipher : Bool
  isAuth : Bool
  isAuthEncryptOp : Bool
  laCmdId : LaCmdId
  cipherAlgorithm : CipherAlgorithm
  cipherKeyLenInBytes : U32
  cipherDirection : CipherDirection
  hashAlgorithm : HashAlgorithm
  hashMode : HashMode
  qatHashMode : QatHashMode
  hashResultSize : U32
  authKeyLenInBytes : U32
  aadLenInBytes : U32
  digestIsAppended : Bool
  digestVerify : Bool
  partialState : PacketType
  deriving DecidableEq

/-- `qatHashMode` of a session with a hash.
Source: `LacAlgChain_SessionInit`. -/
def qatHashModeOf (h : HashSetupData) : QatHashMode :=
  if h.hashMode = .nested ∨ h.hashMode = .plain ∨ h.hashMode = .auth ∧ h.hashAlgorithm = .aesCbcMac then .mode0
  else if h.hashAlgorithm.isHmacAlg then
    if h.hashAlgorithm = .sha3_256 then .mode2 else .mode1
  else if h.hashAlgorithm = .zucEia3 then .mode0
  else .mode1

/-- The descriptor before the command is built: zeroes, and what is copied from the setup data.
Source: `LacAlgChain_SessionInit`, the part that populates the session data. -/
def sessionDescOf (setup : SessionSetupData) (isDPSession isSync : Bool) : SessionDesc :=
  let c := setup.cipherSetupData
  let h := setup.hashSetupData
  let isCipher := decide (setup.symOperation ≠ .hash)
  let isAuth := decide (setup.symOperation ≠ .cipher)
  let chained := decide (setup.symOperation = .algorithmChaining)
  let isAuthEncryptOp := chained && (c.cipherAlgorithm = .aesCcm || c.cipherAlgorithm = .aesGcm)
  { symOperation := setup.symOperation
    isDPSession := isDPSession
    isSync := isSync
    isCipher := isCipher
    isAuth := isAuth
    isAuthEncryptOp := isAuthEncryptOp
    laCmdId := .cipher
    cipherAlgorithm := if isCipher then c.cipherAlgorithm else .none
    cipherKeyLenInBytes := if isCipher then c.cipherKeyLenInBytes else 0
    cipherDirection := if isCipher then c.cipherDirection else .encrypt
    hashAlgorithm := if isAuth then h.hashAlgorithm else .none
    hashMode := if isAuth then h.hashMode else .none
    qatHashMode := if isAuth then qatHashModeOf h else .mode0
    hashResultSize := if isAuth then h.digestResultLenInBytes else 0
    authKeyLenInBytes := if isAuth && h.hashMode = .auth then h.authKeyLenInBytes else 0
    aadLenInBytes :=
      if isAuth && (isAuthEncryptOp || h.hashAlgorithm = .snow3gUia2 || h.hashAlgorithm = .zucEia3)
      then h.aadLenInBytes else 0
    digestIsAppended := setup.digestIsAppended || chained && c.cipherAlgorithm = .aesCcm
    digestVerify := setup.verifyDigest
    partialState := .full }

/-- The command, the chaining order and the protocol. For the authenticated ciphers the order and the digest
flag follow from the direction. -/
def buildCmdData (desc : SessionDesc) (chainOrder : AlgChainOrder) : SessionDesc × AlgChainOrder × Proto :=
  let hashProto : Proto :=
    if desc.hashAlgorithm = .snow3gUia2 then .snow3g
    else if desc.hashAlgorithm = .zucEia3 then .zuc3g else .noProto
  let command : AlgChainOrder → LaCmdId
    | .cipherThenHash => .cipherHash
    | .hashThenCipher => .hashCipher
  let encrypt := decide (desc.cipherDirection = .encrypt)
  match desc.symOperation with
  | .cipher =>
    ({ desc with laCmdId := .cipher }, chainOrder,
      if desc.cipherAlgorithm = .snow3gUea2 then .snow3g
      else if desc.cipherAlgorithm = .zucEea3 then .zuc3g else .noProto)
  | .hash => ({ desc with laCmdId := .auth }, chainOrder, hashProto)
  | .algorithmChaining =>
    if desc.cipherAlgorithm = .aesCcm then
      let order := if encrypt then .hashThenCipher else .cipherThenHash
      ({ desc with laCmdId := command order, digestVerify := !encrypt }, order, .ccm)
    else if desc.cipherAlgorithm = .aesGcm then
      let order := if encrypt then .cipherThenHash else .hashThenCipher
      ({ desc with laCmdId := command order, digestVerify := !encrypt }, order, .gcm)
    else
      ({ desc with laCmdId := command chainOrder, isAuthEncryptOp := false }, chainOrder, hashProto)

/-- The descriptor of a session whose setup data pass the checks.
Source: `LacSym_InitSession` and `LacAlgChain_SessionInit`, up to the message templates. -/
def populateSession (caps : Capabilities) (setup : SessionSetupData) (isDPSession isSync : Bool) :
    Except Failure SessionDesc := do
  sessionParamCheck caps setup
  if setup.symOperation ≠ .hash then cipherSessionSetupDataCheck setup.cipherSetupData
  if setup.symOperation ≠ .cipher then hashContextCheck caps setup.hashSetupData
  .ok (buildCmdData (sessionDescOf setup isDPSession isSync) setup.algChainOrder).1

/-! ## What an accepted session looks like -/

/-- The command of an accepted session says what it does, and only sessions with one of the
authenticated ciphers authenticate and encrypt in one. -/
structure SessionDesc.Sane (desc : SessionDesc) : Prop where
  laCmdId_auth : desc.laCmdId = .auth ↔ desc.isCipher = false
  laCmdId_cipher : desc.laCmdId = .cipher ↔ desc.isAuth = false
  /-- `isCipher` and `isAuth` say what `symOperation` says. -/
  isCipher : desc.isCipher = true ↔ desc.symOperation ≠ .hash
  /-- `isCipher` and `isAuth` say what `symOperation` says. -/
  isAuth : desc.isAuth = true ↔ desc.symOperation ≠ .cipher
  /-- Sessions that authenticate and encrypt in one have both, and a hash that does so. -/
  isAuthEncryptOp : desc.isAuthEncryptOp = true → desc.symOperation = .algorithmChaining ∧
    (desc.hashAlgorithm = .aesCcm ∨ desc.hashAlgorithm = .aesGcm ∨ desc.hashAlgorithm = .aesGmac)
  hashAlgorithm : desc.isAuth = true → desc.isAuthEncryptOp = false →
    desc.hashAlgorithm ≠ .aesCcm ∧ desc.hashAlgorithm ≠ .aesGcm
  hashMode : desc.isAuthEncryptOp = true → desc.hashMode = .auth

variable {caps : Capabilities} {setup : SessionSetupData} {desc : SessionDesc}

lemma populateSession_eq_ok {dp sync : Bool} : populateSession caps setup dp sync = .ok desc ↔
      sessionParamCheck caps setup = .ok () ∧
      (setup.symOperation ≠ .hash → cipherSessionSetupDataCheck setup.cipherSetupData = .ok ()) ∧
      (setup.symOperation ≠ .cipher → hashContextCheck caps setup.hashSetupData = .ok ()) ∧
      desc = (buildCmdData (sessionDescOf setup dp sync) setup.algChainOrder).1 := by
  unfold populateSession
  rcases setup.symOperation <;> simp [eq_comm (a := desc)]

lemma hashMode_of_hashContextCheck {h : HashSetupData} (hok : hashContextCheck caps h = .ok ())
    (halg : h.hashAlgorithm = .aesCcm ∨ h.hashAlgorithm = .aesGcm ∨ h.hashAlgorithm = .aesGmac) :
    h.hashMode = .auth := by
  unfold hashContextCheck at hok
  rw [bind_eq_ok, bind_eq_ok, bind_eq_ok, reject_eq_ok, reject_eq_ok, reject_eq_ok] at hok
  obtain ⟨-, -, hmode, -⟩ := hok
  rcases halg with halg | halg | halg <;> simpa [HashAlgorithm.modeNotSupported, halg] using hmode

/-- **Accepted sessions are sane.** -/
theorem sane_of_populateSession {dp sync : Bool}
    (hok : populateSession caps setup dp sync = .ok desc) : desc.Sane := by
  obtain ⟨hparam, -, hhash, rfl⟩ := populateSession_eq_ok.mp hok
  rcases hop : setup.symOperation with _ | _ | _
  · constructor <;> simp [buildCmdData, sessionDescOf, hop]
  · simp only [sessionParamCheck, hop, bind_eq_ok, reject_eq_ok] at hparam
    simp only [not_or] at hparam
    constructor <;> simp [buildCmdData, sessionDescOf, hop, hparam]
  · have hmode := hashMode_of_hashContextCheck (hhash (by simp [hop]))
    simp only [sessionParamCheck, hop, bind_eq_ok, reject_eq_ok, not_mismatched] at hparam
    obtain ⟨hccm, hgcm, -⟩ := hparam
    by_cases hc : setup.cipherSetupData.cipherAlgorithm = .aesCcm
    · have hh : setup.hashSetupData.hashAlgorithm = .aesCcm := by simpa [hc] using hccm
      have hm := hmode (.inl hh)
      rcases hd : setup.cipherSetupData.cipherDirection <;>
        constructor <;> simp [buildCmdData, sessionDescOf, hop, hc, hh, hm, hd]
    by_cases hg : setup.cipherSetupData.cipherAlgorithm = .aesGcm
    · have hh : setup.hashSetupData.hashAlgorithm = .aesGcm ∨
          setup.hashSetupData.hashAlgorithm = .aesGmac := by simpa [hg] using hgcm
      have hm := hmode (.inr hh)
      rcases hd : setup.cipherSetupData.cipherDirection <;>
        constructor <;> simp [buildCmdData, sessionDescOf, hop, hg, hm, hd, hh]
    · have hh : setup.hashSetupData.hashAlgorithm ≠ .aesCcm := by simpa [hc] using hccm
      have hh' : setup.hashSetupData.hashAlgorithm ≠ .aesGcm ∧
          setup.hashSetupData.hashAlgorithm ≠ .aesGmac := by simpa [hg] using hgcm
      rcases ho : setup.algChainOrder <;> constructor <;> simp [buildCmdData, sessionDescOf, hop, hc, hg, hh, hh']

end QuickAssist.Sym
