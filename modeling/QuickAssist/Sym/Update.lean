import QuickAssist.Sym.Init

/-!
# Updating a symmetric session

`cpaCySymUpdateSession` replaces the cipher key, the authentication key or the direction of a session. It does not
build the session again but writes over parts of what `sessionInit` has built. When the direction of an authenticated
cipher changes the two blocks change places, and the footer and the header follow.
-/

namespace QuickAssist.Sym

open Lib Lib.Memory

/-! ## Updates -/

structure SessionUpdateData where
  flags : U32
  pCipherKey : Option Bytes
  cipherDirection : CipherDirection
  authKey : Option Bytes

/-- `CPA_CY_SYM_SESUPD_CIPHER_KEY` -/
def SessionUpdateData.hasCipherKey (u : SessionUpdateData) : Prop := 1 &&& u.flags ≠ 0
  deriving Decidable

/-- `CPA_CY_SYM_SESUPD_CIPHER_DIR` -/
def SessionUpdateData.hasDirection (u : SessionUpdateData) : Prop := 2 &&& u.flags ≠ 0
  deriving Decidable

/-- `CPA_CY_SYM_SESUPD_AUTH_KEY` -/
def SessionUpdateData.hasAuthKey (u : SessionUpdateData) : Prop := 4 &&& u.flags ≠ 0
  deriving Decidable

/-- GCM or CCM: `LAC_CIPHER_IS_GCM`, `LAC_CIPHER_IS_CCM`. -/
def SessionDesc.isAead (desc : SessionDesc) : Prop := desc.cipherAlgorithm = .aesGcm ∨ desc.cipherAlgorithm = .aesCcm
  deriving Decidable

/-! ## The parts -/

def sessionCipherKeyUpdate (key : Bytes) (s : Session) : Except Failure Session :=
  let alg := s.desc.cipherAlgorithm
  let keyLen := s.desc.cipherKeyLenInBytes.toNat
  let keySetup (off : ℕ) (m : Bytes) : Bytes := (cipherHwBlockPopulateKeySetup alg key keyLen off m).1
  if alg = .arc4 then
    .ok { s with cipherARC4InitialState := write s.cipherARC4InitialState 0 (arc4StateInit key keyLen) }
  else
    match s.desc.symOperation with
    | .cipher =>
      let s := { s with contentDescriptor := keySetup 8 s.contentDescriptor }
      .ok <|
        if s.useSymConstantsTable then
          { s with shramReqCacheHdr := { s.shramReqCacheHdr with cdPars := keySetup 0 s.shramReqCacheHdr.cdPars } }
        else s
    | .algorithmChaining =>
      .ok { s with contentDescriptor := keySetup (s.reqCacheFtr.cdCtrl.cipherCfgOffset * 8 + 8) s.contentDescriptor }
    | .hash => .error .invalidParam

/-- The setup data that an update makes up from the session descriptor; the fields that are not set
are not read. -/
def hashDataOf (desc : SessionDesc) (authKey : Option Bytes) : HashSetupData where
  hashAlgorithm := desc.hashAlgorithm
  hashMode := desc.hashMode
  digestResultLenInBytes := desc.hashResultSize
  authKey := authKey
  authKeyLenInBytes := desc.authKeyLenInBytes
  aadLenInBytes := desc.aadLenInBytes
  outerHashAlgorithm := .none
  pInnerPrefixData := none
  innerPrefixLenInBytes := 0
  pOuterPrefixData := none
  outerPrefixLenInBytes := 0

def cipherKeyField (s : Session) : ℕ :=
  if s.desc.laCmdId = .cipherHash then 8 else s.reqCacheFtr.cdCtrl.outHashSetup + 8

def sessionAuthKeyUpdate (sw : OsalCrypto) (key : Bytes) (s : Session) : Session :=
  let desc := s.desc
  let alg := desc.hashAlgorithm
  let ctrl := s.reqCacheFtr.cdCtrl
  let m := s.contentDescriptor
  let authKey := read key 0 desc.authKeyLenInBytes.toNat
  if alg = .sha3_256 then
    if desc.isAuthEncryptOp then s
    else
      { s with
        hashStateBufferInfo := hashStatePrefixAadBufferSizeGet s.reqCacheFtr
        hashStatePrefixBuffer :=
          statePrefixAadBufferInit (hashDataOf desc (some key)) s.reqCacheFtr desc.qatHashMode
            s.hashStatePrefixBuffer }
  else if alg = .snow3gUia2 then { s with contentDescriptor := write m (ctrl.outHashSetup + 8) authKey }
  else if alg = .zucEia3 ∨ alg = .aesCbcMac then
    { s with contentDescriptor := write m ctrl.inHashInitState2 authKey }
  else if alg = .aesCmac ∨ alg = .kasumiF9 ∨ desc.qatHashMode = .mode1 then
    let m := if alg = .aesCmac then write m ctrl.inHashInitState2 (zeroes ctrl.innerState2Sz) else m
    { s with
      contentDescriptor :=
        precomputeDataCreate sw alg authKey
          (read m (cipherKeyField s) desc.cipherKeyLenInBytes.toNat) desc.aadLenInBytes
          ctrl.inHashInitState1 ctrl.inHashInitState2 m }
  else s

/-- The new direction of an authenticated cipher: the cipher block changes places with the hash block. Source:
`LacAlgChain_SessionDirectionUpdate`. -/
def aeadDirectionUpdate (s : Session) : Session :=
  let h := hashDataOf s.desc none
  let m := s.contentDescriptor
  let cipherBlkSize := 8 + s.desc.cipherKeyLenInBytes.toNat
  let hashBlkSize := s.hwBlkSzQuadWords * 8 - cipherBlkSize
  let cipherBlk := read m (s.reqCacheFtr.cdCtrl.cipherCfgOffset * 8) cipherBlkSize
  let (desc, order, proto) := buildCmdData s.desc .hashThenCipher
  let (ftr, m) :=
    match order with
    | .hashThenCipher =>
      let m := write m 0 (read m cipherBlkSize hashBlkSize)
      let m := write m hashBlkSize cipherBlk
      let (ftr, _) := hashContentDescInit s.reqCacheFtr h 0 .cipher desc.qatHashMode false
      let m := hashSetupBlockInit h ftr.cdCtrl desc.qatHashMode m
      (cipherCtrlBlockWrite ftr desc.cipherAlgorithm desc.cipherKeyLenInBytes .dramWr (hashBlkSize / 8), m)
    | .cipherThenHash =>
      let m := write m cipherBlkSize (read m 0 hashBlkSize)
      let m := write m 0 cipherBlk
      let ftr := cipherCtrlBlockWrite s.reqCacheFtr desc.cipherAlgorithm desc.cipherKeyLenInBytes
        .auth 0
      let (ftr, _) := hashContentDescInit ftr h (cipherBlkSize / 8) .dramWr desc.qatHashMode false
      (ftr, hashSetupBlockInit h ftr.cdCtrl desc.qatHashMode m)
  { s with
    desc := desc
    contentDescriptor := m
    reqCacheFtr := hashSetupReqParamsMetaData ftr h desc.qatHashMode desc.digestVerify
    reqCacheHdr := cmnHdrWrite s.reqCacheHdr desc.laCmdId (cmnRequestFlags desc)
      (updateLaCmdFlags desc proto (laSetDefaultFlags desc.symOperation)) }

def sessionDirectionUpdate (dir : CipherDirection) (s : Session) : Except Failure Session :=
  if s.desc.cipherDirection = dir then .ok s
  else
    let s := { s with desc := { s.desc with cipherDirection := dir } }
    match s.desc.symOperation with
    | .cipher =>
      let s := { s with contentDescriptor := cipherHwBlockPopulateCfgData s.desc 0 s.contentDescriptor }
      .ok <|
        if s.useSymConstantsTable then
          { s with
            shramReqCacheFtr :=
              cipherCtrlBlockWrite s.shramReqCacheFtr s.desc.cipherAlgorithm
                s.desc.cipherKeyLenInBytes .dramWr (useSymConstantsTable s.desc).cipherOffset }
        else s
    | .algorithmChaining =>
      if s.desc.isAuthEncryptOp then .ok (aeadDirectionUpdate s)
      else
        .ok { s with
          contentDescriptor :=
            cipherHwBlockPopulateCfgData s.desc (s.reqCacheFtr.cdCtrl.cipherCfgOffset * 8) s.contentDescriptor }
    | .hash => .error .unsupported

/-! ## The whole -/

/-- What is refused.
Source: `LacAlgChain_SessionUpdate`. -/
def sessionUpdateCheck (desc : SessionDesc) (u : SessionUpdateData) : Except Failure Unit := do
  reject (u.flags < 1 ∨ 8 ≤ u.flags)
  reject (u.hasCipherKey ∧ u.pCipherKey.isNone)
  refuse .unsupported (u.hasCipherKey ∧ desc.symOperation = .hash)
  reject (u.hasAuthKey ∧ u.authKey.isNone)
  refuse .unsupported (u.hasAuthKey ∧ desc.symOperation ≠ .cipher ∧ desc.hashMode ≠ .auth)
  refuse .unsupported (u.hasAuthKey ∧ desc.symOperation = .cipher)
  refuse .unsupported (u.hasAuthKey ∧ desc.isAead)
  refuse .unsupported (u.hasDirection ∧ desc.symOperation = .hash)

/-- The three parts, one after the other. With the key of an authenticated cipher the states of the
hash are replaced as well. -/
def sessionUpdate (sw : OsalCrypto) (u : SessionUpdateData) (s : Session) : Except Failure Session := do
  let s' ← if u.hasCipherKey then sessionCipherKeyUpdate (keyBytes u.pCipherKey) s else .ok s
  let aead := u.hasCipherKey ∧ s.desc.isAead
  let authKey := if aead then u.pCipherKey else u.authKey
  let s'' := if (aead ∨ u.hasAuthKey) ∧ s.desc.isAuth then sessionAuthKeyUpdate sw (keyBytes authKey) s' else s'
  if u.hasDirection then sessionDirectionUpdate u.cipherDirection s'' else .ok s''

/-- Update a session. `inUse`: there are readers of the session, or callbacks pending.
Source: `cpaCySymUpdateSession`, `LacAlgChain_SessionUpdate`. -/
def cpaCySymUpdateSession (sw : OsalCrypto) (u : SessionUpdateData) (inUse : Bool) (s : Session) :
    Except Failure Session := do
  refuse .fail (s.desc.partialState ≠ .full)
  sessionUpdateCheck s.desc u
  refuse .retry inUse
  sessionUpdate sw u s

end QuickAssist.Sym
