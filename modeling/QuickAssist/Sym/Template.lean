import Mathlib.Data.BitVec
import QuickAssist.Sym.Session

/-!
# Request templates

The session keeps two *templates* for its requests: a header with the command and its flags, and a footer with the
control block that tells the slices of the device where in the content descriptor their setup is. One template refers
to the content descriptor in memory, the other one to a table of constants in the device (SHRAM), which holds the
configuration of some ciphers and hashes.

**Numbers.** The fields of the footer are bytes. What is written to them is small, so they are natural numbers here;
where a value is cut off on the way, the model does so.
-/

namespace QuickAssist.Sym

/-! ## Flags -/

def qatFieldSet (flags val : U16) (bitpos : ℕ) (mask : U16) : U16 :=
  (flags &&& ~~~(mask <<< bitpos)) ||| ((val &&& mask) <<< bitpos)

def Proto.value : Proto → U16
  | .noProto => 0
  | .ccm => 1
  | .gcm => 2
  | .snow3g => 4
  | .zuc3g => 1

def flag (b : Bool) : U16 := if b then 1 else 0

/-- The common flags: the content descriptor field holds an address, and buffers are flat for the data
plane and scatter-gather lists otherwise.
Source: `buildCmdData`. -/
def cmnRequestFlags (desc : SessionDesc) : U16 := if desc.isDPSession then 0 else 1

/-- `ICP_QAT_FW_COMN_CD_FLD_TYPE_SET`: the content descriptor field holds 16 bytes of data. -/
def cdFldTypeSet (flags : U16) (data : Bool) : U16 := qatFieldSet flags (flag data) 1 1

/-- Source: `LacSymQat_LaSetDefaultFlags`, on flags that are zero. -/
def laSetDefaultFlags (op : SymOp) : U16 :=
  let flags := qatFieldSet 0 0 0 3
  let flags := qatFieldSet flags 0 4 1
  let flags := qatFieldSet flags (flag (op ≠ .cipher)) 5 1
  let flags := qatFieldSet flags 0 6 1
  qatFieldSet flags 0 11 1

/-- `ICP_QAT_FW_LA_CIPH_AUTH_CFG_OFFSET_FLAG_SET`: offsets of the configuration are offsets in the
table of constants. -/
def ciphAuthCfgOffsetFlagSet (flags : U16) (inShramCp : Bool) : U16 := qatFieldSet flags (flag inShramCp) 3 1

def updateLaCmdFlags (desc : SessionDesc) (proto : Proto) (flags : U16) : U16 :=
  let flags :=
    if desc.isAuth then
      if desc.digestVerify then qatFieldSet (qatFieldSet flags 1 6 1) 0 5 1
      else qatFieldSet (qatFieldSet flags 1 5 1) 0 6 1
    else flags
  let flags :=
    if desc.cipherAlgorithm = .zucEea3 ∨ desc.hashAlgorithm = .zucEia3 then
      qatFieldSet flags proto.value 12 1
    else qatFieldSet flags proto.value 7 7
  qatFieldSet flags (flag desc.digestIsAppended) 10 1

@[simp] lemma ciphAuthCfgOffsetFlagSet_laSetDefaultFlags (op : SymOp) :
    ciphAuthCfgOffsetFlagSet (laSetDefaultFlags op) false = laSetDefaultFlags op := by
  cases op <;> rfl

@[simp] lemma cdFldTypeSet_cmnRequestFlags (desc : SessionDesc) :
    cdFldTypeSet (cmnRequestFlags desc) false = cmnRequestFlags desc := by
  unfold cmnRequestFlags
  split <;> rfl

/-! ## Header and footer -/

/-- `icp_qat_fw_comn_req_hdr_t`, without the fields that are the same in every request of the
service. -/
structure CmnHdr where
  serviceCmdId : LaCmdId
  comnReqFlags : U16
  servSpecifFlags : U16

/-- `icp_qat_la_auth_req_params_t`. The first field is `aad_sz`, too. -/
structure AuthReqParams where
  innerPrefixSz : ℕ
  hashStateSz : ℕ
  authResSz : ℕ

/-- `icp_qat_fw_cipher_auth_cd_ctrl_hdr_t`. The control blocks for a cipher and for a hash alone have
their fields at the same places. -/
structure CdCtrl where
  cipherStateSz : ℕ
  cipherKeySz : ℕ
  cipherCfgOffset : ℕ
  nextCurrIdCipher : U8
  cipherPaddingSz : ℕ
  hashFlags : ℕ
  hashCfgOffset : ℕ
  nextCurrIdAuth : U8
  outerPrefixSz : ℕ
  finalSz : ℕ
  innerResSz : ℕ
  innerState1Sz : ℕ
  innerState2Offset : ℕ
  innerState2Sz : ℕ
  outerConfigOffset : ℕ
  outerState1Sz : ℕ
  outerResSz : ℕ
  outerPrefixOffset : ℕ

/-- `icp_qat_la_bulk_req_ftr_t` -/
structure ReqFtr where
  servSpecifRqpars : AuthReqParams
  cdCtrl : CdCtrl

def ReqFtr.zero : ReqFtr := ⟨⟨0, 0, 0⟩, ⟨0, 0, 0, 0, 0, 0, 0, 0, 0, 0, 0, 0, 0, 0, 0, 0, 0, 0⟩⟩

/-! ## Slices -/

/-- `icp_qat_fw_slice_t`, as far as it is used. -/
inductive Slice
  | cipher
  | auth
  | dramWr

def Slice.id : Slice → U8
  | .cipher => 1
  | .auth => 2
  | .dramWr => 4

def nextIdSet (id : U8) (next : Slice) : U8 := (id &&& 0x0F#8) ||| (next.id <<< 4 &&& 0xF0#8)

def currIdSet (id : U8) (curr : Slice) : U8 := (id &&& 0xF0#8) ||| (curr.id &&& 0x0F#8)

lemma currIdSet_nextIdSet (id id' : U8) (next curr : Slice) :
    currIdSet (nextIdSet id next) curr = currIdSet (nextIdSet id' next) curr := by
  have high (x y : U8) : ((x &&& 0x0F#8) ||| (y &&& 0xF0#8)) &&& 0xF0#8 = y &&& 0xF0#8 := by
    rw [BitVec.and_or_distrib_right, BitVec.and_assoc, BitVec.and_assoc]
    simp
  simp only [currIdSet, nextIdSet, high]

/-! ## The cipher slice -/

/-- `icp_qat_hw_cipher_algo_t` -/
inductive HwCipherAlgo
  | null | des | tripleDes | aes128 | aes192 | aes256 | arc4 | kasumi | snow3gUea2 | zuc3gEea3

def HwCipherAlgo.code : HwCipherAlgo → U32
  | null => 0
  | des => 1
  | tripleDes => 2
  | aes128 => 3
  | aes192 => 4
  | aes256 => 5
  | arc4 => 6
  | kasumi => 7
  | snow3gUea2 => 8
  | zuc3gEea3 => 9

/-- `icp_qat_hw_cipher_mode_t` -/
inductive HwCipherMode
  | ecb | cbc | ctr | f8 | xts
  deriving DecidableEq

def HwCipherMode.code : HwCipherMode → U32
  | ecb => 0
  | cbc => 1
  | ctr => 2
  | f8 => 3
  | xts => 6

structure CipherCfg where
  algorithm : HwCipherAlgo
  mode : HwCipherMode
  decrypt : Bool
  keyConvert : Bool

def keySizeAes (len : U32) : HwCipherAlgo :=
  if len = 16 then .aes128 else if len = 24 then .aes192 else if len = 32 then .aes256 else .null

def keySizeF8 (len : U32) : HwCipherAlgo :=
  if len = 32 then .aes128 else if len = 48 then .aes192 else if len = 64 then .aes256 else .null

def keySizeXts (len : U32) : HwCipherAlgo := if len = 32 then .aes128 else if len = 64 then .aes256 else .null

/-- Streaming ciphers encrypt in both directions; the key of AES is converted where it decrypts.
Source: `LacSymQat_CipherGetCfgData` and `icp_qat_alg_info`. -/
def cipherGetCfgData (desc : SessionDesc) : CipherCfg :=
  let len := desc.cipherKeyLenInBytes
  let dec := decide (desc.cipherDirection = .decrypt)
  match desc.cipherAlgorithm with
  | .none | .null => ⟨.null, .ecb, dec, false⟩
  | .arc4 => ⟨.arc4, .ecb, false, false⟩
  | .aesEcb => ⟨keySizeAes len, .ecb, dec, dec⟩
  | .aesCbc => ⟨keySizeAes len, .cbc, dec, dec⟩
  | .aesCtr | .aesCcm | .aesGcm => ⟨keySizeAes len, .ctr, false, false⟩
  | .desEcb => ⟨.des, .ecb, dec, false⟩
  | .desCbc => ⟨.des, .cbc, dec, false⟩
  | .tripleDesEcb => ⟨.tripleDes, .ecb, dec, false⟩
  | .tripleDesCbc => ⟨.tripleDes, .cbc, dec, false⟩
  | .tripleDesCtr => ⟨.tripleDes, .ctr, false, false⟩
  | .kasumiF8 => ⟨.kasumi, .f8, false, false⟩
  | .snow3gUea2 => ⟨.snow3gUea2, .ecb, dec, true⟩
  | .aesF8 => ⟨keySizeF8 len, .f8, false, false⟩
  | .aesXts => ⟨keySizeXts len, .xts, dec, dec⟩
  | .zucEea3 => ⟨.zuc3gEea3, .ecb, dec, true⟩

def bytesToQuadwords (n : ℕ) : ℕ := n >>> 3

/-- The part of the control block for the cipher slice; behind the keys of some ciphers there is room for an
initialisation vector. -/
def cipherCtrlBlockWrite (ftr : ReqFtr) (alg : CipherAlgorithm) (keyLen : U32) (next : Slice)
    (cfgOffset : ℕ) : ReqFtr :=
  let keySz :=
    match alg with
    | .arc4 | .null => 0
    | .kasumiF8 => bytesToQuadwords 32
    | .snow3gUea2 => bytesToQuadwords (16 + 16)
    | .zucEea3 => bytesToQuadwords (16 + 16)
    | _ => bytesToQuadwords keyLen.toNat
  let paddingSz :=
    match alg with
    | .kasumiF8 => 2
    | .aesF8 => 2 * 2
    | _ => 0
  { ftr with
    cdCtrl :=
      { ftr.cdCtrl with
        cipherPaddingSz := paddingSz
        cipherKeySz := keySz
        cipherStateSz := bytesToQuadwords alg.ivSizeBytesGet.toNat
        cipherCfgOffset := cfgOffset
        nextCurrIdCipher := currIdSet (nextIdSet ftr.cdCtrl.nextCurrIdCipher next) .cipher } }

/-! ## The table of constants -/

/-- Where the configuration of a cipher is in the table of constants, or zero.
Source: `LacSymQat_ConstantsGetCipherOffset` and `ICP_QAT_HW_FILL_LOOKUP_TBLS`. -/
def constantsGetCipherOffset (cfg : CipherCfg) : ℕ :=
  match cfg.algorithm, cfg.mode, cfg.decrypt, cfg.keyConvert with
  | .des, .ecb, false, false => 9
  | .des, .ecb, true, false => 10
  | .des, .cbc, false, false => 11
  | .des, .cbc, true, false => 12
  | .des, .ctr, false, false => 13
  | .aes128, .ecb, false, false => 14
  | .aes128, .ecb, false, true => 15
  | .aes128, .ecb, true, false => 16
  | .aes128, .ecb, true, true => 17
  | .aes128, .cbc, false, false => 18
  | .aes128, .cbc, false, true => 19
  | .aes128, .cbc, true, false => 20
  | .aes128, .cbc, true, true => 21
  | .aes128, .ctr, false, false => 22
  | .aes128, .f8, false, false => 23
  | .arc4, .ecb, false, false => 24
  | .arc4, .ecb, false, true => 25
  | _, _, _, _ => 0

/-- `algoEnc` in `lac_sym_qat_hash_qat_info_t`. -/
def HashAlgorithm.algoEnc : HashAlgorithm → U32
  | none => 0
  | sha1 => 1
  | md5 => 2
  | sha224 => 3
  | sha256 => 4
  | sha384 => 5
  | sha512 => 6
  | aesXcbc | aesCmac => 7
  | aesCcm | aesCbcMac => 8
  | aesGcm | aesGmac => 10
  | kasumiF9 => 12
  | snow3gUia2 => 13
  | zucEia3 => 14
  | sha3_256 => 17

/-- Whether the device makes two passes: the flag `nested`.
Source: `LacSymQat_HashGetCfgData`, `LacSymQat_HashContentDescInit`. -/
def doNested (qatHashMode : QatHashMode) (hashMode : HashMode) : Bool := qatHashMode = .mode2 || hashMode = .nested

/-- Where the configuration of a hash is in the table of constants, which has the plain hashes and HMAC with
SHA-1, or zero. -/
def constantsGetAuthOffset (algoEnc : U32) (mode : QatHashMode) (nested : Bool) : ℕ :=
  if nested then 0
  else if mode = .mode0 then
    if algoEnc = 2 then 37 else if algoEnc = 1 then 41 else if algoEnc = 3 then 48
    else if algoEnc = 4 then 54 else if algoEnc = 5 then 60 else if algoEnc = 6 then 70 else 0
  else if mode = .mode1 ∧ algoEnc = 1 then 46 else 0

def useOptimisedContentDesc (desc : SessionDesc) : Bool :=
  desc.cipherAlgorithm = .aesCbc && desc.cipherKeyLenInBytes ≤ 16 && desc.hashAlgorithm = .sha1 &&
    desc.qatHashMode = .mode1

/-- What `LacSymQat_UseSymConstantsTable` returns. -/
structure Constants where
  use : Bool
  cipherOffset : ℕ
  hashOffset : ℕ

/-- The part of `LacSymQat_UseSymConstantsTable` for the hash. -/
def hashConstants (desc : SessionDesc) (optimised : Bool) (cipherOffset : ℕ) : Constants :=
  if desc.digestVerify then ⟨false, cipherOffset, 0⟩
  else if ¬ optimised ∧ desc.qatHashMode = .mode1 then ⟨false, cipherOffset, 0⟩
  else
    let hashOffset := constantsGetAuthOffset desc.hashAlgorithm.algoEnc desc.qatHashMode
      (doNested desc.qatHashMode desc.hashMode)
    ⟨0 < hashOffset, cipherOffset, hashOffset⟩

/-- Whether the table of constants can be used, and the offsets in it. In a chain it is used only
together with the optimised content descriptor. -/
def useSymConstantsTable (desc : SessionDesc) : Constants :=
  let cipherOffset := constantsGetCipherOffset (cipherGetCfgData desc)
  match desc.laCmdId with
  | .cipher => if 16 < desc.cipherKeyLenInBytes then ⟨false, 0, 0⟩ else ⟨0 < cipherOffset, cipherOffset, 0⟩
  | .auth => hashConstants desc false 0
  | .cipherHash | .hashCipher =>
    if useOptimisedContentDesc desc then
      if 16 < desc.cipherKeyLenInBytes then ⟨false, 0, 0⟩
      else if 0 < cipherOffset then hashConstants desc true cipherOffset
      else ⟨false, cipherOffset, 0⟩
    else ⟨false, 0, 0⟩

end QuickAssist.Sym
