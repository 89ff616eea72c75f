import QuickAssist.Lib.Memory
import QuickAssist.Sym.Session

/-!
# Generating keys for TLS

For each request the driver hands the device a *hash state buffer* with two prefixes, the keys of the inner and of
the outer HMAC: for TLS 1.0 and 1.1 the second and the first half of the secret, for TLS 1.2 the secret, twice. This
file is what `cpaCyKeyGenTls` and `cpaCyKeyGenTls2` do to get there.

**Memory.** The two buffers of a request, `hashStateBuffer` and `hashKeyBuffer`, are fields of its cookie. A cookie
comes from a pool, with whatever its last request has left in it; the ranges that are written are recorded, and so are
the ranges of the secret that are read.

**Left out.** SSL 3, which writes no prefixes; the seed, the label and the rest of the message.
-/

namespace QuickAssist.Key

open Lib Lib.Memory
open QuickAssist.Sym (HashAlgorithm Failure reject Bytes)

/-! ## Requests -/

/-- `icp_qat_fw_la_cmd_id_t` -/
inductive TlsCmd
  /-- `ICP_QAT_FW_LA_CMD_TLS_V1_1_KEY_DERIVE`: TLS 1.0 and 1.1. -/
  | tlsV11
  | tlsV12
  deriving DecidableEq

/-- `CpaCyKeyTlsOp` -/
inductive TlsOp
  | zero
  | masterSecretDerive
  | keyMaterialDerive
  | clientFinishedDerive
  | serverFinishedDerive
  | userDefined
  deriving DecidableEq

structure FlatBuffer where
  pData : Option Bytes
  dataLenInBytes : U32

/-- The memory at `pData`, which is not `NULL` where it is used. -/
def FlatBuffer.bytes (b : FlatBuffer) : Bytes := b.pData.getD fun _ => 0

def FlatBuffer.data (b : FlatBuffer) : Octets := read b.bytes 0 b.dataLenInBytes.toNat

structure TlsOpData where
  tlsOp : TlsOp
  secret : FlatBuffer
  seed : FlatBuffer
  generatedKeyLenInBytes : U32
  userLabel : FlatBuffer

def tlsSecretLenMax : U32 := 128

def tlsV11SecretLenMax : U32 := 128

def tlsV12SecretLenMax : U32 := 64

def tlsSeedLenMax : U32 := 64

def tlsOutputLenMax : U32 := 248

def tlsLabelLenMax : U32 := 255

def getDigestSizeFromHashAlgo : HashAlgorithm → U32
  | .sha256 => 32
  | .sha384 => 48
  | .sha512 => 64
  | _ => 0

def TlsCmd.maxSecretLen : TlsCmd → U32
  | .tlsV11 => tlsV11SecretLenMax * 4
  | .tlsV12 => tlsV12SecretLenMax * 8

/-- Only for two operations the seed should have a fixed length; the condition of the source is true
of every operation. -/
def seedCheck (op : TlsOpData) : Except Failure Unit :=
  if op.tlsOp ≠ .masterSecretDerive ∨ op.tlsOp ≠ .keyMaterialDerive then
    reject (tlsSeedLenMax < op.seed.dataLenInBytes)
  else reject (tlsSeedLenMax ≠ op.seed.dataLenInBytes)

def checkParamSslTls (cmd : TlsCmd) (hashAlgorithm : HashAlgorithm) (op : TlsOpData)
    (generatedKeyBuffer : FlatBuffer) : Except Failure Unit := do
  reject generatedKeyBuffer.pData.isNone
  reject (cmd = .tlsV12 ∧ getDigestSizeFromHashAlgo hashAlgorithm = 0)
  reject op.secret.pData.isNone
  reject op.seed.pData.isNone
  reject (op.tlsOp = .userDefined ∧ op.userLabel.pData.isNone)
  reject (op.tlsOp = .userDefined ∧ tlsLabelLenMax < op.userLabel.dataLenInBytes)
  seedCheck op
  reject (cmd.maxSecretLen < op.secret.dataLenInBytes)
  reject (tlsOutputLenMax < op.generatedKeyLenInBytes)
  reject (generatedKeyBuffer.dataLenInBytes < op.generatedKeyLenInBytes)

/-! ## The software hashes -/

/-- The hashes of the OS abstraction layer: `osalHashMD5Full` and so on. -/
structure SoftwareHashes where
  full : HashAlgorithm → Octets → Octets
  length_full : ∀ alg msg, (full alg msg).length = alg.digestLength.toNat

/-- The cookie of a request.
Source: `lac_sym_key_cookie_t`. -/
structure Cookie where
  hashStateBuffer : Buffer U8
  hashKeyBuffer : Buffer U8
  secretReads : List (ℕ × ℕ)

def maxHashStateBuffer : ℕ := 256

def hashBufferLen : ℕ := 64

def Cookie.alloc (hashStateBuffer hashKeyBuffer : Bytes) : Cookie := ⟨⟨hashStateBuffer, []⟩, ⟨hashKeyBuffer, []⟩, []⟩

/-- The hash of a part of the secret, written into `hashKeyBuffer` at `dst`. -/
def computeHashKey (sw : SoftwareHashes) (alg : HashAlgorithm) (secret : Bytes) (off len dst : ℕ)
    (c : Cookie) : Cookie :=
  match alg with
  | .md5 | .sha1 | .sha256 | .sha384 | .sha512 =>
    { c with
      hashKeyBuffer := c.hashKeyBuffer.write dst (sw.full alg (read secret off len))
      secretReads := c.secretReads ++ [(off, len)] }
  | _ => c

/-! ## Where the prefixes are taken from -/

inductive PrefixData
  | secret (off : ℕ)
  | hashKey (off : ℕ)

/-- `CpaCySymHashNestedModeSetupData`, with the algorithm of the inner hash. -/
structure NestedSetup where
  hashAlgorithm : HashAlgorithm
  innerPrefixData : PrefixData
  innerPrefixLenInBytes : U32
  outerPrefixData : PrefixData
  outerPrefixLenInBytes : U32

def TlsOp.HashesSecret (op : TlsOp) : Prop := op = .masterSecretDerive ∨ op = .userDefined
  deriving Decidable

def tlsV12HashedFrom : HashAlgorithm → Option U32
  | .sha256 => some tlsV12SecretLenMax
  | .sha384 | .sha512 => some tlsSecretLenMax
  | _ => none

/-- The secret is hashed: `precompute`. -/
def Precompute (hashAlgorithm : HashAlgorithm) (op : TlsOpData) : Prop :=
  op.tlsOp.HashesSecret ∧ ∃ max ∈ tlsV12HashedFrom hashAlgorithm, max < op.secret.dataLenInBytes
  deriving Decidable

/-- Both prefixes are the secret, or its hash.
Source: the branch for TLS 1.2 of `LacSymKey_KeyGenSslTls_GenCommon`. -/
def setupTls12 (sw : SoftwareHashes) (hashAlgorithm : HashAlgorithm) (op : TlsOpData)
    (secret : Bytes) (c : Cookie) : NestedSetup × Cookie :=
  if Precompute hashAlgorithm op then
    let digestResultLenInBytes := getDigestSizeFromHashAlgo hashAlgorithm
    (⟨hashAlgorithm, .hashKey 0, digestResultLenInBytes, .hashKey 0, digestResultLenInBytes⟩,
      computeHashKey sw hashAlgorithm secret 0 op.secret.dataLenInBytes.toNat 0 c)
  else
    (⟨hashAlgorithm, .secret 0, op.secret.dataLenInBytes, .secret 0, op.secret.dataLenInBytes⟩, c)

/-- The length of the halves: `tlsPrefixLen`. -/
def tlsPrefixLen (secretLen : U32) : U32 := (secretLen + 1) >>> 1

def HashesHalves (op : TlsOpData) : Prop := tlsV11SecretLenMax < op.secret.dataLenInBytes ∧ op.tlsOp.HashesSecret
  deriving Decidable

/-- The outer prefix is the first half of the secret and the inner one the second half, or their hashes; they
have a byte in common if the length of the secret is odd. -/
def setupTls11 (sw : SoftwareHashes) (op : TlsOpData) (secret : Bytes) (c : Cookie) : NestedSetup × Cookie :=
  let len := tlsPrefixLen op.secret.dataLenInBytes
  let second := (op.secret.dataLenInBytes - len).toNat
  if HashesHalves op then
    let md5Len := HashAlgorithm.md5.digestLength
    let sha1Len := HashAlgorithm.sha1.digestLength
    let c := computeHashKey sw .md5 secret 0 len.toNat 0 c
    let c := computeHashKey sw .sha1 secret second len.toNat md5Len.toNat c
    (⟨.sha1, .hashKey md5Len.toNat, sha1Len, .hashKey 0, md5Len⟩, c)
  else (⟨.sha1, .secret second, len, .secret 0, len⟩, c)

/-! ## Where they are written to -/

structure PrefixMetaData where
  innerPrefixSz : U8
  outerPrefixSz : U8
  outerPrefixOffset : U8

/-- The prefixes of TLS have the block length of the inner hash.
Source: `LacSymQat_HashSetupReqParamsMetaData`, in the mode `ICP_QAT_HW_AUTH_MODE2`. -/
def hashSetupReqParamsMetaData (hashAlgorithm : HashAlgorithm) : PrefixMetaData :=
  let blockLength := hashAlgorithm.blockLength.setWidth 8
  ⟨blockLength, blockLength, BitVec.ofNat 8 (((blockLength.toNat + 7) / 8 * 8) >>> 3)⟩

/-- The sizes of the parts of the hash state buffer, in quadwords.
Source: `lac_sym_qat_hash_state_buffer_info_t`. -/
structure HashStateBufferInfo where
  stateStorageSzQuadWords : ℕ
  prefixAadSzQuadWords : ℕ

def populatePrefix (buf : Buffer U8) (off : ℕ) (src : Bytes) (size padding : U8) : Buffer U8 :=
  let buf := buf.write off (read src 0 size.toNat)
  if 0 < padding then buf.write (off + size.toNat) (List.replicate padding.toNat 0) else buf

/-- Sizes and paddings are `Cpa8U`. -/
def hashStatePrefixAadBufferPopulate (info : HashStateBufferInfo) (params : PrefixMetaData)
    (inner : Bytes) (innerPrefixSize : U8) (outer : Bytes) (outerPrefixSize : U8) (buf : Buffer U8) : Buffer U8 :=
  let buf := populatePrefix buf (info.stateStorageSzQuadWords <<< 3) inner innerPrefixSize
    (params.innerPrefixSz - innerPrefixSize)
  populatePrefix buf ((info.stateStorageSzQuadWords + params.outerPrefixOffset.toNat) <<< 3) outer outerPrefixSize
    (BitVec.ofNat 8 (info.prefixAadSzQuadWords <<< 3) - params.innerPrefixSz - outerPrefixSize)

def PrefixData.memory (secret : Bytes) (c : Cookie) : PrefixData → Bytes
  | .secret off => fun i => secret (off + i)
  | .hashKey off => fun i => c.hashKeyBuffer.cells (off + i)

def PrefixData.secretRead (size : U8) : PrefixData → List (ℕ × ℕ)
  | .secret off => [(off, size.toNat)]
  | .hashKey _ => []

/-- Write the two prefixes. Their lengths are cast to `Cpa8U`.
Source: the end of `LacSymKey_KeyGenSslTls_GenCommon`. -/
def populateHashState (secret : Bytes) (setup : NestedSetup) (c : Cookie) : Cookie :=
  let params := hashSetupReqParamsMetaData setup.hashAlgorithm
  let info : HashStateBufferInfo := ⟨0, (params.innerPrefixSz.toNat + params.outerPrefixSz.toNat) >>> 3⟩
  let innerSize := setup.innerPrefixLenInBytes.setWidth 8
  let outerSize := setup.outerPrefixLenInBytes.setWidth 8
  { c with
    hashStateBuffer :=
      hashStatePrefixAadBufferPopulate info params (setup.innerPrefixData.memory secret c) innerSize
        (setup.outerPrefixData.memory secret c) outerSize c.hashStateBuffer
    secretReads :=
      c.secretReads ++ setup.innerPrefixData.secretRead innerSize ++ setup.outerPrefixData.secretRead outerSize }

/-- Prepare the hash state buffer of a request.
Source: `LacSymKey_KeyGenSslTls_GenCommon`. -/
def keyGenTlsGenCommon (sw : SoftwareHashes) (cmd : TlsCmd) (hashAlgorithm : HashAlgorithm)
    (op : TlsOpData) (c : Cookie) : Cookie :=
  let secret := op.secret.bytes
  let (setup, c) :=
    match cmd with
    | .tlsV11 => setupTls11 sw op secret c
    | .tlsV12 => setupTls12 sw hashAlgorithm op secret c
  populateHashState secret setup c

end QuickAssist.Key
