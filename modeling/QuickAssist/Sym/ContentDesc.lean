import QuickAssist.Key.Tls
import QuickAssist.Sym.Template

/-!
# Content descriptors

The *content descriptor* of a session is the memory from which the device is set up: a block for the cipher slice,
with a configuration word and the key, and a block for the authentication slice, with the states that the hash starts
from. This file is the functions that write these blocks.

**Outside.** The hashes and AES of the OS abstraction layer are parameters, `OsalCrypto`.
-/

namespace QuickAssist.Sym

open Lib Lib.Memory List

def zeroes (n : ℕ) : Octets := replicate n 0

@[simp] lemma length_zeroes (n : ℕ) : (zeroes n).length = n := length_replicate

def wordBytes (w : U32) : Octets := [w.setWidth 8, (w >>> 8).setWidth 8, (w >>> 16).setWidth 8, (w >>> 24).setWidth 8]

/-- A word in network byte order: `LAC_MEM_WR_32`. -/
def wordBytesSwapped (w : U32) : Octets := (wordBytes w).reverse

@[simp] lemma length_wordBytesSwapped (w : U32) : (wordBytesSwapped w).length = 4 := rfl

def alignQuadword (n : ℕ) : ℕ := (n + 7) / 8 * 8

/-! ## The cipher block -/

def cipherConfigBuild (cfg : CipherCfg) : U32 :=
  cfg.mode.code <<< 4 ||| cfg.algorithm.code ||| (if cfg.keyConvert then 1 else 0) <<< 9 |||
    (if cfg.decrypt then 1 else 0) <<< 8

/-- `icp_qat_hw_cipher_config_t` -/
def cipherConfig (cfg : CipherCfg) : Octets := wordBytes (cipherConfigBuild cfg) ++ zeroes 4

@[simp] lemma length_cipherConfig (cfg : CipherCfg) : (cipherConfig cfg).length = 8 := rfl

def cipherHwBlockPopulateCfgData (desc : SessionDesc) (off : ℕ) (m : Bytes) : Bytes :=
  write m off (cipherConfig (cipherGetCfgData desc))

/-- The loop that combines the key of AES in F8 mode with its mask, in place: the cell `half + i` with
the cell `i`, for the first `n` of them. -/
def xorKeyMask (off half : ℕ) (m : Bytes) : ℕ → Bytes
  | 0 => m
  | n + 1 =>
    let m := xorKeyMask off half m n
    write m (off + half + n) [m (off + n) ^^^ m (off + half + n)]

/-- Copy the key to an offset, and return how much room it takes, which in F8 mode is more than what is written.
It is always called with the length of the key as `targetKeyLenInBytes`. -/
def cipherHwBlockPopulateKeySetup (alg : CipherAlgorithm) (key : Bytes) (keyLen off : ℕ) (m : Bytes) : Bytes × ℕ :=
  let copied := write m off (read key 0 keyLen)
  match alg with
  | .arc4 | .null => (m, 0)
  | .kasumiF8 =>
    let m := write copied (off + keyLen) ((read key 0 keyLen).map (· ^^^ 0x55))
    (write m (off + keyLen + keyLen) (zeroes 16), keyLen + keyLen + 16)
  | .aesF8 =>
    let m := xorKeyMask off (keyLen / 2) copied keyLen
    (write m (off + keyLen) (zeroes (2 * keyLen)), keyLen + keyLen + 2 * keyLen)
  | .snow3gUea2 | .zucEea3 => (write copied (off + keyLen) (zeroes 16), keyLen + 16)
  | _ => (copied, keyLen)

/-! ## What is known about the hashes -/

namespace HashAlgorithm

/-- `stateSize` in `lac_sym_qat_hash_alg_info_t`. -/
def stateSize : HashAlgorithm → ℕ
  | md5 => 16
  | sha1 => 20
  | sha224 | sha256 | sha3_256 => 32
  | sha384 | sha512 => 64
  | aesXcbc | aesCmac => 48
  | _ => 0

/-- `state1Length` in `lac_sym_qat_hash_qat_info_t`. -/
def state1Length : HashAlgorithm → ℕ
  | md5 => 16
  | sha1 => 20
  | sha224 | sha256 | sha3_256 => 32
  | sha384 | sha512 => 64
  | aesXcbc | aesCmac | aesCcm | aesGcm | aesGmac | kasumiF9 | aesCbcMac => 16
  | snow3gUia2 | zucEia3 => 8
  | none => 0

/-- `state2Length` in `lac_sym_qat_hash_qat_info_t`. -/
def state2Length : HashAlgorithm → ℕ
  | md5 => 16
  | sha1 => 20
  | sha224 | sha256 => 32
  | sha384 | sha512 => 64
  | aesXcbc | aesCmac => 48
  | aesGcm | aesGmac => 40
  | aesCcm | kasumiF9 | aesCbcMac | zucEia3 => 32
  | snow3gUia2 => 24
  | sha3_256 | none => 0

/-- The room for the first state. -/
abbrev state1Sz (alg : HashAlgorithm) : ℕ := alignQuadword alg.state1Length

/-- The room for the second state. -/
abbrev state2Sz (alg : HashAlgorithm) : ℕ := alignQuadword alg.state2Length

/-- `authCounter` in `lac_sym_qat_hash_qat_info_t`. -/
def authCounter : HashAlgorithm → U32
  | md5 | sha1 | sha224 | sha256 => 64
  | sha384 | sha512 => 128
  | sha3_256 => 136
  | _ => 0

/-- `initState` in `lac_sym_qat_hash_alg_info_t`. -/
def initState : HashAlgorithm → Octets
  | md5 => [0x01, 0x23, 0x45, 0x67, 0x89, 0xab, 0xcd, 0xef, 0xfe, 0xdc, 0xba, 0x98, 0x76, 0x54, 0x32, 0x10]
  | sha1 =>
    [0x67, 0x45, 0x23, 0x01, 0xef, 0xcd, 0xab, 0x89, 0x98, 0xba, 0xdc, 0xfe, 0x10, 0x32, 0x54, 0x76,
      0xc3, 0xd2, 0xe1, 0xf0]
  | sha224 =>
    [0xc1, 0x05, 0x9e, 0xd8, 0x36, 0x7c, 0xd5, 0x07, 0x30, 0x70, 0xdd, 0x17, 0xf7, 0x0e, 0x59, 0x39,
      0xff, 0xc0, 0x0b, 0x31, 0x68, 0x58, 0x15, 0x11, 0x64, 0xf9, 0x8f, 0xa7, 0xbe, 0xfa, 0x4f, 0xa4]
  | sha256 =>
    [0x6a, 0x09, 0xe6, 0x67, 0xbb, 0x67, 0xae, 0x85, 0x3c, 0x6e, 0xf3, 0x72, 0xa5, 0x4f, 0xf5, 0x3a,
      0x51, 0x0e, 0x52, 0x7f, 0x9b, 0x05, 0x68, 0x8c, 0x1f, 0x83, 0xd9, 0xab, 0x5b, 0xe0, 0xcd, 0x19]
  | sha384 =>
    [0xcb, 0xbb, 0x9d, 0x5d, 0xc1, 0x05, 0x9e, 0xd8, 0x62, 0x9a, 0x29, 0x2a, 0x36, 0x7c, 0xd5, 0x07,
      0x91, 0x59, 0x01, 0x5a, 0x30, 0x70, 0xdd, 0x17, 0x15, 0x2f, 0xec, 0xd8, 0xf7, 0x0e, 0x59, 0x39,
      0x67, 0x33, 0x26, 0x67, 0xff, 0xc0, 0x0b, 0x31, 0x8e, 0xb4, 0x4a, 0x87, 0x68, 0x58, 0x15, 0x11,
      0xdb, 0x0c, 0x2e, 0x0d, 0x64, 0xf9, 0x8f, 0xa7, 0x47, 0xb5, 0x48, 0x1d, 0xbe, 0xfa, 0x4f, 0xa4]
  | sha512 =>
    [0x6a, 0x09, 0xe6, 0x67, 0xf3, 0xbc, 0xc9, 0x08, 0xbb, 0x67, 0xae, 0x85, 0x84, 0xca, 0xa7, 0x3b,
      0x3c, 0x6e, 0xf3, 0x72, 0xfe, 0x94, 0xf8, 0x2b, 0xa5, 0x4f, 0xf5, 0x3a, 0x5f, 0x1d, 0x36, 0xf1,
      0x51, 0x0e, 0x52, 0x7f, 0xad, 0xe6, 0x82, 0xd1, 0x9b, 0x05, 0x68, 0x8c, 0x2b, 0x3e, 0x6c, 0x1f,
      0x1f, 0x83, 0xd9, 0xab, 0xfb, 0x41, 0xbd, 0x6b, 0x5b, 0xe0, 0xcd, 0x19, 0x13, 0x7e, 0x21, 0x79]
  | sha3_256 => replicate 32 0
  | aesXcbc => replicate 16 1 ++ replicate 16 2 ++ replicate 16 3
  | aesCmac => replicate 16 0
  | _ => []

end HashAlgorithm

/-! ## The hash block -/

def QatHashMode.code : QatHashMode → U32
  | .mode0 => 0
  | .mode1 => 1
  | .mode2 => 2

def authConfigBuild (mode : QatHashMode) (algo cmpLen : U32) : U32 :=
  mode.code <<< 4 ||| (algo &&& 0xF) ||| ((algo >>> 4) &&& 3) <<< 22 ||| (cmpLen &&& 0x7F) <<< 8

/-- `icp_qat_hw_auth_setup_t`: the configuration and the counter, which is big-endian. -/
def authSetup (config counter : U32) : Octets :=
  wordBytes config ++ zeroes 4 ++ (wordBytesSwapped counter ++ zeroes 4)

@[simp] lemma length_authSetup (config counter : U32) : (authSetup config counter).length = 16 := rfl

def hasState2 (mode : QatHashMode) (alg : HashAlgorithm) : Bool := mode = .mode1 || alg = .aesCbcMac || alg = .zucEia3

def HashAlgorithm.zeroState1 : HashAlgorithm → Bool
  | aesXcbc | aesCmac | aesCbcMac | kasumiF9 | snow3gUia2 | aesCcm | aesGmac | aesGcm | zucEia3 => true
  | _ => false

def outerAlgorithm (h : HashSetupData) : HashAlgorithm :=
  if h.hashMode = .nested then h.outerHashAlgorithm else h.hashAlgorithm

/-- The part of the footer for the authentication slice, and the size of the hash block. Where the
table of constants is used the block has no configuration. -/
def hashContentDescInit (ftr : ReqFtr) (h : HashSetupData) (offset : ℕ) (next : Slice)
    (mode : QatHashMode) (useSymConstantsTable : Bool) : ReqFtr × ℕ :=
  let alg := h.hashAlgorithm
  let state1Sz := alg.state1Sz
  let state2Sz := if hasState2 mode alg then alg.state2Sz else 0
  let state2Offset :=
    if useSymConstantsTable then bytesToQuadwords state1Sz
    else offset + bytesToQuadwords (16 + state1Sz)
  let nested := doNested mode h.hashMode
  let outer := outerAlgorithm h
  let outerState1Sz := if nested then alignQuadword outer.stateSize else 0
  ({ ftr with
      cdCtrl :=
        { ftr.cdCtrl with
          hashCfgOffset := offset
          nextCurrIdAuth := currIdSet (nextIdSet ftr.cdCtrl.nextCurrIdAuth next) .auth
          hashFlags := if nested then 1 else 0
          finalSz := (h.digestResultLenInBytes.setWidth 8).toNat
          innerState1Sz := state1Sz
          innerResSz := alg.digestLength.toNat
          innerState2Sz := state2Sz
          innerState2Offset := state2Offset
          outerConfigOffset := if nested then state2Offset + bytesToQuadwords state2Sz else 0
          outerState1Sz := outerState1Sz
          outerResSz := if nested then outer.digestLength.toNat else 0 } },
    (if useSymConstantsTable then 0 else 16) + state1Sz + state2Sz + (if nested then 16 + outerState1Sz else 0) +
      if alg = .snow3gUia2 then 8 + h.authKeyLenInBytes.toNat + 16 else 0)

def keyBytes (key : Option Bytes) : Bytes := key.getD fun _ => 0

/-- What is behind the states for the 3G algorithms: a cipher block, with the key and room for an initialisation
vector. That of ZUC is not counted in the size. -/
def wirelessBlock (algo : HwCipherAlgo) (h : HashSetupData) : Octets :=
  cipherConfig ⟨algo, .ecb, false, true⟩ ++ (read (keyBytes h.authKey) 0 h.authKeyLenInBytes.toNat ++ zeroes 16)

def outerBlock (h : HashSetupData) (mode : QatHashMode) : Octets :=
  let outer := outerAlgorithm h
  authSetup (authConfigBuild mode outer.algoEnc h.digestResultLenInBytes) 0 ++
    (outer.initState ++ zeroes (alignQuadword outer.stateSize - outer.stateSize))

/-- Where the hash block starts, with the setup of the inner hash.
Source: `LacSymQat_HashHwBlockPtrsInit`, as the three that follow. -/
def CdCtrl.inHashSetup (ctrl : CdCtrl) : ℕ := ctrl.hashCfgOffset * 8

def CdCtrl.inHashInitState1 (ctrl : CdCtrl) : ℕ := ctrl.inHashSetup + 16

def CdCtrl.inHashInitState2 (ctrl : CdCtrl) : ℕ := ctrl.inHashInitState1 + ctrl.innerState1Sz

def CdCtrl.outHashSetup (ctrl : CdCtrl) : ℕ := ctrl.inHashInitState2 + ctrl.innerState2Sz

/-- The hash block up to its states. States that are to be precomputed are left, up to the padding of SHA-1. -/
def setupHead (h : HashSetupData) (ctrl : CdCtrl) (mode : QatHashMode) (m : Bytes) : Bytes :=
  let alg := h.hashAlgorithm
  let config := authConfigBuild mode alg.algoEnc h.digestResultLenInBytes
  if hasState2 mode alg then
    let m := write m ctrl.inHashSetup (authSetup config alg.authCounter)
    let m := if alg.zeroState1 then write m ctrl.inHashInitState1 (zeroes alg.state1Length) else m
    if alg = .sha1 then
      let m := write m (ctrl.inHashInitState1 + alg.stateSize) (zeroes (ctrl.innerState1Sz - alg.stateSize))
      write m (ctrl.inHashInitState2 + alg.stateSize) (zeroes (ctrl.innerState2Sz - alg.stateSize))
    else m
  else
    let m := write m ctrl.inHashSetup (authSetup config 0)
    write m ctrl.inHashInitState1 (alg.initState ++ zeroes (ctrl.innerState1Sz - alg.stateSize))

/-- The hash block behind its states. -/
def setupTail (h : HashSetupData) (ctrl : CdCtrl) (mode : QatHashMode) (m : Bytes) : Bytes :=
  let m := if doNested mode h.hashMode then write m ctrl.outHashSetup (outerBlock h mode) else m
  match h.hashAlgorithm with
  | .snow3gUia2 => write m ctrl.outHashSetup (wirelessBlock .snow3gUea2 h)
  | .zucEia3 => write m ctrl.outHashSetup (wirelessBlock .zuc3gEea3 h)
  | _ => m

def hashSetupBlockInit (h : HashSetupData) (ctrl : CdCtrl) (mode : QatHashMode) (m : Bytes) : Bytes :=
  setupTail h ctrl mode (setupHead h ctrl mode m)

/-- Where the optimised content descriptor has the states of the hash: behind a key of 16 bytes.
Source: `LacSymQat_HashOpHwBlockPtrsInit`. -/
def optimisedState1 : ℕ := 16

def hashSetupBlockOptimisedFormatInit (h : HashSetupData) (ctrl : CdCtrl) (m : Bytes) : Bytes :=
  let stateSize := h.hashAlgorithm.stateSize
  let m := write m (optimisedState1 + stateSize) (zeroes (ctrl.innerState1Sz - stateSize))
  write m (optimisedState1 + ctrl.innerState1Sz + stateSize) (zeroes (ctrl.innerState2Sz - stateSize))

/-- What the footer says about prefixes, additional data and the digest.
Source: `LacSymQat_HashSetupReqParamsMetaData`; there always is a hash state buffer. -/
def hashSetupReqParamsMetaData (ftr : ReqFtr) (h : HashSetupData) (mode : QatHashMode)
    (digestVerify : Bool) : ReqFtr :=
  let blockLength := h.hashAlgorithm.blockLength.toNat
  let aadLen := h.aadLenInBytes.setWidth 16
  let aadSz : U8 :=
    match h.hashAlgorithm with
    | .aesCcm =>
      let size : U16 := if 0 < h.aadLenInBytes then 16 + 2 + aadLen else 16
      (alignPow2Roundup (size.setWidth 32) 16).setWidth 8
    | .aesGcm => (alignPow2Roundup (aadLen.setWidth 32) 16).setWidth 8
    | _ => 0
  let innerPrefixSz :=
    if mode = .mode2 then blockLength
    else if h.hashMode = .nested then (h.innerPrefixLenInBytes.setWidth 8).toNat
    else aadSz.toNat
  let outerPrefixSz :=
    if mode = .mode2 then blockLength
    else if h.hashMode = .nested then (h.outerPrefixLenInBytes.setWidth 8).toNat
    else 0
  { servSpecifRqpars :=
      { innerPrefixSz := innerPrefixSz
        hashStateSz := bytesToQuadwords (alignQuadword innerPrefixSz + alignQuadword outerPrefixSz)
        authResSz := if digestVerify then (h.digestResultLenInBytes.setWidth 8).toNat else 0 }
    cdCtrl :=
      { ftr.cdCtrl with
        outerPrefixSz := outerPrefixSz
        outerPrefixOffset :=
          if doNested mode h.hashMode then bytesToQuadwords (alignQuadword innerPrefixSz) else 0 } }

/-! ## Precomputed states -/

structure OsalCrypto where
  /-- `osalHashMD5` and so on: the state after one block. -/
  hash : HashAlgorithm → Octets → Octets
  length_hash : ∀ alg block, (hash alg block).length = alg.stateSize
  /-- `osalAESEncrypt`: the block encrypted with the key. -/
  aesEncrypt : Octets → Octets → Octets
  length_aesEncrypt : ∀ key block, (aesEncrypt key block).length = 16

/-- Reverse the bytes of each word of `n` bytes. -/
def swapWords (n : ℕ) (l : Octets) : Octets := (range l.length).map fun i => l.getD (i / n * n + (n - 1 - i % n)) 0

@[simp] lemma length_swapWords (n : ℕ) (l : Octets) : (swapWords n l).length = l.length := by
  simp [swapWords]

def symHashCompute (sw : OsalCrypto) (alg : HashAlgorithm) (block : Octets) : Octets :=
  match alg with
  | .sha1 | .sha224 | .sha256 => swapWords 4 (sw.hash alg block)
  | .sha384 | .sha512 => swapWords 8 (sw.hash alg block)
  | _ => sw.hash alg block

@[simp] lemma length_symHashCompute (sw : OsalCrypto) (alg : HashAlgorithm)
    (block : Octets) : (symHashCompute sw alg block).length = alg.stateSize := by
  unfold symHashCompute
  split <;> simp [sw.length_hash]

/-- The key, padded to a block and combined with `ipad` or `opad`.
Source: `LacSymHash_HmacPreComputes`. -/
def hmacPad (alg : HashAlgorithm) (key : Octets) (pad : U8) : Octets :=
  (key ++ zeroes (alg.blockLength.toNat - key.length)).map (· ^^^ pad)

/-- The derived keys of CMAC: a block shifted to the left, and `LAC_SYM_AES_CMAC_RB_128` where a bit
was shifted out. -/
def cmacSubkey (block : Octets) : Octets :=
  (range 16).map fun i =>
    let shifted := block.getD i 0 <<< 1
    if i + 1 < 16 then shifted ||| (block.getD (i + 1) 0 >>> 7)
    else if block.getD 0 0 &&& 0x80 ≠ 0 then shifted ^^^ 0x87 else shifted

@[simp] lemma length_cmacSubkey (block : Octets) : (cmacSubkey block).length = 16 := by
  simp [cmacSubkey]

/-- The second state of CMAC: the key and two keys derived from it. The block that is encrypted for the first
one is what was there before. -/
def cmacPreCompute (sw : OsalCrypto) (key : Octets) (state2 : ℕ) (m : Bytes) : Bytes :=
  let m := write m state2 key
  let m := write m state2 (HashAlgorithm.aesCmac.initState.take 16)
  let m := write m state2 key
  let m := write m (state2 + 16) (sw.aesEncrypt key (read m (state2 + 16) 16))
  let m := write m (state2 + 32) (sw.aesEncrypt key (read m (state2 + 32) 16))
  let k1 := cmacSubkey (read m (state2 + 16) 16)
  let k2 := cmacSubkey k1
  write (write m (state2 + 16) k1) (state2 + 32) k2

/-- Write the states that depend on a key. `cipherKey` is the key of the cipher, which the authenticated ciphers
use. -/
def precomputeDataCreate (sw : OsalCrypto) (alg : HashAlgorithm) (authKey cipherKey : Octets)
    (aadLen : U32) (state1 state2 : ℕ) (m : Bytes) : Bytes :=
  match alg with
  | .aesXcbc =>
    let seed := alg.initState
    write m state2 (sw.aesEncrypt authKey (seed.take 16) ++
      (sw.aesEncrypt authKey ((seed.drop 16).take 16) ++ sw.aesEncrypt authKey (seed.drop 32)))
  | .aesCmac => cmacPreCompute sw authKey state2 m
  | .aesCcm => write m state2 (cipherKey ++ zeroes 16)
  | .aesGcm | .aesGmac =>
    let m := write m state2 (zeroes (16 + 8 + 16))
    let m := write m state2 (sw.aesEncrypt cipherKey (zeroes 16))
    write m (state2 + 16) (wordBytesSwapped aadLen)
  | .kasumiF9 => write m state2 (authKey ++ authKey.map (· ^^^ 0xAA))
  | .snow3gUia2 => write m state2 (zeroes 24)
  | .zucEia3 => write (write m state2 (zeroes 32)) state2 authKey
  | _ =>
    let m := write m state1 (symHashCompute sw alg (hmacPad alg authKey 0x36))
    write m state2 (symHashCompute sw alg (hmacPad alg authKey 0x5c))

/-! ## Keys elsewhere -/

/-- One round of the loop that schedules the key of ARC4: the state, `j` and `k`. -/
def arc4Round (key : Bytes) (keyLen : ℕ) (s : Octets × ℕ × ℕ) (i : ℕ) : Octets × ℕ × ℕ :=
  let (state, j, k) := s
  let k := if keyLen ≤ k then k - keyLen else k
  let j := (j + (state.getD i 0).toNat + (key k).toNat) % 256
  ((state.set i (state.getD j 0)).set j (state.getD i 0), j, k + 1)

def arc4StateInit (key : Bytes) (keyLen : ℕ) : Octets :=
  ((range 256).foldl (arc4Round key keyLen) ((range 256).map (BitVec.ofNat 8), 0, 0)).1 ++ [0, 0]

lemma length_arc4Round (key : Bytes) (keyLen : ℕ) (s : Octets × ℕ × ℕ) (i : ℕ) :
    (arc4Round key keyLen s i).1.length = s.1.length := by
  simp [arc4Round]

@[simp] lemma length_arc4StateInit (key : Bytes) (keyLen : ℕ) : (arc4StateInit key keyLen).length = 258 := by
  have hrounds (l : List ℕ) (s : Octets × ℕ × ℕ) :
      (l.foldl (arc4Round key keyLen) s).1.length = s.1.length := by
    induction l generalizing s with
    | nil => rfl
    | cons i l ih => rw [foldl_cons, ih, length_arc4Round]
  unfold arc4StateInit
  rw [length_append, hrounds]
  simp

/-- A prefix that is not `NULL`. -/
def populatePrefix (m : Bytes) (off : ℕ) (src : Option Bytes) (size padding : U8) : Bytes :=
  match src with
  | none => m
  | some src => (Key.populatePrefix ⟨m, []⟩ off src size padding).cells

def hashStatePrefixAadBufferPopulate (info : Key.HashStateBufferInfo) (ftr : ReqFtr)
    (inner : Option Bytes) (innerSize : U8) (outer : Option Bytes) (outerSize : U8) (m : Bytes) : Bytes :=
  let innerPrefixSz := BitVec.ofNat 8 ftr.servSpecifRqpars.innerPrefixSz
  let m := populatePrefix m (info.stateStorageSzQuadWords <<< 3) inner innerSize
    (innerPrefixSz - innerSize)
  populatePrefix m ((info.stateStorageSzQuadWords + ftr.cdCtrl.outerPrefixOffset) <<< 3) outer outerSize
    (BitVec.ofNat 8 (info.prefixAadSzQuadWords <<< 3) - innerPrefixSz - outerSize)

def hashStatePrefixAadBufferSizeGet (ftr : ReqFtr) : Key.HashStateBufferInfo :=
  ⟨bytesToQuadwords (8 + ftr.cdCtrl.innerState1Sz), ftr.servSpecifRqpars.hashStateSz⟩

def statePrefixAadBufferInit (h : HashSetupData) (ftr : ReqFtr) (mode : QatHashMode) (m : Bytes) : Bytes :=
  let info := hashStatePrefixAadBufferSizeGet ftr
  if h.hashMode = .nested then
    hashStatePrefixAadBufferPopulate info ftr h.pInnerPrefixData (h.innerPrefixLenInBytes.setWidth 8)
      h.pOuterPrefixData (h.outerPrefixLenInBytes.setWidth 8) m
  else if mode = .mode2 ∧ h.hashMode = .auth then
    hashStatePrefixAadBufferPopulate info ftr h.authKey (h.authKeyLenInBytes.setWidth 8)
      h.authKey (h.authKeyLenInBytes.setWidth 8) m
  else m

end QuickAssist.Sym
