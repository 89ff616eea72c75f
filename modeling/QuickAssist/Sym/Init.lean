import QuickAssist.Sym.ContentDesc

/-!
# Initialising a symmetric session

`cpaCySymInitSession` clears the memory of a session, checks the setup data and builds all that later requests are
made from: two templates, the content descriptor and, for some sessions, the optimised content descriptor, the initial
state of ARC4 and the prefixes of a nested hash. `forms` is all that a request of a session can be made from.

**Memory.** The content descriptor and the optimised one are the first fields of the session descriptor, of 256 and of
64 bytes, and nothing stops a longer one at their end. `sessionMemory` is what the blocks are written over: the field
that follows, `symOperation`, is set before they are, and the precomputation for CMAC reads it where it reaches that
far. Otherwise the two descriptors are separate memories, and what else lies behind them is outside of the model.

**Outside.** The cryptography of the OS abstraction layer. Its functions are assumed to succeed.
-/

namespace QuickAssist.Sym

open Lib Lib.Memory
open Key (HashStateBufferInfo)

/-! ## Sessions -/

/-- `icp_qat_la_bulk_req_hdr_t` -/
structure ReqHdr where
  comnHdr : CmnHdr
  /-- `cd_pars`: the address and the size of the content descriptor, or 16 bytes of data. -/
  cdPars : Bytes

def ReqHdr.zero : ReqHdr := ⟨⟨.cipher, 0, 0⟩, fun _ => 0⟩

/-- What requests are made from: fields of `lac_session_desc_t`. -/
structure Session where
  desc : SessionDesc
  useSymConstantsTable : Bool
  useOptimisedContentDesc : Bool
  contentDescriptor : Bytes
  hwBlkSzQuadWords : ℕ
  contentDescriptorOptimised : Bytes
  optimisedHwBlkSzQuadWords : ℕ
  reqCacheHdr : ReqHdr
  reqCacheFtr : ReqFtr
  shramReqCacheHdr : ReqHdr
  shramReqCacheFtr : ReqFtr
  hashStatePrefixBuffer : Bytes
  hashStateBufferInfo : HashStateBufferInfo
  cipherARC4InitialState : Bytes

/-- The value of an operation. -/
def SymOp.code : SymOp → U8
  | .cipher => 1
  | .hash => 2
  | .algorithmChaining => 3

/-- Where `symOperation` is in `lac_session_desc_t`. -/
def symOperationOffset : ℕ := 320

/-- The memory of a session when its blocks are written. -/
def sessionMemory (op : SymOp) : Bytes := write (fun _ => 0) symOperationOffset [op.code]

def Session.clear (desc : SessionDesc) : Session where
  desc := desc
  useSymConstantsTable := false
  useOptimisedContentDesc := false
  contentDescriptor := sessionMemory desc.symOperation
  hwBlkSzQuadWords := 0
  contentDescriptorOptimised := fun _ => 0
  optimisedHwBlkSzQuadWords := 0
  reqCacheHdr := .zero
  reqCacheFtr := .zero
  shramReqCacheHdr := .zero
  shramReqCacheFtr := .zero
  hashStatePrefixBuffer := fun _ => 0
  hashStateBufferInfo := ⟨0, 0⟩
  cipherARC4InitialState := fun _ => 0

/-! ## Building the parts -/

/-- The cipher block of the content descriptor, from an offset on, and its part of the footer. The
size of the block is returned. -/
def cipherCDBuild (c : CipherSetupData) (next : Slice) (offset : ℕ) (s : Session) : Session × ℕ :=
  let m := cipherHwBlockPopulateCfgData s.desc offset s.contentDescriptor
  let (m, size) := cipherHwBlockPopulateKeySetup c.cipherAlgorithm (keyBytes c.pCipherKey)
    c.cipherKeyLenInBytes.toNat (offset + 8) m
  ({ s with
      contentDescriptor := m
      reqCacheFtr := cipherCtrlBlockWrite s.reqCacheFtr s.desc.cipherAlgorithm
        s.desc.cipherKeyLenInBytes next (offset / 8) }, 8 + size)

/-- The key in the optimised content descriptor; the configuration is in the table of constants. -/
def cipherCDBuildForOptimisedCD (c : CipherSetupData) (next : Slice) (cipherOffset : ℕ) (s : Session) : Session × ℕ :=
  let (m, size) := cipherHwBlockPopulateKeySetup c.cipherAlgorithm (keyBytes c.pCipherKey)
    c.cipherKeyLenInBytes.toNat 0 s.contentDescriptorOptimised
  ({ s with
      contentDescriptorOptimised := m
      shramReqCacheFtr := cipherCtrlBlockWrite s.shramReqCacheFtr s.desc.cipherAlgorithm
        s.desc.cipherKeyLenInBytes next cipherOffset }, size)

def cipherCDBuildForSHRAM (c : CipherSetupData) (next : Slice) (cipherOffset : ℕ) (s : Session) : Session :=
  { s with
    shramReqCacheHdr :=
      { s.shramReqCacheHdr with
        cdPars := (cipherHwBlockPopulateKeySetup c.cipherAlgorithm (keyBytes c.pCipherKey)
          c.cipherKeyLenInBytes.toNat 0 s.shramReqCacheHdr.cdPars).1 }
    shramReqCacheFtr := cipherCtrlBlockWrite s.shramReqCacheFtr s.desc.cipherAlgorithm
      s.desc.cipherKeyLenInBytes next cipherOffset }

/-- The hash block of the content descriptor, from an offset on, its part of the footer, and the sizes of the
blocks. -/
def hashCDBuild (h : HashSetupData) (next : Slice) (hashOffset offset : ℕ) (s : Session) : Session × ℕ × ℕ :=
  let mode := s.desc.qatHashMode
  let (ftr, size) := hashContentDescInit s.reqCacheFtr h (offset / 8) next mode false
  let s :=
    { s with reqCacheFtr := ftr, contentDescriptor := hashSetupBlockInit h ftr.cdCtrl mode s.contentDescriptor }
  let (shram, optimisedSize) := hashContentDescInit s.shramReqCacheFtr h hashOffset next mode true
  if s.useOptimisedContentDesc then
    ({ s with
        shramReqCacheFtr := shram
        contentDescriptorOptimised := hashSetupBlockOptimisedFormatInit h shram.cdCtrl s.contentDescriptorOptimised },
      size, optimisedSize)
  else if s.useSymConstantsTable then ({ s with shramReqCacheFtr := shram }, size, 0)
  else (s, size, 0)

/-- The blocks, in the order of the chain, and the sizes of the two content descriptors. Source: that part of
`LacAlgChain_SessionInit`. -/
def buildBlocks (setup : SessionSetupData) (order : AlgChainOrder) (cipherOffset hashOffset : ℕ)
    (s : Session) : Session × ℕ × ℕ :=
  let c := setup.cipherSetupData
  let h := setup.hashSetupData
  let optimised (next : Slice) (s : Session) : Session × ℕ :=
    if s.useOptimisedContentDesc then cipherCDBuildForOptimisedCD c next cipherOffset s else (s, 0)
  match setup.symOperation with
  | .cipher =>
    let (s, size) := cipherCDBuild c .dramWr 0 s
    (if s.useSymConstantsTable then cipherCDBuildForSHRAM c .dramWr cipherOffset s else s, size, 0)
  | .hash =>
    let (s, size, _) := hashCDBuild h .dramWr hashOffset 0 s
    (s, size, 0)
  | .algorithmChaining =>
    match order with
    | .hashThenCipher =>
      let (s, hashSize, optimisedHashSize) := hashCDBuild h .cipher hashOffset 0 s
      let (s, cipherSize) := cipherCDBuild c .dramWr hashSize s
      let (s, optimisedCipherSize) := optimised .dramWr s
      (s, hashSize + cipherSize, optimisedHashSize + optimisedCipherSize)
    | .cipherThenHash =>
      let (s, cipherSize) := cipherCDBuild c .auth 0 s
      let (s, optimisedCipherSize) := optimised .auth s
      let (s, hashSize, optimisedHashSize) := hashCDBuild h .dramWr hashOffset cipherSize s
      (s, cipherSize + hashSize, optimisedCipherSize + optimisedHashSize)

/-- The states of the hash that depend on a key, in the content descriptor and in the optimised one.
Source: `LacAlgChain_SessionInit`. -/
def initStates (sw : OsalCrypto) (setup : SessionSetupData) (s : Session) : Session :=
  let h := setup.hashSetupData
  let alg := h.hashAlgorithm
  let ctrl := s.reqCacheFtr.cdCtrl
  let authKey := read (keyBytes h.authKey) 0 h.authKeyLenInBytes.toNat
  let cipherKey := read (keyBytes setup.cipherSetupData.pCipherKey) 0
    setup.cipherSetupData.cipherKeyLenInBytes.toNat
  let precompute := precomputeDataCreate sw alg authKey cipherKey h.aadLenInBytes
  if s.desc.qatHashMode = .mode1 ∨ alg = .zucEia3 then
    let s :=
      { s with contentDescriptor := precompute ctrl.inHashInitState1 ctrl.inHashInitState2 s.contentDescriptor }
    if s.useOptimisedContentDesc then
      { s with
        contentDescriptorOptimised :=
          precompute optimisedState1 (optimisedState1 + s.shramReqCacheFtr.cdCtrl.innerState1Sz)
            s.contentDescriptorOptimised }
    else s
  else if alg = .aesCbcMac then
    { s with
      contentDescriptor :=
        write (write s.contentDescriptor ctrl.inHashInitState2 (zeroes alg.state2Length))
          ctrl.inHashInitState2 authKey }
  else s

/-- What is set up for a hash besides its block. For the authenticated ciphers the prefix buffer is the
client's.
Source: `LacAlgChain_SessionInit`. -/
def initHash (sw : OsalCrypto) (setup : SessionSetupData) (s : Session) : Session :=
  let h := setup.hashSetupData
  let mode := s.desc.qatHashMode
  let ftr := hashSetupReqParamsMetaData s.reqCacheFtr h mode s.desc.digestVerify
  let s := { s with reqCacheFtr := ftr }
  let s :=
    if s.useSymConstantsTable then
      { s with shramReqCacheFtr := hashSetupReqParamsMetaData s.shramReqCacheFtr h mode s.desc.digestVerify }
    else s
  let s :=
    if s.desc.isAuthEncryptOp then s
    else
      { s with
        hashStateBufferInfo := hashStatePrefixAadBufferSizeGet ftr
        hashStatePrefixBuffer := statePrefixAadBufferInit h ftr mode s.hashStatePrefixBuffer }
  initStates sw setup s

/-- The bytes of `content_desc_addr`, and of the rest of the field. -/
def contentDescHdrWrite (hdr : ReqHdr) (addr : U64) (hwBlkSzQuadWords : ℕ) : ReqHdr :=
  { hdr with
    cdPars := write hdr.cdPars 0 ((List.range 8).map (fun i => (addr >>> (8 * i)).setWidth 8) ++
      (zeroes 2 ++ (BitVec.ofNat 8 hwBlkSzQuadWords :: zeroes 5))) }

def cmnHdrWrite (hdr : ReqHdr) (cmd : LaCmdId) (cmnFlags cmdFlags : U16) : ReqHdr :=
  { hdr with comnHdr := ⟨cmd, cmnFlags, cmdFlags⟩ }

def contentDescMaxSize : ℕ := 256

/-- The headers of the two templates.
Source: the end of `LacAlgChain_SessionInit`. -/
def initHeaders (proto : Proto) (phys : U64) (size optimisedSize : ℕ) (s : Session) : Session :=
  let desc := s.desc
  let sz := bytesToQuadwords size
  let optimisedSz := bytesToQuadwords optimisedSize
  let defaultFlags := laSetDefaultFlags desc.symOperation
  let flags := updateLaCmdFlags desc proto
    (if desc.isCipher then ciphAuthCfgOffsetFlagSet defaultFlags false else defaultFlags)
  let cmnFlags := if desc.isCipher then cdFldTypeSet (cmnRequestFlags desc) false else cmnRequestFlags desc
  let hdr := cmnHdrWrite (contentDescHdrWrite s.reqCacheHdr phys sz) desc.laCmdId cmnFlags flags
  let shramHdr :=
    if s.useOptimisedContentDesc then
      contentDescHdrWrite s.shramReqCacheHdr (phys + BitVec.ofNat 64 contentDescMaxSize) optimisedSz
    else s.shramReqCacheHdr
  let shramFlags := ciphAuthCfgOffsetFlagSet flags true
  let shramCmnFlags := if desc.isCipher && !s.useOptimisedContentDesc then cdFldTypeSet cmnFlags true else cmnFlags
  { s with
    hwBlkSzQuadWords := sz
    optimisedHwBlkSzQuadWords := if s.useOptimisedContentDesc then optimisedSz else s.optimisedHwBlkSzQuadWords
    reqCacheHdr := hdr
    shramReqCacheHdr :=
      if s.useSymConstantsTable then cmnHdrWrite shramHdr desc.laCmdId shramCmnFlags shramFlags
      else shramHdr }

/-! ## The whole -/

/-- What is built for a session whose setup data are accepted; `phys` is the address of its memory.
Source: `LacAlgChain_SessionInit`. -/
def buildSession (sw : OsalCrypto) (setup : SessionSetupData) (dp sync : Bool) (phys : U64) : Session :=
  let (desc, order, proto) := buildCmdData (sessionDescOf setup dp sync) setup.algChainOrder
  let constants := useSymConstantsTable desc
  let c := setup.cipherSetupData
  let s :=
    { Session.clear desc with
      useSymConstantsTable := constants.use
      useOptimisedContentDesc :=
        desc.symOperation = .algorithmChaining && constants.use && useOptimisedContentDesc desc
      cipherARC4InitialState :=
        if desc.cipherAlgorithm = .arc4 then
          write (fun _ => 0) 0 (arc4StateInit (keyBytes c.pCipherKey) c.cipherKeyLenInBytes.toNat)
        else fun _ => 0 }
  let (s, size, optimisedSize) := buildBlocks setup order constants.cipherOffset constants.hashOffset s
  let s := if desc.isAuth then initHash sw setup s else s
  initHeaders proto phys size optimisedSize s

/-- Initialise a session.
Source: `LacSym_InitSession`, `LacAlgChain_SessionInit`. -/
def sessionInit (sw : OsalCrypto) (caps : Capabilities) (setup : SessionSetupData) (dp sync : Bool)
    (phys : U64) : Except Failure Session := do
  let _ ← populateSession caps setup dp sync
  .ok (buildSession sw setup dp sync phys)

/-! ## What requests are made from -/

structure Template where
  comnHdr : CmnHdr
  cdPars : Octets
  ftr : ReqFtr

def templateOf (hdr : ReqHdr) (ftr : ReqFtr) : Template := ⟨hdr.comnHdr, read hdr.cdPars 0 16, ftr⟩

structure Forms where
  /-- The fields of the session descriptor that say what the session is for. -/
  desc : SessionDesc
  template : Template
  contentDesc : Octets
  shramTemplate : Option Template
  optimised : Option Octets
  arc4State : Octets
  bufferInfo : HashStateBufferInfo
  prefixes : Octets

/-- All that a request of a session can be made from: the two templates and the content descriptors they refer
to. -/
def Session.forms (s : Session) : Forms where
  desc := s.desc
  template := templateOf s.reqCacheHdr s.reqCacheFtr
  contentDesc := read s.contentDescriptor 0 (s.hwBlkSzQuadWords * 8)
  shramTemplate := if s.useSymConstantsTable then some (templateOf s.shramReqCacheHdr s.shramReqCacheFtr) else none
  optimised :=
    if s.useOptimisedContentDesc then
      some (read s.contentDescriptorOptimised 0 (s.optimisedHwBlkSzQuadWords * 8))
    else none
  arc4State := read s.cipherARC4InitialState 0 264
  bufferInfo := s.hashStateBufferInfo
  prefixes := read s.hashStatePrefixBuffer (s.hashStateBufferInfo.stateStorageSzQuadWords * 8)
    (s.hashStateBufferInfo.prefixAadSzQuadWords * 8)

end QuickAssist.Sym
