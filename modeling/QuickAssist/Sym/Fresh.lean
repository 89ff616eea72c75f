import QuickAssist.Sym.HashBlock

/-!
# What a session is built to be

`buildSession` in closed form, for the three kinds of sessions: `cipherSession` and `authSession` say what the
fields of a session are, and `contentDesc` what the content descriptor holds. Left out are sessions that use
the optimised content descriptor, and hashes that use the table of constants: these have no key to be replaced.
-/

namespace QuickAssist.Sym

open Lib Lib.Memory

variable {sw : OsalCrypto} {setup : SessionSetupData} {dp sync : Bool} {phys : U64} {desc : SessionDesc}
  {order : AlgChainOrder} {proto : Proto} {h : HashSetupData} {c : CipherSetupData} {cipherKey : Octets}

/-! ## Ciphers -/

/-- The bytes of a cipher's block: its configuration and its key. -/
def cipherSize (alg : CipherAlgorithm) (keyLen : ℕ) : ℕ :=
  8 + ((keySetup alg (fun _ => 0) keyLen).length + keySlack alg keyLen)

/-- The bytes of the cipher's block. -/
abbrev CipherSetupData.size (c : CipherSetupData) : ℕ := cipherSize c.cipherAlgorithm c.cipherKeyLenInBytes.toNat

abbrev CipherSetupData.keyBytes (c : CipherSetupData) : Bytes := Sym.keyBytes c.pCipherKey

lemma length_cipherBlock_eq (desc : SessionDesc) (key : Bytes) (off : ℕ) : (cipherBlock desc key off).length =
    cipherSize desc.cipherAlgorithm desc.cipherKeyLenInBytes.toNat := by
  rw [cipherBlock, List.length_append, List.length_append, length_cipherConfig, unwritten, length_read,
    length_keySetup _ key (fun _ => 0)]
  rfl

/-- The state of ARC4 that a new session begins with. -/
def arc4State (c : CipherSetupData) : Bytes :=
  if c.cipherAlgorithm = .arc4 then write (fun _ => 0) 0 (arc4StateInit c.keyBytes c.cipherKeyLenInBytes.toNat)
  else fun _ => 0

/-- A session without a hash, with the content descriptor `m`. -/
def cipherSession (c : CipherSetupData) (desc : SessionDesc) (proto : Proto) (phys : U64) (m : Bytes) : Session :=
  let constants := useSymConstantsTable desc
  let s :=
    { Session.clear desc with
      useSymConstantsTable := constants.use
      contentDescriptor := m
      cipherARC4InitialState := arc4State c
      reqCacheFtr := cipherCtrlBlockWrite .zero c.cipherAlgorithm c.cipherKeyLenInBytes .dramWr 0 }
  initHeaders proto phys c.size 0
    (if constants.use then cipherCDBuildForSHRAM c .dramWr constants.cipherOffset s else s)

/-- The block of the cipher is written at `off`. -/
def writeCipherBlock (desc : SessionDesc) (key : Bytes) (off : ℕ) (m : Bytes) : Bytes :=
  write (write m off (cipherConfig (cipherGetCfgData desc))) (off + 8)
    (keySetup desc.cipherAlgorithm key desc.cipherKeyLenInBytes.toNat)

/-- What `buildCmdData` makes of the setup data. -/
def CmdOf (setup : SessionSetupData) (dp sync : Bool) (desc : SessionDesc) (order : AlgChainOrder)
    (proto : Proto) : Prop :=
  buildCmdData (sessionDescOf setup dp sync) setup.algChainOrder = (desc, order, proto)

lemma buildCmdData_fields (desc : SessionDesc) (order : AlgChainOrder) : ∃ cmd enc verify,
    (buildCmdData desc order).1 = { desc with laCmdId := cmd, isAuthEncryptOp := enc, digestVerify := verify } := by
  unfold buildCmdData
  dsimp only
  split
  · exact ⟨_, _, _, rfl⟩
  · exact ⟨_, _, _, rfl⟩
  · split
    · exact ⟨_, _, _, rfl⟩
    · split
      all_goals exact ⟨_, _, _, rfl⟩

section

variable (hcmd : CmdOf setup dp sync desc order proto)

include hcmd

/-- `buildCmdData` sets three fields of the description. -/
lemma CmdOf.fields : ∃ cmd enc verify,
    desc = { sessionDescOf setup dp sync with laCmdId := cmd, isAuthEncryptOp := enc, digestVerify := verify } := by
  obtain ⟨cmd, enc, verify, heq⟩ := buildCmdData_fields (sessionDescOf setup dp sync) setup.algChainOrder
  rw [hcmd] at heq
  exact ⟨cmd, enc, verify, heq⟩

lemma CmdOf.cipher (hop : setup.symOperation ≠ .hash := by simp [*]) :
    desc.cipherAlgorithm = setup.cipherSetupData.cipherAlgorithm ∧
      desc.cipherKeyLenInBytes = setup.cipherSetupData.cipherKeyLenInBytes := by
  obtain ⟨cmd, enc, verify, rfl⟩ := hcmd.fields
  simp [sessionDescOf, hop]

lemma CmdOf.length_cipherBlock (key : Bytes) (off : ℕ) (hop : setup.symOperation ≠ .hash := by simp [*]) :
    (cipherBlock desc key off).length = setup.cipherSetupData.size := by
  rw [length_cipherBlock_eq, (hcmd.cipher hop).1, (hcmd.cipher hop).2]

lemma CmdOf.mode (hop : setup.symOperation ≠ .cipher := by simp [*]) :
    desc.qatHashMode = qatHashModeOf setup.hashSetupData := by
  obtain ⟨cmd, enc, verify, rfl⟩ := hcmd.fields
  simp [sessionDescOf, hop]

lemma CmdOf.op : desc.symOperation = setup.symOperation := by
  obtain ⟨cmd, enc, verify, rfl⟩ := hcmd.fields
  rfl

end

/-! ## Hashes -/

/-- The bytes of the block of the hash. -/
def hashSize (h : HashSetupData) (mode : QatHashMode) : ℕ := (hashContentDescInit .zero h 0 .dramWr mode false).2

/-- A session with a hash; `ftr` says where its blocks are. -/
def authSession (h : HashSetupData) (desc : SessionDesc) (ftr : ReqFtr) (size : ℕ) (arc4 : Bytes)
    (proto : Proto) (phys : U64) (m : Bytes) : Session :=
  let ftr := hashSetupReqParamsMetaData ftr h desc.qatHashMode desc.digestVerify
  initHeaders proto phys size 0
    { Session.clear desc with
      contentDescriptor := m
      cipherARC4InitialState := arc4
      reqCacheFtr := ftr
      hashStateBufferInfo := if desc.isAuthEncryptOp then ⟨0, 0⟩ else hashStatePrefixAadBufferSizeGet ftr
      hashStatePrefixBuffer :=
        if desc.isAuthEncryptOp then fun _ => 0
        else statePrefixAadBufferInit h ftr desc.qatHashMode fun _ => 0 }

/-- The request footer of a hash alone. -/
def hashFtr (h : HashSetupData) (mode : QatHashMode) : ReqFtr := (hashContentDescInit .zero h 0 .dramWr mode false).1

/-- The request footer of a chain. -/
def chainFtr (c : CipherSetupData) (h : HashSetupData) (mode : QatHashMode) : AlgChainOrder → ReqFtr
  | .hashThenCipher =>
    cipherCtrlBlockWrite (hashContentDescInit .zero h 0 .cipher mode false).1 c.cipherAlgorithm
      c.cipherKeyLenInBytes .dramWr (hashSize h mode / 8)
  | .cipherThenHash =>
    (hashContentDescInit (cipherCtrlBlockWrite .zero c.cipherAlgorithm c.cipherKeyLenInBytes .auth 0) h
      (c.size / 8) .dramWr mode false).1

/-- Both blocks are written, in the order of the chain. -/
def writeChain (c : CipherSetupData) (h : HashSetupData) (desc : SessionDesc) (m : Bytes) : AlgChainOrder → Bytes
  | .hashThenCipher =>
    writeCipherBlock desc c.keyBytes (hashSize h desc.qatHashMode)
      (hashSetupBlockInit h (chainFtr c h desc.qatHashMode .hashThenCipher).cdCtrl desc.qatHashMode m)
  | .cipherThenHash =>
    hashSetupBlockInit h (chainFtr c h desc.qatHashMode .cipherThenHash).cdCtrl desc.qatHashMode
      (writeCipherBlock desc c.keyBytes 0 m)

/-- The states of the hash are written where `ctrl` says. -/
def writeStatesAt (sw : OsalCrypto) (setup : SessionSetupData) (mode : QatHashMode) (ctrl : CdCtrl)
    (m : Bytes) : Bytes :=
  let h := setup.hashSetupData
  let c := setup.cipherSetupData
  writeStates sw mode h.hashAlgorithm h.key (read c.keyBytes 0 c.cipherKeyLenInBytes.toNat) h.aadLenInBytes
    ctrl.inHashInitState1 ctrl.inHashInitState2 m

/-- A session with the content descriptor `m`. -/
def sessionFor (setup : SessionSetupData) (desc : SessionDesc) (order : AlgChainOrder) (proto : Proto)
    (phys : U64) (m : Bytes) : Session :=
  let c := setup.cipherSetupData
  let h := setup.hashSetupData
  let mode := desc.qatHashMode
  match setup.symOperation with
  | .cipher => cipherSession c desc proto phys m
  | .hash => authSession h desc (hashFtr h mode) (hashSize h mode) (fun _ => 0) proto phys m
  | .algorithmChaining =>
    authSession h desc (chainFtr c h mode order) (hashSize h mode + c.size) (arc4State c) proto phys m

/-- The content descriptor of a new session. -/
def builtDesc (sw : OsalCrypto) (setup : SessionSetupData) (desc : SessionDesc) (order : AlgChainOrder) : Bytes :=
  let c := setup.cipherSetupData
  let h := setup.hashSetupData
  let mode := desc.qatHashMode
  match setup.symOperation with
  | .cipher => writeCipherBlock desc c.keyBytes 0 (sessionMemory desc.symOperation)
  | .hash =>
    let ctrl := (hashFtr h mode).cdCtrl
    writeStatesAt sw setup mode ctrl (hashSetupBlockInit h ctrl mode (sessionMemory desc.symOperation))
  | .algorithmChaining =>
    writeStatesAt sw setup mode (chainFtr c h mode order).cdCtrl
      (writeChain c h desc (sessionMemory desc.symOperation) order)

lemma initStates_eq (s : Session) (hopt : s.useOptimisedContentDesc = false) : initStates sw setup s =
      { s with contentDescriptor :=
          writeStatesAt sw setup s.desc.qatHashMode s.reqCacheFtr.cdCtrl s.contentDescriptor } := by
  unfold initStates writeStatesAt writeStates
  dsimp only
  split
  · rw [if_neg (by simp [hopt])]
    rfl
  · split <;> rfl

lemma initHash_eq (s : Session) (huse : s.useSymConstantsTable = false) (hopt : s.useOptimisedContentDesc = false) :
    let ftr := hashSetupReqParamsMetaData s.reqCacheFtr setup.hashSetupData s.desc.qatHashMode
      s.desc.digestVerify
    initHash sw setup s = { s with
        contentDescriptor := writeStatesAt sw setup s.desc.qatHashMode s.reqCacheFtr.cdCtrl s.contentDescriptor
        reqCacheFtr := ftr
        hashStateBufferInfo :=
          if s.desc.isAuthEncryptOp then s.hashStateBufferInfo else hashStatePrefixAadBufferSizeGet ftr
        hashStatePrefixBuffer :=
          if s.desc.isAuthEncryptOp then s.hashStatePrefixBuffer
          else statePrefixAadBufferInit setup.hashSetupData ftr s.desc.qatHashMode s.hashStatePrefixBuffer } := by
  intro ftr
  simp only [initHash, huse, Bool.false_eq_true, if_false]
  rcases henc : s.desc.isAuthEncryptOp with _ | _
  all_goals
    rw [initStates_eq]
    · rfl
    · exact hopt

/-- **A session is built like this**, where the table of constants is not used for a hash. -/
theorem buildSession_eq (sw : OsalCrypto) (phys : U64) (hcmd : CmdOf setup dp sync desc order proto)
    (huse : setup.symOperation ≠ .cipher → (useSymConstantsTable desc).use = false)
    (heven : setup.symOperation ≠ .hash → EvenKey setup.cipherSetupData.cipherAlgorithm
      setup.cipherSetupData.cipherKeyLenInBytes.toNat) :
    buildSession sw setup dp sync phys = sessionFor setup desc order proto phys (builtDesc sw setup desc order) := by
  have hop' := hcmd.op
  unfold buildSession
  rw [hcmd]
  rcases hop : setup.symOperation with _ | _ | _
  · obtain ⟨halg, hlen⟩ := hcmd.cipher
    have hauth : desc.isAuth = false := by
      obtain ⟨cmd, enc, verify, rfl⟩ := hcmd.fields
      simp [sessionDescOf, hop]
    simp only [buildBlocks, hop', hop, hauth, cipherCDBuild, halg, populateKeySetup_eq (heven (by simp [hop])),
      length_keySetup _ setup.cipherSetupData.keyBytes fun _ => 0, sessionFor, builtDesc]
    simp [cipherSession, arc4State, writeCipherBlock, halg, hlen, cipherSize, Session.clear, hop', hop,
      cipherHwBlockPopulateCfgData]
  · have hdesc : desc.isAuth = true ∧ desc.cipherAlgorithm = .none := by
      obtain ⟨cmd, enc, verify, rfl⟩ := hcmd.fields
      simp [sessionDescOf, hop]
    simp only [buildBlocks, hop', hop, hdesc, hashCDBuild, huse (by simp [hop]), Session.clear, Bool.and_false,
      Bool.false_and, Bool.false_eq_true, if_false, if_true, reduceCtorEq, decide_false]
    rw [initHash_eq _ rfl rfl, sessionFor, builtDesc, hop', hop]
    rfl
  · obtain ⟨halg, hlen⟩ := hcmd.cipher
    have hauth : desc.isAuth = true := by
      obtain ⟨cmd, enc, verify, rfl⟩ := hcmd.fields
      simp [sessionDescOf, hop]
    cases order
    all_goals
      simp only [buildBlocks, hop', hop, hauth, halg, hashCDBuild, cipherCDBuild, huse (by simp [hop]), Session.clear,
        populateKeySetup_eq (heven (by simp [hop])),
        length_keySetup _ setup.cipherSetupData.keyBytes fun _ => 0, Bool.and_false,
        Bool.false_and, Bool.false_eq_true, if_false, if_true]
      rw [initHash_eq _ rfl rfl]
      simp only [sessionFor, builtDesc, hop', hop, authSession, writeChain, writeCipherBlock, halg, hlen]
    · rfl
    · rw [Nat.add_comm (hashSize _ _)]
      rfl

/-! ## What the content descriptor holds -/

def CipherSetupData.key (c : CipherSetupData) : Octets := read c.keyBytes 0 c.cipherKeyLenInBytes.toNat

/-- What the checks make sure of. -/
structure SetupOk (setup : SessionSetupData) : Prop where
  even : setup.symOperation ≠ .hash → EvenKey setup.cipherSetupData.cipherAlgorithm
    setup.cipherSetupData.cipherKeyLenInBytes.toNat
  dvd : setup.symOperation ≠ .hash → 8 ∣ setup.cipherSetupData.size
  hash : setup.symOperation ≠ .cipher →
    HashOk (qatHashModeOf setup.hashSetupData) setup.hashSetupData setup.cipherSetupData.key
  zuc : setup.symOperation = .algorithmChaining →
    setup.hashSetupData.hashAlgorithm = .zucEia3 → setup.cipherSetupData.cipherAlgorithm = .zucEea3
  /-- The states of CMAC end before `symOperation`. -/
  cmac : setup.symOperation = .algorithmChaining → setup.hashSetupData.hashAlgorithm = .aesCmac →
    setup.cipherSetupData.size + 80 ≤ symOperationOffset ∨
      setup.cipherSetupData.cipherAlgorithm = .aesF8 ∧ setup.algChainOrder = .hashThenCipher

/-- The content descriptor. `cipherKey` is what the hash knows about the key of the cipher. -/
def contentDesc (sw : OsalCrypto) (setup : SessionSetupData) (desc : SessionDesc)
    (order : AlgChainOrder) (cipherKey : Octets) : Octets :=
  let cipher := cipherBlock desc setup.cipherSetupData.keyBytes
  let hash := hashBlock sw desc.qatHashMode setup.hashSetupData cipherKey
  match setup.symOperation with
  | .cipher => cipher 0
  | .hash => hash
  | .algorithmChaining =>
    match order with
    | .hashThenCipher => hash ++ cipher (hashSize setup.hashSetupData desc.qatHashMode)
    | .cipherThenHash => cipher 0 ++ hash

section

variable {mode : QatHashMode}

lemma hashSize_eq (hok : HashOk mode h cipherKey) :
    hashSize h mode = 16 + (statesSize mode h.hashAlgorithm + (hashTail mode h).length) := by
  rw [length_hashTail hok]
  simp only [hashSize, hashContentDescInit, statesSize, Bool.false_eq_true, if_false]
  by_cases hn : doNested mode h.hashMode = true
  · simp only [hn, if_true]
    omega
  · simp only [hn, if_false, Bool.false_eq_true]
    omega

lemma length_hashBlock_eq (sw : OsalCrypto) (hok : HashOk mode h cipherKey) :
    (hashBlock sw mode h cipherKey).length = hashSize h mode := by
  rw [length_hashBlock hok, hashSize_eq hok]

lemma hashCtrl_hashFtr : HashCtrl mode h.hashAlgorithm 0 (hashFtr h mode).cdCtrl := ⟨rfl, rfl, rfl⟩

/-- Where the block of the hash is in a chain. -/
def hashOffset (c : CipherSetupData) : AlgChainOrder → ℕ
  | .hashThenCipher => 0
  | .cipherThenHash => c.size

/-- Where the block of the cipher is in a chain. -/
def cipherOffset (h : HashSetupData) (mode : QatHashMode) : AlgChainOrder → ℕ
  | .hashThenCipher => hashSize h mode
  | .cipherThenHash => 0

lemma offsets_disjoint (c : CipherSetupData) (h : HashSetupData) (mode : QatHashMode) (order : AlgChainOrder) :
    hashOffset c order + hashSize h mode ≤ cipherOffset h mode order ∨
      cipherOffset h mode order + c.size ≤ hashOffset c order := by
  cases order <;> simp [hashOffset, cipherOffset]

lemma hashCtrl_chainFtr (h : HashSetupData) (mode : QatHashMode) (hdvd : 8 ∣ c.size) (order : AlgChainOrder) :
    HashCtrl mode h.hashAlgorithm (hashOffset c order) (chainFtr c h mode order).cdCtrl := by
  cases order
  · exact ⟨rfl, rfl, rfl⟩
  · exact ⟨Nat.div_mul_cancel hdvd, rfl, rfl⟩

lemma holds_sessionMemory (op : SymOp) {off n : ℕ} (hend : off + n ≤ symOperationOffset) :
    Holds (sessionMemory op) off (zeroes n) :=
  holds_replicate.mpr fun _ _ => write_of_lt (by omega)

lemma holds_writeCipherBlock (desc : SessionDesc) (key : Bytes) (off : ℕ) {m : Bytes}
    (hz : Holds m (off + 8 + (keySetup desc.cipherAlgorithm (fun _ => 0) desc.cipherKeyLenInBytes.toNat).length)
      (unwritten desc off)) : Holds (writeCipherBlock desc key off m) off (cipherBlock desc key off) := by
  rw [cipherBlock, holds_append, holds_append, length_cipherConfig, length_keySetup _ key fun _ => 0]
  refine ⟨?_, holds_write, ?_⟩
  · exact holds_write.write_of_disjoint
  · refine Holds.write_of_disjoint ?_ (Or.inr (by rw [length_keySetup _ key fun _ => 0]))
    exact hz.write_of_disjoint (Or.inr (by rw [length_cipherConfig]; omega))

lemma sameOutside_writeCipherBlock (desc : SessionDesc) (key : Bytes) (off : ℕ) (m : Bytes) :
    SameOutside m (writeCipherBlock desc key off m) off
      (cipherSize desc.cipherAlgorithm desc.cipherKeyLenInBytes.toNat) := by
  refine (sameOutside_write.mono ?_).trans (sameOutside_write.mono ?_)
  · rw [length_cipherConfig, cipherSize]
    omega
  · rw [length_keySetup _ key fun _ => 0, cipherSize]
    omega

end

lemma holds_unwritten (desc : SessionDesc) (off : ℕ) : Holds (sessionMemory desc.symOperation)
    (off + 8 + (keySetup desc.cipherAlgorithm (fun _ => 0) desc.cipherKeyLenInBytes.toNat).length)
    (unwritten desc off) := by
  rw [Memory.Holds, unwritten, length_read]

lemma unwritten_eq_nil {off : ℕ} (halg : desc.cipherAlgorithm ≠ .aesF8) : unwritten desc off = [] := by
  have hslack : keySlack desc.cipherAlgorithm desc.cipherKeyLenInBytes.toNat = 0 := by
    unfold keySlack
    split
    · contradiction
    · rfl
  rw [unwritten, hslack]
  rfl

lemma CmdOf.cmac_room (hcmd : CmdOf setup dp sync desc .cipherThenHash proto)
    (hop : setup.symOperation = .algorithmChaining) (hsetup : SetupOk setup)
    (hcmac : setup.hashSetupData.hashAlgorithm = .aesCmac) :
    setup.cipherSetupData.size + 80 ≤ symOperationOffset := by
  rcases hsetup.cmac hop hcmac with hend | ⟨hf8, horder⟩
  · exact hend
  · -- the order is the one that was asked for
    simp [CmdOf, buildCmdData, sessionDescOf, hop, hf8, horder] at hcmd

section

variable (hop : setup.symOperation = .algorithmChaining) (hsetup : SetupOk setup)
  (hcmd : CmdOf setup dp sync desc order proto)

include hop hsetup hcmd

lemma setUp_writeChain : SetUp desc.qatHashMode setup.hashSetupData (hashOffset setup.cipherSetupData order)
        (writeChain setup.cipherSetupData setup.hashSetupData desc (sessionMemory desc.symOperation) order) ∧
      Holds (writeChain setup.cipherSetupData setup.hashSetupData desc (sessionMemory desc.symOperation) order)
        (cipherOffset setup.hashSetupData desc.qatHashMode order)
        (cipherBlock desc setup.cipherSetupData.keyBytes (cipherOffset setup.hashSetupData desc.qatHashMode order)) := by
  have hok := hsetup.hash (by simp [hop])
  have hdvd := hsetup.dvd (by simp [hop])
  obtain ⟨halg, hlen⟩ := hcmd.cipher
  rw [← hcmd.mode] at hok
  have hsz := hashSize_eq hok
  cases order
  · -- the hash block is written first, and the cipher block over what ZUC has left behind it
    have hctrl := hashCtrl_chainFtr setup.hashSetupData desc.qatHashMode hdvd .hashThenCipher
    obtain ⟨hset, hsame⟩ := setUp_hashSetupBlockInit hok hctrl fun _ =>
      holds_sessionMemory desc.symOperation (by rw [hashOffset]; decide)
    refine ⟨?_, holds_writeCipherBlock _ _ _ ?_⟩
    · refine hset.of_sameOutside hok (sameOutside_writeCipherBlock _ _ _ _) (Or.inl ?_)
      rw [hashOffset, hsz]
      omega
    · by_cases hf8 : desc.cipherAlgorithm = .aesF8
      · have hzuc : setup.hashSetupData.hashAlgorithm ≠ .zucEia3 := by
          intro hzuc
          have := hsetup.zuc hop hzuc
          rw [← halg, hf8] at this
          cases this
        rw [← hsz, tailSlack, if_neg hzuc] at hsame
        exact (holds_unwritten desc _).of_sameOutside hsame (Or.inr (by rw [hashOffset]; omega))
      · rw [unwritten_eq_nil hf8]
        rfl
  · have hctrl := hashCtrl_chainFtr setup.hashSetupData desc.qatHashMode hdvd .cipherThenHash
    have hcipher := holds_writeCipherBlock desc setup.cipherSetupData.keyBytes 0 (holds_unwritten desc 0)
    have hcsame := sameOutside_writeCipherBlock desc setup.cipherSetupData.keyBytes 0
      (sessionMemory desc.symOperation)
    obtain ⟨hset, hsame⟩ := setUp_hashSetupBlockInit hok hctrl fun hcmac => by
      have hend := hcmd.cmac_room hop hsetup hcmac
      exact (holds_sessionMemory _ (by rw [hashOffset]; omega)).of_sameOutside hcsame
        (Or.inr (by rw [hashOffset, halg, hlen, CipherSetupData.size]; omega))
    refine ⟨hset, hcipher.of_sameOutside hsame (Or.inl ?_)⟩
    rw [hcmd.length_cipherBlock, hashOffset]
    omega

lemma holds_chain : Holds (builtDesc sw setup desc order) 0
    (contentDesc sw setup desc order setup.cipherSetupData.key) := by
  obtain ⟨hset, hcipher⟩ := setUp_writeChain hop hsetup hcmd
  have hok := hsetup.hash (by simp [hop])
  rw [← hcmd.mode] at hok
  have hctrl := hashCtrl_chainFtr setup.hashSetupData desc.qatHashMode (hsetup.dvd (by simp [hop])) order
  obtain ⟨hhash, hsame⟩ := hset.writeStates sw hok hctrl
  have hlenc := hcmd.length_cipherBlock setup.cipherSetupData.keyBytes 0
  have hsz := hashSize_eq hok
  simp only [builtDesc, contentDesc, hop]
  cases order
  · exact holds_append.mpr ⟨hhash, by
      rw [Nat.zero_add, length_hashBlock_eq _ hok]
      exact hcipher.of_sameOutside hsame (Or.inr (by rw [hashOffset, cipherOffset]; omega))⟩
  · refine holds_append.mpr ⟨hcipher.of_sameOutside hsame (Or.inl ?_), ?_⟩
    · rw [cipherOffset, hlenc, hashOffset]
      omega
    · rw [Nat.zero_add, hlenc]
      exact hhash

end

/-- **The content descriptor that is built** holds the blocks. -/
theorem holds_builtDesc (sw : OsalCrypto) (hsetup : SetupOk setup) (hcmd : CmdOf setup dp sync desc order proto) :
    Holds (builtDesc sw setup desc order) 0 (contentDesc sw setup desc order setup.cipherSetupData.key) := by
  rcases hop : setup.symOperation with _ | _ | _
  · simp only [builtDesc, contentDesc, hop]
    exact holds_writeCipherBlock _ _ _ (holds_unwritten desc 0)
  · have hok := hsetup.hash (by simp [hop])
    rw [← hcmd.mode] at hok
    obtain ⟨hset, -⟩ := setUp_hashSetupBlockInit hok hashCtrl_hashFtr fun _ =>
      holds_sessionMemory desc.symOperation (by decide)
    simp only [builtDesc, contentDesc, hop]
    exact (hset.writeStates sw hok hashCtrl_hashFtr).1
  · exact holds_chain hop hsetup hcmd

end QuickAssist.Sym
