import QuickAssist.Sym.KeyUpdate

/-!
# A new direction

A session stands for setup data, and its direction is replaced. For a cipher alone this changes its configuration. For
an authenticated cipher it changes the order of the blocks too: the hash is first when it decrypts, and the content
descriptor, the control blocks and the message template are rebuilt from the fields that the old ones hold.
-/

namespace QuickAssist.Sym

open Lib Lib.Memory

variable {caps : Capabilities} {sw : OsalCrypto} {setup : SessionSetupData} {dp sync : Bool} {phys : U64}
  {k : Octets} {s s' : Session} {desc desc' : SessionDesc} {order order' : AlgChainOrder}
  {proto proto' : Proto} {m : Bytes} {h h' : HashSetupData} {mode : QatHashMode} {dir : CipherDirection}

/-! ## The direction -/

lemma cipherCtrlBlockWrite_again (ftr : ReqFtr) (alg : CipherAlgorithm) (len : U32) (next : Slice)
    (off off' : ℕ) : cipherCtrlBlockWrite (cipherCtrlBlockWrite ftr alg len next off) alg len next off' =
      cipherCtrlBlockWrite ftr alg len next off' := by
  unfold cipherCtrlBlockWrite
  dsimp only
  rw [currIdSet_nextIdSet _ ftr.cdCtrl.nextCurrIdCipher]

lemma constantsGetCipherOffset_aes {alg : HwCipherAlgo} (hdes : alg ≠ .des) (harc4 : alg ≠ .arc4)
    {mode : HwCipherMode} (hctr : mode ≠ .ctr) (hf8 : mode ≠ .f8) (dec dec' : Bool) :
    0 < constantsGetCipherOffset ⟨alg, mode, dec, dec⟩ ↔ 0 < constantsGetCipherOffset ⟨alg, mode, dec', dec'⟩ := by
  cases alg with
  | des => exact absurd rfl hdes
  | arc4 => exact absurd rfl harc4
  | aes128 =>
    cases mode with
    | ctr => exact absurd rfl hctr
    | f8 => exact absurd rfl hf8
    | _ => cases dec <;> cases dec' <;> decide
  | _ => rfl

lemma keySizeAes_ne (len : U32) : keySizeAes len ≠ .des ∧ keySizeAes len ≠ .arc4 := by
  unfold keySizeAes
  split_ifs <;> simp

lemma keySizeXts_ne (len : U32) : keySizeXts len ≠ .des ∧ keySizeXts len ≠ .arc4 := by
  unfold keySizeXts
  split_ifs <;> simp

lemma use_withDirection (hcmd : desc.laCmdId = .cipher) (dir : CipherDirection) :
    (useSymConstantsTable { desc with cipherDirection := dir }).use = (useSymConstantsTable desc).use := by
  have hpos : (0 < constantsGetCipherOffset (cipherGetCfgData { desc with cipherDirection := dir })) ↔
      0 < constantsGetCipherOffset (cipherGetCfgData desc) := by
    obtain ⟨hdes, harc4⟩ := keySizeAes_ne desc.cipherKeyLenInBytes
    obtain ⟨hdes', harc4'⟩ := keySizeXts_ne desc.cipherKeyLenInBytes
    unfold cipherGetCfgData
    cases desc.cipherAlgorithm with
    | aesEcb | aesCbc => exact constantsGetCipherOffset_aes hdes harc4 (by decide) (by decide) _ _
    | aesXts => exact constantsGetCipherOffset_aes hdes' harc4' (by decide) (by decide) _ _
    | desEcb | desCbc => cases desc.cipherDirection <;> cases dir <;> simp [constantsGetCipherOffset]
    | _ => exact Iff.rfl
  simp only [useSymConstantsTable, hcmd]
  split
  · rfl
  · exact decide_eq_decide.mpr hpos

lemma CmdOf.withDirection (hcmd : CmdOf setup dp sync desc order proto)
    (hop : setup.symOperation ≠ .hash) (henc : desc.isAuthEncryptOp = false) (dir : CipherDirection) :
    CmdOf (setup.withDirection dir) dp sync { desc with cipherDirection := dir } order proto := by
  rw [hcmd.isAuthEncryptOp] at henc
  rcases hop' : setup.symOperation with _ | _ | _
  · simp only [CmdOf, buildCmdData, sessionDescOf, SessionSetupData.withDirection, hop'] at hcmd ⊢
    cases hcmd
    rfl
  · exact absurd hop' hop
  · simp only [hop', decide_true, Bool.true_and, Bool.or_eq_false_iff, decide_eq_false_iff_not] at henc
    obtain ⟨hccm, hgcm⟩ := henc
    simp only [CmdOf, buildCmdData, sessionDescOf, SessionSetupData.withDirection, hop'] at hcmd ⊢
    simp only [ne_eq, reduceCtorEq, not_false_eq_true, decide_true, if_true, hccm, hgcm, if_false] at hcmd ⊢
    cases hcmd
    rfl

/-- The configuration of a cipher alone, in the content descriptor and in the template for the table of
constants. -/
lemma sessionDirectionUpdate_cipher (hop : s.desc.symOperation = .cipher) (hdir : s.desc.cipherDirection ≠ dir) :
    let desc := { s.desc with cipherDirection := dir }
    sessionDirectionUpdate dir s = .ok
      { s with
        desc := desc
        contentDescriptor := cipherHwBlockPopulateCfgData desc 0 s.contentDescriptor
        shramReqCacheFtr :=
          if s.useSymConstantsTable then
            cipherCtrlBlockWrite s.shramReqCacheFtr s.desc.cipherAlgorithm s.desc.cipherKeyLenInBytes .dramWr
              (useSymConstantsTable desc).cipherOffset
          else s.shramReqCacheFtr } := by
  simp only [sessionDirectionUpdate, if_neg hdir, hop]
  split <;> rfl

lemma desc_cipherSession (c : CipherSetupData) : (cipherSession c desc proto phys m).desc = desc := by
  unfold cipherSession
  dsimp only [initHeaders]
  split <;> rfl

lemma directionUpdate_cipherSession {c : CipherSetupData} (hop : desc.symOperation = .cipher)
    (hcmdId : desc.laCmdId = .cipher) (hdir : desc.cipherDirection ≠ dir) :
    sessionDirectionUpdate dir (cipherSession c desc proto phys m) =
      .ok (cipherSession { c with cipherDirection := dir } { desc with cipherDirection := dir } proto phys
        (cipherHwBlockPopulateCfgData { desc with cipherDirection := dir } 0 m)) := by
  have huse := use_withDirection hcmdId dir
  rw [sessionDirectionUpdate_cipher (by rwa [desc_cipherSession]) (by rwa [desc_cipherSession])]
  unfold cipherSession
  rcases hold : (useSymConstantsTable desc).use with _ | _
  · simp only [hold, huse]
    rfl
  · simp only [hold, huse, if_true, cipherCDBuildForSHRAM]
    dsimp only [initHeaders]
    simp only [Session.clear, if_true, cipherCtrlBlockWrite_again]
    rfl

/-! ## The direction of an authenticated cipher -/

section

variable (f g : ReqFtr) (h : HashSetupData) (mode : QatHashMode) (verify : Bool) (alg : CipherAlgorithm)
  (len : U32) (off off' : ℕ)

lemma ftr_hashThenCipher : hashSetupReqParamsMetaData (cipherCtrlBlockWrite
        (hashContentDescInit f h off .cipher mode false).1 alg len .dramWr off') h mode verify =
      hashSetupReqParamsMetaData (cipherCtrlBlockWrite
        (hashContentDescInit g h off .cipher mode false).1 alg len .dramWr off') h mode verify := by
  unfold hashSetupReqParamsMetaData cipherCtrlBlockWrite hashContentDescInit
  rw [currIdSet_nextIdSet f.cdCtrl.nextCurrIdAuth g.cdCtrl.nextCurrIdAuth,
    currIdSet_nextIdSet f.cdCtrl.nextCurrIdCipher g.cdCtrl.nextCurrIdCipher]

lemma ftr_cipherThenHash : hashSetupReqParamsMetaData (hashContentDescInit
        (cipherCtrlBlockWrite f alg len .auth off') h off .dramWr mode false).1 h mode verify =
      hashSetupReqParamsMetaData (hashContentDescInit
        (cipherCtrlBlockWrite g alg len .auth off') h off .dramWr mode false).1 h mode verify := by
  unfold hashSetupReqParamsMetaData cipherCtrlBlockWrite hashContentDescInit
  rw [currIdSet_nextIdSet f.cdCtrl.nextCurrIdAuth g.cdCtrl.nextCurrIdAuth,
    currIdSet_nextIdSet f.cdCtrl.nextCurrIdCipher g.cdCtrl.nextCurrIdCipher]

end

structure MadeUp (h h' : HashSetupData) : Prop where
  alg : h'.hashAlgorithm = h.hashAlgorithm
  mode : h.hashMode = .auth
  mode' : h'.hashMode = .auth
  digest : h'.digestResultLenInBytes = h.digestResultLenInBytes
  aad : h'.aadLenInBytes = h.aadLenInBytes

lemma MadeUp.contentDescInit (hm : MadeUp h h') (ftr : ReqFtr) (off : ℕ) (next : Slice) (t : Bool) :
    (hashContentDescInit ftr h' off next mode t).1 = (hashContentDescInit ftr h off next mode t).1 := by
  simp [hashContentDescInit, outerAlgorithm, hm.alg, hm.mode, hm.mode', hm.digest]

lemma MadeUp.reqParamsMetaData (hm : MadeUp h h') (ftr : ReqFtr) (verify : Bool) :
    hashSetupReqParamsMetaData ftr h' mode verify = hashSetupReqParamsMetaData ftr h mode verify := by
  simp [hashSetupReqParamsMetaData, hm.alg, hm.mode, hm.mode', hm.digest, hm.aad]

lemma MadeUp.setupBlockInit {sw : OsalCrypto} {off : ℕ} {ctrl : CdCtrl} {m : Bytes}
    (hm : MadeUp h h') (hc : HashCtrl mode h.hashAlgorithm off ctrl) (hmode : mode = .mode1)
    (haead : h.hashAlgorithm.isAead = true) (hheld : Holds m off (hashBlock sw mode h k)) :
    hashSetupBlockInit h' ctrl mode m = m := by
  have h2 : hasState2 mode h.hashAlgorithm = true := by simp [hasState2, hmode]
  have hzero : h.hashAlgorithm.zeroState1 = true ∧ h.hashAlgorithm ≠ .sha1 ∧
      h.hashAlgorithm ≠ .snow3gUia2 ∧ h.hashAlgorithm ≠ .zucEia3 ∧ h.hashAlgorithm ≠ .none ∧
      h.hashAlgorithm ≠ .sha3_256 := by
    revert haead
    cases h.hashAlgorithm <;> decide
  obtain ⟨hzero, hsha, hsnow, hzuc, hne⟩ := hzero
  rw [hashBlock, holds_append, holds_append, length_hashHead, hashStates, if_pos h2, holds_append] at hheld
  obtain ⟨hhead, ⟨hstate1, -⟩, -⟩ := hheld
  rw [state1Of, if_pos hzero] at hstate1
  rw [hashHead, if_pos h2] at hhead
  have hhead' : setupHead h' ctrl mode m = m := by
    simp only [setupHead, hm.alg, hm.digest, if_pos h2, hzero, if_true, if_neg hsha, hc.start, hc.inHashInitState1]
    rw [hhead.write_eq, hstate1.write_eq]
  have hnested : doNested mode h'.hashMode = false := by simp [doNested, hmode, hm.mode']
  change setupTail h' ctrl mode (setupHead h' ctrl mode m) = m
  rw [hhead', setupTail, hnested, hm.alg]
  split
  · contradiction
  · contradiction
  · rfl

/-- The order in which an authenticated cipher is chained: the hash of GCM is over the encrypted data,
the one of CCM is not. -/
def aeadOrder (alg : CipherAlgorithm) (dir : CipherDirection) : AlgChainOrder :=
  if (alg = .aesCcm) = (dir = .encrypt) then .hashThenCipher else .cipherThenHash

lemma buildCmdData_aead (order : AlgChainOrder) (hop : desc.symOperation = .algorithmChaining)
    (haead : desc.cipherAlgorithm.IsAead) :
    buildCmdData desc order = ({ desc with
          laCmdId := chainCmdId (aeadOrder desc.cipherAlgorithm desc.cipherDirection)
          digestVerify := !decide (desc.cipherDirection = .encrypt) },
        aeadOrder desc.cipherAlgorithm desc.cipherDirection,
        if desc.cipherAlgorithm = .aesCcm then .ccm else .gcm) := by
  rcases haead with haead | haead <;> cases hdir : desc.cipherDirection <;>
    simp [buildCmdData, hop, haead, hdir, aeadOrder, chainCmdId]

/-- **The other direction has the other order.** -/
theorem CmdOf.reversed (hcmd : CmdOf setup dp sync desc order proto) (hop : setup.symOperation = .algorithmChaining)
    (haead : setup.cipherSetupData.cipherAlgorithm.IsAead)
    (hdir : setup.cipherSetupData.cipherDirection ≠ dir) : ∃ desc' order' proto',
      buildCmdData { desc with cipherDirection := dir } .hashThenCipher = (desc', order', proto') ∧
        CmdOf (setup.withDirection dir) dp sync desc' order' proto' ∧ order' ≠ order := by
  have hdesc : sessionDescOf (setup.withDirection dir) dp sync =
      { sessionDescOf setup dp sync with cipherDirection := dir } := by
    simp [sessionDescOf, SessionSetupData.withDirection, hop]
  have hold : (sessionDescOf setup dp sync).cipherAlgorithm = setup.cipherSetupData.cipherAlgorithm ∧
      (sessionDescOf setup dp sync).cipherDirection = setup.cipherSetupData.cipherDirection := by
    simp [sessionDescOf, hop]
  have hop' : (sessionDescOf setup dp sync).symOperation = .algorithmChaining := hop
  generalize hD : sessionDescOf setup dp sync = d at hdesc hold hop'
  rw [CmdOf, hD, buildCmdData_aead _ hop' (by rwa [hold.1])] at hcmd
  cases hcmd
  refine ⟨_, _, _, buildCmdData_aead _ hop' (by dsimp only; rwa [hold.1]), ?_, ?_⟩
  · rw [CmdOf, hdesc]
    exact buildCmdData_aead _ hop' (by dsimp only; rwa [hold.1])
  · rw [hold.1, hold.2]
    revert hdir
    rcases haead with haead | haead <;> rw [haead] <;> cases setup.cipherSetupData.cipherDirection <;>
      cases dir <;> simp [aeadOrder]

def swapped (hash cipher : Octets) (m : Bytes) : AlgChainOrder → Bytes
  | .hashThenCipher => write (write m 0 hash) hash.length cipher
  | .cipherThenHash => write (write m cipher.length hash) 0 cipher

/-- All of the block of an authenticated cipher is written. -/
lemma cipherBlock_aead (haead : desc.cipherAlgorithm.IsAead) (key : Bytes) (off : ℕ) :
    cipherBlock desc key off = cipherConfig (cipherGetCfgData desc) ++
      keySetup desc.cipherAlgorithm key desc.cipherKeyLenInBytes.toNat := by
  have hf8 : desc.cipherAlgorithm ≠ .aesF8 := by rcases haead with h | h <;> simp [h]
  rw [cipherBlock, unwritten_eq_nil hf8, List.append_nil]

lemma CipherSetupData.size_aead {c : CipherSetupData} (haead : c.cipherAlgorithm.IsAead) :
    c.size = 8 + c.cipherKeyLenInBytes.toNat := by
  rcases haead with haead | haead <;> simp [CipherSetupData.size, haead, cipherSize, keySetup, keySlack]

def swappedHash (cipher : Octets) : AlgChainOrder → ℕ
  | .hashThenCipher => 0
  | .cipherThenHash => cipher.length

def swappedCipher (hash : Octets) : AlgChainOrder → ℕ
  | .hashThenCipher => hash.length
  | .cipherThenHash => 0

lemma holds_swapped (hash cipher : Octets) (m : Bytes) (order : AlgChainOrder) :
    Holds (swapped hash cipher m order) (swappedHash cipher order) hash ∧
      Holds (swapped hash cipher m order) (swappedCipher hash order) cipher := by
  cases order
  · exact ⟨holds_write.write_of_disjoint (Or.inl (by simp)), holds_write⟩
  · exact ⟨holds_write.write_of_disjoint (Or.inr (by simp)), holds_write⟩

def swappedFtr (h : HashSetupData) (desc : SessionDesc) (mode : QatHashMode) (hashLen cipherLen : ℕ) :
    AlgChainOrder → ReqFtr
  | .hashThenCipher =>
    cipherCtrlBlockWrite (hashContentDescInit .zero h 0 .cipher mode false).1 desc.cipherAlgorithm
      desc.cipherKeyLenInBytes .dramWr (hashLen / 8)
  | .cipherThenHash =>
    (hashContentDescInit
      (cipherCtrlBlockWrite .zero desc.cipherAlgorithm desc.cipherKeyLenInBytes .auth 0) h
      (cipherLen / 8) .dramWr mode false).1

lemma aeadDirectionUpdate_eq (sw : OsalCrypto) (k cipher : Octets)
    (hbuild : buildCmdData s.desc .hashThenCipher = (desc', order', proto'))
    (hmade : MadeUp h (hashDataOf s.desc none)) (hmode' : desc'.qatHashMode = mode)
    (hmode : mode = .mode1) (haead : h.hashAlgorithm.isAead = true)
    (hcs : 8 + s.desc.cipherKeyLenInBytes.toNat = cipher.length) (hdvd : 8 ∣ cipher.length)
    (hhs : s.hwBlkSzQuadWords * 8 - cipher.length = (hashBlock sw mode h k).length)
    (hhash : Holds s.contentDescriptor (cipher.length - swappedHash cipher order') (hashBlock sw mode h k))
    (hcipher : Holds s.contentDescriptor (s.reqCacheFtr.cdCtrl.cipherCfgOffset * 8) cipher) :
    aeadDirectionUpdate s = { s with
        desc := desc'
        contentDescriptor := swapped (hashBlock sw mode h k) cipher s.contentDescriptor order'
        reqCacheFtr := hashSetupReqParamsMetaData
          (swappedFtr h desc' mode (hashBlock sw mode h k).length cipher.length order') h
          desc'.qatHashMode desc'.digestVerify
        reqCacheHdr := cmnHdrWrite s.reqCacheHdr desc'.laCmdId (cmnRequestFlags desc')
          (updateLaCmdFlags desc' proto' (laSetDefaultFlags desc'.symOperation)) } := by
  have hheld := holds_swapped (hashBlock sw mode h k) cipher s.contentDescriptor order'
  generalize hB : hashBlock sw mode h k = hash at *
  unfold Memory.Holds at hhash hcipher
  unfold aeadDirectionUpdate
  rw [hbuild]
  simp only [hcs, hhs, hcipher, hmade.contentDescInit, hmade.reqParamsMetaData, hmode']
  subst hB
  cases order'
  · simp only [swappedHash, Nat.sub_zero] at hhash
    simp only [swapped] at hheld
    have hctrl (f : ReqFtr) : HashCtrl mode h.hashAlgorithm 0
        (hashContentDescInit f h 0 .cipher mode false).1.cdCtrl := ⟨rfl, rfl, rfl⟩
    simp only [hhash]
    rw [ftr_hashThenCipher s.reqCacheFtr .zero, hmade.setupBlockInit (hctrl _) hmode haead hheld.1]
    rfl
  · simp only [swappedHash, Nat.sub_self] at hhash
    simp only [swapped] at hheld
    have hctrl (f : ReqFtr) : HashCtrl mode h.hashAlgorithm cipher.length
        (hashContentDescInit f h (cipher.length / 8) .dramWr mode false).1.cdCtrl :=
      ⟨Nat.div_mul_cancel hdvd, rfl, rfl⟩
    simp only [hhash]
    rw [ftr_cipherThenHash s.reqCacheFtr .zero, hmade.setupBlockInit (hctrl _) hmode haead hheld.1]
    rfl

lemma authSession_rewritten {ftr ftr' : ReqFtr} {size : ℕ} {arc4 m' : Bytes} (henc : desc.isAuthEncryptOp = true)
    (henc' : desc'.isAuthEncryptOp = true) (hcipher : desc'.isCipher = true) :
    { authSession h desc ftr size arc4 proto phys m with
      desc := desc'
      contentDescriptor := m'
      reqCacheFtr := hashSetupReqParamsMetaData ftr' h desc'.qatHashMode desc'.digestVerify
      reqCacheHdr := cmnHdrWrite (authSession h desc ftr size arc4 proto phys m).reqCacheHdr
        desc'.laCmdId (cmnRequestFlags desc')
        (updateLaCmdFlags desc' proto' (laSetDefaultFlags desc'.symOperation)) } =
      authSession h desc' ftr' size arc4 proto' phys m' := by
  simp only [authSession, initHeaders, Session.clear, henc, henc', hcipher, if_true,
    ciphAuthCfgOffsetFlagSet_laSetDefaultFlags, cdFldTypeSet_cmnRequestFlags]
  rfl

lemma desc_sessionFor : (sessionFor setup desc order proto phys m).desc = desc := by
  rcases hop : setup.symOperation with _ | _ | _
  · rw [sessionFor_cipher _ hop, desc_cipherSession]
  · rw [sessionFor_hash _ hop]
    rfl
  · rw [sessionFor_chain _ hop]
    rfl

lemma sessionDirectionUpdate_chain (hop : s.desc.symOperation = .algorithmChaining)
    (hdir : s.desc.cipherDirection ≠ dir) : sessionDirectionUpdate dir s = .ok
      (if s.desc.isAuthEncryptOp then
        aeadDirectionUpdate { s with desc := { s.desc with cipherDirection := dir } }
      else
        { s with
          desc := { s.desc with cipherDirection := dir }
          contentDescriptor := cipherHwBlockPopulateCfgData { s.desc with cipherDirection := dir }
            (s.reqCacheFtr.cdCtrl.cipherCfgOffset * 8) s.contentDescriptor }) := by
  simp only [sessionDirectionUpdate, if_neg hdir, hop]
  split <;> rfl

section

variable (hop : setup.symOperation = .algorithmChaining) (hcmd : CmdOf setup dp sync desc order proto)
  (hcmd' : CmdOf (setup.withDirection dir) dp sync desc' order' proto')
  (haead : setup.cipherSetupData.cipherAlgorithm.IsAead) (hok : HashOk desc.qatHashMode setup.hashSetupData k)

include hop hcmd hcmd'

lemma CmdOf.mode_withDirection : desc'.qatHashMode = desc.qatHashMode :=
  (hcmd'.mode (by simp [hop, SessionSetupData.withDirection])).trans hcmd.mode.symm

include haead hok

/-- **The direction of an authenticated cipher.** -/
theorem aeadDirectionUpdate_authSession (hu : Updatable caps setup)
    (hbuild : buildCmdData { desc with cipherDirection := dir } .hashThenCipher = (desc', order', proto'))
    (hne : order' ≠ order) (hheld : Holds m (hashOffset setup.cipherSetupData order)
        (hashBlock sw desc.qatHashMode setup.hashSetupData k) ∧
      Holds m (cipherOffset setup.hashSetupData desc.qatHashMode order)
        (cipherBlock desc setup.cipherSetupData.keyBytes 0)) :
    aeadDirectionUpdate { sessionFor setup desc order proto phys m with
        desc := { desc with cipherDirection := dir } } =
      sessionFor (setup.withDirection dir) desc' order' proto' phys
        (swapped (hashBlock sw desc.qatHashMode setup.hashSetupData k)
          (cipherBlock desc setup.cipherSetupData.keyBytes 0) m order') := by
  have hmode' := hcmd.mode_withDirection hop hcmd'
  obtain ⟨halg', hlen'⟩ := hcmd'.cipher (by simp [hop, SessionSetupData.withDirection])
  have hhash := (hu.isAead_iff hop).mpr haead
  obtain ⟨hauth, hmode1, htail⟩ := hu.aead hop hhash
  rw [← hcmd.mode] at hmode1
  obtain ⟨hhalg, hhauth, -⟩ := hcmd.hash (by simp [hop]) hauth
  have haad := hcmd.aead hop haead
  have hmade : MadeUp setup.hashSetupData (hashDataOf { desc with cipherDirection := dir } none) :=
    ⟨hhalg, hauth, hhauth, haad.2, haad.1⟩
  have hcs := CipherSetupData.size_aead haead
  have hdvd := hu.ok.dvd (by simp [hop])
  have hhw : bytesToQuadwords (hashSize setup.hashSetupData desc.qatHashMode + setup.cipherSetupData.size) * 8 -
      setup.cipherSetupData.size = hashSize setup.hashSetupData desc.qatHashMode := by
    rw [bytesToQuadwords_mul (Nat.dvd_add (dvd_hashSize hok) hdvd)]
    omega
  have hcfg := cipherCfgOffset_chainFtr hok order
  have henc : desc.isAuthEncryptOp = true ∧ desc'.isAuthEncryptOp = true := by
    rw [hcmd.isAuthEncryptOp, hcmd'.isAuthEncryptOp]
    rcases haead with haead | haead <;> simp [SessionSetupData.withDirection, hop, haead]
  have hcipher : desc'.isCipher = true := by
    obtain ⟨cmd, enc, verify, rfl⟩ := hcmd'.fields
    simp [sessionDescOf, SessionSetupData.withDirection, hop]
  have hlenC := hcmd.length_cipherBlock setup.cipherSetupData.keyBytes 0
  have hlenH := length_hashBlock_eq sw hok
  have hftr : swappedFtr setup.hashSetupData desc' desc.qatHashMode
      (hashBlock sw desc.qatHashMode setup.hashSetupData k).length
      (cipherBlock desc setup.cipherSetupData.keyBytes 0).length order' =
        chainFtr setup.cipherSetupData setup.hashSetupData desc'.qatHashMode order' := by
    rw [hlenC, hlenH, hmode']
    cases order' <;> simp only [swappedFtr, chainFtr, halg', hlen'] <;> rfl
  rw [sessionFor_chain _ hop, sessionFor_chain (setup.withDirection dir) hop,
    aeadDirectionUpdate_eq sw k (cipherBlock desc setup.cipherSetupData.keyBytes 0)
      hbuild hmade hmode' hmode1 hhash, hftr]
  · refine (authSession_rewritten henc.1 henc.2 hcipher).trans ?_
    rw [hmode']
    rfl
  · rw [hlenC, hcs, ← hcmd.cipher.2]
  · rw [hlenC]
    exact hdvd
  · rw [hlenC, hlenH]
    exact hhw
  · rw [hlenC]
    have hoff : setup.cipherSetupData.size -
        swappedHash (cipherBlock desc setup.cipherSetupData.keyBytes 0) order' =
          hashOffset setup.cipherSetupData order := by
      cases order' <;> cases order <;>
        first | exact absurd rfl hne | simp [swappedHash, hashOffset, hlenC]
    rw [hoff]
    exact hheld.1
  · rw [← hcfg] at hheld
    exact hheld.2

lemma holds_contentDesc_swapped (m : Bytes) : Holds (swapped (hashBlock sw desc.qatHashMode setup.hashSetupData k)
      (cipherBlock desc setup.cipherSetupData.keyBytes 0) m order') 0
      (contentDesc sw (setup.withDirection dir) desc' order' k) := by
  obtain ⟨halg, hlen⟩ := hcmd.cipher
  obtain ⟨halg', hlen'⟩ := hcmd'.cipher (by simp [hop, SessionSetupData.withDirection])
  have hmode := hcmd.mode_withDirection hop hcmd'
  -- the configuration of these ciphers does not depend on the direction
  have hblock (off : ℕ) : cipherBlock desc' setup.cipherSetupData.keyBytes off =
      cipherBlock desc setup.cipherSetupData.keyBytes 0 := by
    have hcfg : cipherGetCfgData desc' = cipherGetCfgData desc := by
      unfold cipherGetCfgData
      rw [halg', halg, hlen', hlen]
      rcases haead with haead | haead <;> simp [SessionSetupData.withDirection, haead]
    rw [cipherBlock_aead (halg' ▸ haead), cipherBlock_aead (halg ▸ haead), hcfg, halg', halg, hlen', hlen]
    rfl
  obtain ⟨hh, hc⟩ := holds_swapped (hashBlock sw desc.qatHashMode setup.hashSetupData k)
    (cipherBlock desc setup.cipherSetupData.keyBytes 0) m order'
  rw [holds_contentDesc_chain (setup.withDirection dir) hop hcmd' (by rwa [hmode])]
  simp only [SessionSetupData.withDirection, hmode, hblock]
  cases order'
  · refine ⟨hh, ?_⟩
    rw [swappedCipher, length_hashBlock_eq sw hok] at hc
    exact hc
  · refine ⟨?_, hc⟩
    rw [swappedHash, hcmd.length_cipherBlock] at hh
    exact hh

end

/-- **The direction is replaced.** -/
theorem Represents.direction (hr : Represents sw setup dp sync phys k s) (hu : Updatable caps setup)
    (hop : setup.symOperation ≠ .hash) (hs : sessionDirectionUpdate dir s = .ok s') :
    Represents sw (setup.withDirection dir) dp sync phys k s' := by
  have hok := hr.hashOk hu
  obtain ⟨hklen, desc, order, proto, m, hcmd, rfl, hheld⟩ := hr
  have hdesc : desc.cipherDirection = setup.cipherSetupData.cipherDirection := by
    obtain ⟨cmd, enc, verify, rfl⟩ := hcmd.fields
    simp [sessionDescOf, hop]
  by_cases hdir : desc.cipherDirection = dir
  · rw [sessionDirectionUpdate, if_pos (by rwa [desc_sessionFor])] at hs
    have hsetup : setup.withDirection dir = setup := by
      rw [← hdir, hdesc]
      rfl
    rw [hsetup, ← Except.ok.inj hs]
    exact ⟨hklen, desc, order, proto, m, hcmd, rfl, hheld⟩
  refine ⟨hklen, ?_⟩
  rcases hop' : setup.symOperation with _ | _ | _
  · have henc : desc.isAuthEncryptOp = false := by simp [hcmd.isAuthEncryptOp, hop']
    have hcmdId : desc.laCmdId = .cipher := by
      simp only [CmdOf, buildCmdData, sessionDescOf, hop'] at hcmd
      cases hcmd
      rfl
    rw [sessionFor_cipher _ hop', directionUpdate_cipherSession (hcmd.op.trans hop') hcmdId hdir] at hs
    refine ⟨_, order, proto, cipherHwBlockPopulateCfgData { desc with cipherDirection := dir } 0 m,
      hcmd.withDirection hop henc dir, ?_, ?_⟩
    · rw [sessionFor_cipher (setup.withDirection dir) hop']
      exact (Except.ok.inj hs).symm
    · simp only [contentDesc, hop'] at hheld
      simp only [contentDesc, SessionSetupData.withDirection, hop']
      exact holds_cipherConfig hheld rfl rfl rfl
  · exact absurd hop' hop
  · have hok := hok (by simp [hop'])
    rw [← hcmd.mode] at hok
    rw [holds_contentDesc_chain _ hop' hcmd hok] at hheld
    rw [sessionDirectionUpdate_chain (by rw [desc_sessionFor]; exact hcmd.op.trans hop')
      (by rwa [desc_sessionFor]), desc_sessionFor] at hs
    rcases henc : desc.isAuthEncryptOp with _ | _
    · rw [henc, sessionFor_chain _ hop'] at hs
      have hcmd' := hcmd.withDirection hop henc dir
      refine ⟨_, order, proto, cipherHwBlockPopulateCfgData { desc with cipherDirection := dir }
        (cipherOffset setup.hashSetupData desc.qatHashMode order) m, hcmd', ?_, ?_⟩
      · rw [sessionFor_chain (setup.withDirection dir) hop', ← Except.ok.inj hs, ← cipherCfgOffset_chainFtr hok order]
        rfl
      · rw [holds_contentDesc_chain (setup.withDirection dir) hop' hcmd' hok]
        refine ⟨hheld.1.write_of_disjoint ?_, holds_cipherConfig hheld.2 rfl rfl rfl⟩
        rw [length_hashBlock_eq _ hok, length_cipherConfig]
        exact (offsets_disjoint _ _ _ order).imp_right (Nat.le_trans (Nat.add_le_add_left (Nat.le_add_right 8 _) _))
    · rw [henc] at hs
      have haead : setup.cipherSetupData.cipherAlgorithm.IsAead := by
        rw [hcmd.isAuthEncryptOp] at henc
        simp [hop'] at henc
        exact henc.symm
      obtain ⟨desc', order', proto', hbuild, hcmd', hne⟩ := hcmd.reversed hop' haead (hdesc ▸ hdir)
      refine ⟨desc', order', proto', _, hcmd', (Except.ok.inj hs).symm.trans
        (aeadDirectionUpdate_authSession hop' hcmd hcmd' haead hok hu hbuild hne ⟨hheld.1, ?_⟩), ?_⟩
      · rw [cipherBlock_aead (hcmd.cipher.1 ▸ haead)] at hheld ⊢
        exact hheld.2
      · exact holds_contentDesc_swapped hop' hcmd hcmd' haead hok m

end QuickAssist.Sym
