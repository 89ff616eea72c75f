import QuickAssist.Sym.Represents

/-!
# New keys

A session stands for setup data, and one of its keys is replaced. The key of the cipher is in the content descriptor,
the initial state of ARC4 or the message template; the key of the hash in its precomputed states and the prefixes; and
the hash block of an authenticated cipher holds a state that is made from the key of the cipher.
-/

namespace QuickAssist.Sym

open Lib Lib.Memory

variable {c : CipherSetupData} {desc : SessionDesc} {proto : Proto} {phys : U64} {m key : Bytes}
  {caps : Capabilities} {sw : OsalCrypto} {setup : SessionSetupData} {dp sync : Bool} {k k' : Octets}
  {s s' : Session} {h : HashSetupData} {ctrl : CdCtrl} {off field : ℕ} {ftr : ReqFtr} {order : AlgChainOrder}
  {alg : HashAlgorithm} {mode : QatHashMode}

/-! ## The key of the cipher -/

lemma write_write_same {a b : Octets} (hlen : a.length = b.length) : write (write m off a) off b = write m off b := by
  rw [write_write_of_le (Nat.le_of_eq hlen.symm), List.drop_eq_nil_of_le (Nat.le_of_eq hlen), List.append_nil]

lemma write_arc4State (halg : c.cipherAlgorithm = .arc4) (key : Bytes) :
    write (arc4State c) 0 (arc4StateInit key c.cipherKeyLenInBytes.toNat) =
      arc4State { c with pCipherKey := some key } := by
  rw [arc4State, if_pos halg, write_write_same (by rw [length_arc4StateInit, length_arc4StateInit]),
    arc4State, if_pos halg]
  rfl

lemma arc4State_of_ne (halg : c.cipherAlgorithm ≠ .arc4) (key : Option Bytes) :
    arc4State { c with pCipherKey := key } = arc4State c := by
  rw [arc4State, if_neg halg, arc4State, if_neg halg]

def rekeyed (c : CipherSetupData) (key : Bytes) (off : ℕ) (m : Bytes) : Bytes :=
  if c.cipherAlgorithm = .arc4 then m
  else write m (off + 8) (keySetup c.cipherAlgorithm key c.cipherKeyLenInBytes.toNat)

lemma CmdOf.cipherAlgorithm_of_hash {proto : Proto}
    (hcmd : CmdOf setup dp sync desc order proto) (hop : setup.symOperation = .hash) :
    desc.cipherAlgorithm = .none := by
  obtain ⟨cmd, enc, verify, rfl⟩ := hcmd.fields
  simp [sessionDescOf, hop]

lemma Represents.hashOk (hr : Represents sw setup dp sync phys k s)
    (hu : Updatable caps setup) (hop : setup.symOperation ≠ .cipher) :
    HashOk (qatHashModeOf setup.hashSetupData) setup.hashSetupData k :=
  (hu.ok.hash hop).congr (hr.1.trans (length_read _ _ _).symm)

section

variable (halg : desc.cipherAlgorithm = c.cipherAlgorithm) (hlen : desc.cipherKeyLenInBytes = c.cipherKeyLenInBytes)

include halg hlen

lemma cipherKeyUpdate_cipherSession (hop : desc.symOperation = .cipher)
    (heven : EvenKey c.cipherAlgorithm c.cipherKeyLenInBytes.toNat) (key : Bytes) :
    sessionCipherKeyUpdate key (cipherSession c desc proto phys m) =
      .ok (cipherSession { c with pCipherKey := some key } desc proto phys (rekeyed c key 0 m)) := by
  have hsame (a : Bytes) : write (write a 0 (keySetup c.cipherAlgorithm c.keyBytes
      c.cipherKeyLenInBytes.toNat)) 0 (keySetup c.cipherAlgorithm key c.cipherKeyLenInBytes.toNat) =
        write a 0 (keySetup c.cipherAlgorithm key c.cipherKeyLenInBytes.toNat) :=
    write_write_same (length_keySetup _ _ _ _)
  by_cases harc : c.cipherAlgorithm = .arc4
  · rcases huse : (useSymConstantsTable desc).use with _ | _
    · simp [sessionCipherKeyUpdate, cipherSession, initHeaders, Session.clear, huse, halg, harc, hlen, rekeyed,
        write_arc4State harc, CipherSetupData.size]
    · simp only [sessionCipherKeyUpdate, cipherSession, initHeaders, Session.clear, huse, halg, harc,
        hlen, rekeyed, if_true, Bool.false_eq_true, if_false, cipherCDBuildForSHRAM, write_arc4State harc,
        CipherSetupData.size]
      rfl
  · rcases huse : (useSymConstantsTable desc).use with _ | _
    · simp [sessionCipherKeyUpdate, cipherSession, initHeaders, Session.clear, huse, halg, harc, hlen, hop,
        rekeyed, populateKeySetup_eq heven, arc4State_of_ne harc, CipherSetupData.size]
    · simp only [sessionCipherKeyUpdate, cipherSession, initHeaders, Session.clear, huse, halg, harc,
        hlen, hop, rekeyed, if_true, Bool.false_eq_true, if_false, cipherCDBuildForSHRAM,
        populateKeySetup_eq heven, arc4State_of_ne harc, cmnHdrWrite, hsame]
      rfl

lemma cipherKeyUpdate_authSession {size : ℕ} (hop : desc.symOperation = .algorithmChaining)
    (heven : EvenKey c.cipherAlgorithm c.cipherKeyLenInBytes.toNat)
    (hoff : ftr.cdCtrl.cipherCfgOffset * 8 = off) (key : Bytes) :
    sessionCipherKeyUpdate key (authSession h desc ftr size (arc4State c) proto phys m) =
      .ok (authSession h desc ftr size (arc4State { c with pCipherKey := some key }) proto phys
        (rekeyed c key off m)) := by
  by_cases harc : c.cipherAlgorithm = .arc4
  · simp [sessionCipherKeyUpdate, authSession, initHeaders, Session.clear, halg, harc, hlen, rekeyed,
      write_arc4State harc]
  · simp [sessionCipherKeyUpdate, authSession, initHeaders, Session.clear, halg, harc, hlen, hop, rekeyed,
      populateKeySetup_eq heven, arc4State_of_ne harc, hashSetupReqParamsMetaData, hoff]

lemma holds_rekeyed (hheld : Holds m off (cipherBlock desc c.keyBytes off)) (key : Bytes) :
    Holds (rekeyed c key off m) off (cipherBlock desc key off) := by
  unfold rekeyed
  split
  next harc =>
    -- the block of ARC4 has no key
    have hsame (a : Bytes) : cipherBlock desc a off = cipherConfig (cipherGetCfgData desc) := by
      rw [cipherBlock, unwritten_eq_nil (by simp [halg, harc])]
      simp [halg, harc, keySetup]
    rw [hsame] at hheld ⊢
    exact hheld
  next =>
    rw [← halg, ← hlen]
    exact holds_cipherKey hheld key

end

lemma sameOutside_rekeyed (c : CipherSetupData) (key : Bytes) (off : ℕ) (m : Bytes) :
    SameOutside m (rekeyed c key off m) off c.size := by
  unfold rekeyed
  split
  · exact fun i _ => rfl
  · refine sameOutside_write.mono ?_
    rw [length_keySetup _ key fun _ => 0, CipherSetupData.size, cipherSize]
    omega

/-- **The key of the cipher is replaced.** -/
theorem Represents.cipherKey (hr : Represents sw setup dp sync phys k s)
    (hu : Updatable caps setup) (hs : sessionCipherKeyUpdate key s = .ok s') :
    Represents sw (setup.withCipherKey (some key)) dp sync phys k s' := by
  have hok := hr.hashOk hu
  obtain ⟨hklen, desc, order, proto, m, hcmd, rfl, hheld⟩ := hr
  refine ⟨hklen, ?_⟩
  rcases hop : setup.symOperation with _ | _ | _
  · obtain ⟨halg, hlen⟩ := hcmd.cipher
    rw [sessionFor_cipher _ hop, cipherKeyUpdate_cipherSession halg hlen (hcmd.op.trans hop)
      (hu.ok.even (by simp [hop]))] at hs
    refine ⟨desc, order, proto, rekeyed setup.cipherSetupData key 0 m, hcmd, ?_, ?_⟩
    · rw [sessionFor_cipher (setup.withCipherKey (some key)) hop]
      exact (Except.ok.inj hs).symm
    · simp only [contentDesc, hop] at hheld
      simp only [contentDesc, SessionSetupData.withCipherKey, hop]
      exact holds_rekeyed halg hlen hheld key
  · rw [sessionFor_hash _ hop] at hs
    simp [sessionCipherKeyUpdate, authSession, initHeaders, Session.clear, hcmd.cipherAlgorithm_of_hash hop,
      hcmd.op.trans hop] at hs
  · obtain ⟨halg, hlen⟩ := hcmd.cipher
    have hok := hok (by simp [hop])
    rw [← hcmd.mode] at hok
    rw [sessionFor_chain _ hop, cipherKeyUpdate_authSession halg hlen (hcmd.op.trans hop)
      (hu.ok.even (by simp [hop])) (cipherCfgOffset_chainFtr hok order)] at hs
    refine ⟨desc, order, proto, rekeyed setup.cipherSetupData key
      (cipherOffset setup.hashSetupData desc.qatHashMode order) m, hcmd, ?_, ?_⟩
    · rw [sessionFor_chain (setup.withCipherKey (some key)) hop]
      exact (Except.ok.inj hs).symm
    · rw [holds_contentDesc_chain _ hop hcmd hok] at hheld
      rw [holds_contentDesc_chain (setup.withCipherKey (some key)) hop hcmd hok]
      refine ⟨?_, holds_rekeyed halg hlen hheld.2 key⟩
      refine hheld.1.of_sameOutside (sameOutside_rekeyed _ _ _ _) ?_
      rw [length_hashBlock_eq _ hok]
      exact offsets_disjoint _ _ _ order

/-! ## The key of the hash -/

/-- The content descriptor with other states of the hash; `field` is where the key of the cipher is. -/
def restated (sw : OsalCrypto) (desc : SessionDesc) (ctrl : CdCtrl) (field : ℕ) (key m : Bytes) : Bytes :=
  let alg := desc.hashAlgorithm
  let authKey := read key 0 desc.authKeyLenInBytes.toNat
  if alg = .snow3gUia2 then write m (ctrl.outHashSetup + 8) authKey
  else if alg = .zucEia3 ∨ alg = .aesCbcMac then write m ctrl.inHashInitState2 authKey
  else if alg = .aesCmac ∨ alg = .kasumiF9 ∨ desc.qatHashMode = .mode1 then
    let m := if alg = .aesCmac then write m ctrl.inHashInitState2 (zeroes ctrl.innerState2Sz) else m
    precomputeDataCreate sw alg authKey (read m field desc.cipherKeyLenInBytes.toNat)
      desc.aadLenInBytes ctrl.inHashInitState1 ctrl.inHashInitState2 m
  else m

lemma sessionAuthKeyUpdate_eq (sw : OsalCrypto) (key : Bytes) {s : Session}
    (hsha3 : s.desc.hashAlgorithm ≠ .sha3_256) : sessionAuthKeyUpdate sw key s = { s with
        contentDescriptor := restated sw s.desc s.reqCacheFtr.cdCtrl (cipherKeyField s) key
          s.contentDescriptor } := by
  unfold sessionAuthKeyUpdate restated
  dsimp only
  rw [if_neg hsha3]
  split_ifs <;> rfl

def HashAlgorithm.isAead : HashAlgorithm → Bool
  | aesCcm | aesGcm | aesGmac => true
  | _ => false

lemma precomputeDataCreate_of_not_aead (halg : alg.isAead = false) (authKey a b : Octets) (aadLen aadLen' : U32)
    (st1 st2 : ℕ) (m : Bytes) : precomputeDataCreate sw alg authKey a aadLen st1 st2 m =
      precomputeDataCreate sw alg authKey b aadLen' st1 st2 m := by
  cases alg <;> first | rfl | cases halg

lemma precomputeDataCreate_of_aead (halg : alg.isAead = true) (a b cipherKey : Octets) (aadLen : U32) (st1 st2 : ℕ)
    (m : Bytes) : precomputeDataCreate sw alg a cipherKey aadLen st1 st2 m =
      precomputeDataCreate sw alg b cipherKey aadLen st1 st2 m := by
  cases alg <;> first | rfl | cases halg

lemma qatHashModeOf_eq_mode1 (hauth : h.hashMode = .auth) (hsha3 : h.hashAlgorithm ≠ .sha3_256)
    (hzuc : ¬ (h.hashAlgorithm = .zucEia3 ∨ h.hashAlgorithm = .aesCbcMac)) : qatHashModeOf h = .mode1 := by
  rw [not_or] at hzuc
  simp [qatHashModeOf, hauth, hsha3, hzuc]

/-- The block of an authentication hash is at `off`, where the control block says. -/
structure Keyed (sw : OsalCrypto) (desc : SessionDesc) (h : HashSetupData) (k : Octets) (off : ℕ)
    (ctrl : CdCtrl) (m : Bytes) : Prop where
  ok : HashOk desc.qatHashMode h k
  placed : HashCtrl desc.qatHashMode h.hashAlgorithm off ctrl
  mode : desc.qatHashMode = qatHashModeOf h
  auth : h.hashMode = .auth
  alg : desc.hashAlgorithm = h.hashAlgorithm
  held : Holds m off (hashBlock sw desc.qatHashMode h k)

lemma holds_restated (hh : Keyed sw desc h k off ctrl m) (hlen : desc.authKeyLenInBytes = h.authKeyLenInBytes)
    (haead : h.hashAlgorithm.isAead = false) (hsha3 : h.hashAlgorithm ≠ .sha3_256) (field : ℕ) (key : Bytes) :
    Holds (restated sw desc ctrl field key m) off (hashBlock sw desc.qatHashMode (h.withKey (some key)) k) ∧
      SameOutside m (restated sw desc ctrl field key m) off (hashSize h desc.qatHashMode) := by
  obtain ⟨hok, hc, hmode, hauth, halg, hheld⟩ := hh
  have hok' := hok.withKey (some key)
  have hsz := hashSize_eq hok
  unfold restated
  rw [halg, hlen, hc.inHashInitState1, hc.inHashInitState2, hc.outHashSetup]
  by_cases hsnow : h.hashAlgorithm = .snow3gUia2
  · rw [if_pos hsnow]
    obtain ⟨hnew, hsame⟩ := holds_wireless hok hok' hheld hsnow
    exact ⟨hnew, hsame.mono⟩
  rw [if_neg hsnow]
  by_cases hzuc : h.hashAlgorithm = .zucEia3 ∨ h.hashAlgorithm = .aesCbcMac
  · rw [if_pos hzuc]
    obtain ⟨hnew, hsame⟩ := holds_key hok hok' hheld hzuc
    exact ⟨hnew, hsame.mono⟩
  have hmode1 := hmode.trans (qatHashModeOf_eq_mode1 hauth hsha3 hzuc)
  have h2 : hasState2 desc.qatHashMode h.hashAlgorithm = true := by simp [hasState2, hmode1]
  rw [if_neg hzuc, if_pos (Or.inr (Or.inr hmode1)), hc.state2, if_pos h2,
    precomputeDataCreate_of_not_aead haead _ _ k _ h.aadLenInBytes]
  obtain ⟨hnew, hsame⟩ := holds_precompute hok hok' hheld hmode1 hsnow
  exact ⟨hnew, hsame.mono⟩

lemma holds_restated_aead (hh : Keyed sw desc h k off ctrl m)
    (hok' : HashOk desc.qatHashMode h k') (haad : desc.aadLenInBytes = h.aadLenInBytes)
    (haead : h.hashAlgorithm.isAead = true) (hfield : read m field desc.cipherKeyLenInBytes.toNat = k') (key : Bytes) :
    Holds (restated sw desc ctrl field key m) off (hashBlock sw desc.qatHashMode h k') ∧
      SameOutside m (restated sw desc ctrl field key m) off (hashSize h desc.qatHashMode) := by
  obtain ⟨hok, hc, hmode, hauth, halg, hheld⟩ := hh
  have hsz := hashSize_eq hok
  obtain ⟨hsnow, hzuc, hcmac, hsha3⟩ : h.hashAlgorithm ≠ .snow3gUia2 ∧
      ¬ (h.hashAlgorithm = .zucEia3 ∨ h.hashAlgorithm = .aesCbcMac) ∧ h.hashAlgorithm ≠ .aesCmac ∧
      h.hashAlgorithm ≠ .sha3_256 := by
    revert haead
    cases h.hashAlgorithm <;> decide
  have hmode1 := hmode.trans (qatHashModeOf_eq_mode1 hauth hsha3 hzuc)
  have hpre := holds_precompute hok (show HashOk desc.qatHashMode (h.withKey h.authKey) k' from hok') hheld
    hmode1 hsnow
  dsimp only at hpre
  rw [if_neg hcmac] at hpre
  unfold restated
  dsimp only
  rw [halg, haad, hc.inHashInitState1, hc.inHashInitState2, if_neg hsnow, if_neg hzuc,
    if_pos (Or.inr (Or.inr hmode1)), if_neg hcmac, hfield,
    precomputeDataCreate_of_aead haead _ (h.withKey h.authKey).key]
  exact ⟨hpre.1, hpre.2.mono⟩

lemma populatePrefix_some (m : Bytes) (off : ℕ) (src : Bytes) (size padding : U8) :
    populatePrefix m off (some src) size padding = write m off (read src 0 size.toNat ++ zeroes padding.toNat) := by
  have happend := write_write_append m off (read src 0 size.toNat) (zeroes padding.toNat)
  rw [length_read] at happend
  rw [← happend]
  unfold populatePrefix Key.populatePrefix
  dsimp only [Buffer.write]
  split
  · rfl
  next hp =>
    have hzero : padding.toNat = 0 := by
      rw [BitVec.lt_def] at hp
      simpa using hp
    rw [hzero]
    exact (funext (write_of_nil _ _)).symm

lemma write_pair_again {p q : ℕ} {a b a' b' : Octets} (ha : a.length = a'.length) (hb : b.length = b'.length) :
    write (write (write (write m p a) q b) p a') q b' = write (write m p a') q b' := by
  funext i
  by_cases hq : q ≤ i ∧ i < q + b'.length
  · obtain ⟨j, rfl⟩ := Nat.exists_eq_add_of_le hq.1
    rw [write_add (by omega), write_add (by omega)]
  rw [@sameOutside_write _ _ q b' i (by omega), @sameOutside_write _ _ q b' i (by omega)]
  by_cases hp : p ≤ i ∧ i < p + a'.length
  · obtain ⟨j, rfl⟩ := Nat.exists_eq_add_of_le hp.1
    rw [write_add (by omega), write_add (by omega)]
  rw [@sameOutside_write _ _ p a' i (by omega), @sameOutside_write _ _ p a' i (by omega),
    @sameOutside_write _ _ q b i (by omega), @sameOutside_write _ _ p a i (by omega)]

lemma statePrefixAadBufferInit_again (ftr : ReqFtr) {h' : HashSetupData}
    (hmode : mode = .mode2) (hauth : h.hashMode = .auth) (hauth' : h'.hashMode = .auth)
    (hlen : h'.authKeyLenInBytes = h.authKeyLenInBytes) (hkey : h'.authKey = some key) :
    statePrefixAadBufferInit h' ftr mode (statePrefixAadBufferInit h ftr mode fun _ => 0) =
      statePrefixAadBufferInit (h.withKey (some key)) ftr mode fun _ => 0 := by
  simp only [statePrefixAadBufferInit, HashSetupData.withKey, hauth, hauth', hmode, reduceCtorEq, if_false,
    and_self, if_true, hashStatePrefixAadBufferPopulate, hkey, hlen, populatePrefix_some]
  cases h.authKey with
  | none => rfl
  | some old =>
    simp only [populatePrefix_some]
    apply write_pair_again <;> simp

lemma Keyed.request (hh : Keyed sw desc h k off ftr.cdCtrl m) : Keyed sw desc h k off
    (hashSetupReqParamsMetaData ftr h desc.qatHashMode desc.digestVerify).cdCtrl m :=
  { hh with placed := { hh.placed with } }

lemma statePrefixAadBufferInit_auth
    (hmode : mode ≠ .mode2) (hauth : h.hashMode = .auth) : statePrefixAadBufferInit h ftr mode m = m := by
  simp [statePrefixAadBufferInit, hmode, hauth]

/-- **The key of a hash is replaced.** -/
theorem authKeyUpdate_authSession (size : ℕ) (arc4 : Bytes) (proto : Proto) (phys : U64)
    (hh : Keyed sw desc h k off ftr.cdCtrl m) (hauth' : desc.hashMode = .auth)
    (henc : desc.isAuthEncryptOp = false) (hlen : desc.authKeyLenInBytes = h.authKeyLenInBytes)
    (haead : h.hashAlgorithm.isAead = false) (key : Bytes) :
    ∃ m', sessionAuthKeyUpdate sw key (authSession h desc ftr size arc4 proto phys m) =
        authSession (h.withKey (some key)) desc ftr size arc4 proto phys m' ∧
      Holds m' off (hashBlock sw desc.qatHashMode (h.withKey (some key)) k) ∧
      SameOutside m m' off (hashSize h desc.qatHashMode) := by
  have hmode := hh.mode
  have hauth := hh.auth
  by_cases hsha3 : h.hashAlgorithm = .sha3_256
  · -- the key is in the prefix buffer
    have hmode2 : desc.qatHashMode = .mode2 := by
      rw [hmode]
      simp [qatHashModeOf, hauth, hsha3, HashAlgorithm.isHmacAlg]
    have h2 : ¬ hasState2 desc.qatHashMode h.hashAlgorithm = true := by
      simp [hasState2, hmode2, hsha3]
    refine ⟨m, ?_, ?_, fun i _ => rfl⟩
    · simp only [sessionAuthKeyUpdate, authSession, initHeaders, Session.clear, hh.alg, hsha3, henc, if_true,
        Bool.false_eq_true, if_false]
      have hagain (ftr : ReqFtr) := statePrefixAadBufferInit_again ftr hmode2 hauth
        (show (hashDataOf desc (some key)).hashMode = .auth from hauth') hlen rfl
      rw [hagain]
      rfl
    · have hblock : hashBlock sw desc.qatHashMode (h.withKey (some key)) k = hashBlock sw desc.qatHashMode h k := by
        rw [hashBlock, hashBlock, hashTail_withKey (by rw [hsha3]; decide), hashStates, hashStates,
          if_neg h2, if_neg (show ¬ hasState2 desc.qatHashMode (h.withKey (some key)).hashAlgorithm = true from h2)]
        rfl
      rw [hblock]
      exact hh.held
  · have hmode2 : desc.qatHashMode ≠ .mode2 := by
      rw [hmode]
      revert hsha3
      unfold qatHashModeOf
      rw [hauth]
      cases h.hashAlgorithm <;> decide
    obtain ⟨hnew, hsame⟩ := holds_restated hh.request hlen haead hsha3
      (cipherKeyField (authSession h desc ftr size arc4 proto phys m)) key
    refine ⟨_, ?_, hnew, hsame⟩
    rw [← hh.alg] at hsha3
    rw [sessionAuthKeyUpdate_eq sw key (s := authSession h desc ftr size arc4 proto phys m) hsha3]
    simp only [authSession, statePrefixAadBufferInit_auth hmode2 hauth,
      statePrefixAadBufferInit_auth hmode2 (show (h.withKey (some key)).hashMode = .auth from hauth)]
    rfl

lemma authKeyUpdate_aead (size : ℕ) (arc4 : Bytes) (proto : Proto) (phys : U64)
    (hh : Keyed sw desc h k off ftr.cdCtrl m) (hok' : HashOk desc.qatHashMode h k')
    (haad : desc.aadLenInBytes = h.aadLenInBytes) (haead : h.hashAlgorithm.isAead = true)
    (hfield : read m (cipherKeyField (authSession h desc ftr size arc4 proto phys m))
      desc.cipherKeyLenInBytes.toNat = k') (key : Bytes) :
    ∃ m', sessionAuthKeyUpdate sw key (authSession h desc ftr size arc4 proto phys m) =
        authSession h desc ftr size arc4 proto phys m' ∧
      Holds m' off (hashBlock sw desc.qatHashMode h k') ∧ SameOutside m m' off (hashSize h desc.qatHashMode) := by
  have hsha3 : desc.hashAlgorithm ≠ .sha3_256 := by
    rintro hs
    rw [← hh.alg, hs] at haead
    cases haead
  obtain ⟨hnew, hsame⟩ := holds_restated_aead hh.request hok' haad haead hfield key
  exact ⟨_, sessionAuthKeyUpdate_eq sw key hsha3, hnew, hsame⟩

section

variable (hcmd : CmdOf setup dp sync desc order proto)

include hcmd

lemma CmdOf.hash (hop : setup.symOperation ≠ .cipher) (hauth : setup.hashSetupData.hashMode = .auth) :
    desc.hashAlgorithm = setup.hashSetupData.hashAlgorithm ∧ desc.hashMode = .auth ∧
      desc.authKeyLenInBytes = setup.hashSetupData.authKeyLenInBytes := by
  obtain ⟨cmd, enc, verify, rfl⟩ := hcmd.fields
  simp [sessionDescOf, hop, hauth]

lemma CmdOf.isAuthEncryptOp : desc.isAuthEncryptOp = (decide (setup.symOperation = .algorithmChaining) &&
      (decide (setup.cipherSetupData.cipherAlgorithm = .aesCcm) ||
        decide (setup.cipherSetupData.cipherAlgorithm = .aesGcm))) := by
  have hfst : (buildCmdData (sessionDescOf setup dp sync) setup.algChainOrder).1 = desc := by
    rw [hcmd]
  rw [← hfst]
  rcases hop : setup.symOperation with _ | _ | _
  · simp [buildCmdData, sessionDescOf, hop]
  · simp [buildCmdData, sessionDescOf, hop]
  · by_cases hccm : setup.cipherSetupData.cipherAlgorithm = .aesCcm
    · simp [buildCmdData, sessionDescOf, hop, hccm]
    · by_cases hgcm : setup.cipherSetupData.cipherAlgorithm = .aesGcm
      · simp [buildCmdData, sessionDescOf, hop, hgcm]
      · simp [buildCmdData, sessionDescOf, hop, hccm, hgcm]

omit hcmd in
lemma Updatable.isAead_of_hash (hu : Updatable caps setup) (hop : setup.symOperation = .hash) :
    setup.hashSetupData.hashAlgorithm.isAead = false := by
  have hparam := hu.param
  simp only [sessionParamCheck, hop, bind_eq_ok, reject_eq_ok] at hparam
  revert hparam
  cases setup.hashSetupData.hashAlgorithm <;> simp [HashAlgorithm.isAead]

def CipherAlgorithm.IsAead (alg : CipherAlgorithm) : Prop := alg = .aesGcm ∨ alg = .aesCcm

lemma CmdOf.aead (hop : setup.symOperation = .algorithmChaining)
    (haead : setup.cipherSetupData.cipherAlgorithm.IsAead) : desc.aadLenInBytes = setup.hashSetupData.aadLenInBytes ∧
      desc.hashResultSize = setup.hashSetupData.digestResultLenInBytes := by
  obtain ⟨cmd, enc, verify, rfl⟩ := hcmd.fields
  rcases haead with haead | haead <;> simp [sessionDescOf, hop, haead]

end

lemma Updatable.isAead_iff (hu : Updatable caps setup) (hop : setup.symOperation = .algorithmChaining) :
    setup.hashSetupData.hashAlgorithm.isAead = true ↔ setup.cipherSetupData.cipherAlgorithm.IsAead := by
  have hparam := hu.param
  simp only [sessionParamCheck, hop, bind_eq_ok, reject_eq_ok, not_mismatched] at hparam
  obtain ⟨hccm, hgcm, -⟩ := hparam
  revert hccm hgcm
  cases setup.hashSetupData.hashAlgorithm <;> simp [HashAlgorithm.isAead, CipherAlgorithm.IsAead] <;> tauto

lemma Updatable.aead (hu : Updatable caps setup) (hop : setup.symOperation = .algorithmChaining)
    (haead : setup.hashSetupData.hashAlgorithm.isAead = true) :
    setup.hashSetupData.hashMode = .auth ∧ qatHashModeOf setup.hashSetupData = .mode1 ∧
      hashTail (qatHashModeOf setup.hashSetupData) setup.hashSetupData = [] := by
  have hauth : setup.hashSetupData.hashMode = .auth := by
    apply hashMode_of_hashContextCheck (hu.hash (by simp [hop]))
    revert haead
    cases setup.hashSetupData.hashAlgorithm <;> simp [HashAlgorithm.isAead]
  have hmode : qatHashModeOf setup.hashSetupData = .mode1 := by
    unfold qatHashModeOf
    rw [hauth]
    revert haead
    cases setup.hashSetupData.hashAlgorithm <;> decide
  have hsnow : setup.hashSetupData.hashAlgorithm ≠ .snow3gUia2 := by
    rintro hs
    rw [hs] at haead
    cases haead
  simp [hashTail, doNested, hmode, hauth, hsnow]

section

variable (hop : setup.symOperation = .algorithmChaining) (hcmd : CmdOf setup dp sync desc order proto)

include hop hcmd

lemma holds_cipherBlock_of_sameOutside {m' : Bytes}
    (hheld : Holds m (cipherOffset setup.hashSetupData desc.qatHashMode order) (cipherBlock desc key off))
    (hsame : SameOutside m m' (hashOffset setup.cipherSetupData order)
      (hashSize setup.hashSetupData desc.qatHashMode)) :
    Holds m' (cipherOffset setup.hashSetupData desc.qatHashMode order) (cipherBlock desc key off) := by
  refine hheld.of_sameOutside hsame ?_
  rw [hcmd.length_cipherBlock]
  exact (offsets_disjoint _ _ _ order).symm

lemma cipherKeyField_aead {size : ℕ} {arc4 : Bytes}
    (hu : Updatable caps setup) (hok : HashOk desc.qatHashMode setup.hashSetupData k)
    (haead : setup.hashSetupData.hashAlgorithm.isAead = true) : cipherKeyField (authSession setup.hashSetupData desc
        (chainFtr setup.cipherSetupData setup.hashSetupData desc.qatHashMode order) size arc4 proto phys
        m) = cipherOffset setup.hashSetupData desc.qatHashMode order + 8 := by
  have hcmdId : (authSession setup.hashSetupData desc (chainFtr setup.cipherSetupData
      setup.hashSetupData desc.qatHashMode order) size arc4 proto phys m).desc.laCmdId =
        chainCmdId order := hcmd.laCmdId hop
  unfold cipherKeyField
  rw [hcmdId]
  cases order
  · obtain ⟨-, -, htail⟩ := hu.aead hop haead
    rw [← hcmd.mode] at htail
    have hsz := hashSize_eq hok
    rw [htail] at hsz
    have hout := (hashCtrl_chainFtr setup.hashSetupData desc.qatHashMode (hu.ok.dvd (by simp [hop]))
      .hashThenCipher).outHashSetup
    rw [cipherOffset, hsz]
    exact congrArg (· + 8) (hout.trans (by simp [hashOffset]))
  · rfl

lemma read_cipherKey (haead : setup.cipherSetupData.cipherAlgorithm.IsAead)
    (hheld : Holds m off (cipherBlock desc setup.cipherSetupData.keyBytes off)) :
    read m (off + 8) desc.cipherKeyLenInBytes.toNat = setup.cipherSetupData.key := by
  obtain ⟨halg, hlen⟩ := hcmd.cipher
  have hkey : keySetup desc.cipherAlgorithm setup.cipherSetupData.keyBytes desc.cipherKeyLenInBytes.toNat =
      setup.cipherSetupData.key := by
    rw [halg, hlen]
    rcases haead with haead | haead <;> rw [haead] <;> rfl
  rw [cipherBlock, holds_append, holds_append, length_cipherConfig, hkey] at hheld
  have hread := hheld.2.1
  rw [Memory.Holds, CipherSetupData.key, length_read, ← hlen] at hread
  rw [hread, hlen]
  rfl

end

/-- **The key of the hash is replaced.** -/
theorem Represents.authKey (hr : Represents sw setup dp sync phys k s) (hu : Updatable caps setup)
    (hop : setup.symOperation ≠ .cipher) (hauth : setup.hashSetupData.hashMode = .auth)
    (hne : ¬ s.desc.isAead) (key : Bytes) :
    Represents sw (setup.withAuthKey (some key)) dp sync phys k (sessionAuthKeyUpdate sw key s) := by
  have hok := hr.hashOk hu hop
  obtain ⟨hklen, desc, order, proto, m, hcmd, rfl, hheld⟩ := hr
  obtain ⟨halg, hauth', hlen⟩ := hcmd.hash hop hauth
  have hmode := hcmd.mode hop
  rw [← hmode] at hok
  refine ⟨hklen, ?_⟩
  rcases hop' : setup.symOperation with _ | _ | _
  · exact absurd hop' hop
  · have haead := hu.isAead_of_hash hop'
    have henc : desc.isAuthEncryptOp = false := by simp [hcmd.isAuthEncryptOp, hop']
    simp only [contentDesc, hop'] at hheld
    obtain ⟨m', heq, hnew, -⟩ := authKeyUpdate_authSession
      (hashSize setup.hashSetupData desc.qatHashMode) (fun _ => 0) proto phys
      ⟨hok, hashCtrl_hashFtr, hmode, hauth, halg, hheld⟩ hauth' henc hlen haead key
    refine ⟨desc, order, proto, m', hcmd, ?_, ?_⟩
    · rw [sessionFor_hash _ hop', heq, sessionFor_hash (setup.withAuthKey (some key)) hop']
      rfl
    · simp only [contentDesc, SessionSetupData.withAuthKey, hop']
      exact hnew
  · obtain ⟨hcalg, -⟩ := hcmd.cipher
    have hcipher : ¬ setup.cipherSetupData.cipherAlgorithm.IsAead := by
      rw [← hcalg]
      rw [sessionFor_chain _ hop'] at hne
      exact hne
    have haead : setup.hashSetupData.hashAlgorithm.isAead = false :=
      eq_false_of_ne_true fun h => hcipher ((hu.isAead_iff hop').mp h)
    have henc : desc.isAuthEncryptOp = false := by
      rw [CipherAlgorithm.IsAead, not_or] at hcipher
      simp [hcmd.isAuthEncryptOp, hcipher]
    rw [holds_contentDesc_chain _ hop' hcmd hok] at hheld
    obtain ⟨m', heq, hnew, hsame⟩ := authKeyUpdate_authSession
      (hashSize setup.hashSetupData desc.qatHashMode + setup.cipherSetupData.size)
      (arc4State setup.cipherSetupData) proto phys ⟨hok, hashCtrl_chainFtr setup.hashSetupData desc.qatHashMode
        (hu.ok.dvd (by simp [hop'])) order, hmode, hauth, halg, hheld.1⟩ hauth' henc hlen haead key
    refine ⟨desc, order, proto, m', hcmd, ?_, ?_⟩
    · rw [sessionFor_chain _ hop', heq, sessionFor_chain (setup.withAuthKey (some key)) hop']
      cases order <;> rfl
    · rw [holds_contentDesc_chain (setup.withAuthKey (some key)) hop' hcmd (hok.withKey (some key))]
      exact ⟨hnew, holds_cipherBlock_of_sameOutside hop' hcmd hheld.2 hsame⟩

/-- **The key of an authenticated cipher is replaced in the states of its hash.** -/
theorem Represents.aeadKey (hr : Represents sw setup dp sync phys k s) (hu : Updatable caps setup)
    (hop : setup.symOperation = .algorithmChaining) (hne : s.desc.isAead) (key : Bytes) :
    Represents sw setup dp sync phys setup.cipherSetupData.key (sessionAuthKeyUpdate sw key s) := by
  have hok := hr.hashOk hu (by simp [hop])
  have hok' := hu.ok.hash (by simp [hop])
  obtain ⟨hklen, desc, order, proto, m, hcmd, rfl, hheld⟩ := hr
  have hmode := hcmd.mode
  rw [← hmode] at hok hok'
  have hcipher : setup.cipherSetupData.cipherAlgorithm.IsAead := by
    rw [sessionFor_chain _ hop] at hne
    rw [← hcmd.cipher.1]
    exact hne
  have haead := (hu.isAead_iff hop).mpr hcipher
  obtain ⟨hauth, -, -⟩ := hu.aead hop haead
  obtain ⟨halg, -, -⟩ := hcmd.hash (by simp [hop]) hauth
  rw [holds_contentDesc_chain _ hop hcmd hok] at hheld
  have hread := read_cipherKey hop hcmd hcipher hheld.2
  obtain ⟨m', heq, hnew, hsame⟩ := authKeyUpdate_aead
    (hashSize setup.hashSetupData desc.qatHashMode + setup.cipherSetupData.size)
    (arc4State setup.cipherSetupData) proto phys ⟨hok, hashCtrl_chainFtr setup.hashSetupData desc.qatHashMode
      (hu.ok.dvd (by simp [hop])) order, hmode, hauth, halg, hheld.1⟩ hok' (hcmd.aead hop hcipher).1 haead
    (by rw [cipherKeyField_aead hop hcmd hu hok haead]; exact hread) key
  refine ⟨length_read _ _ _, desc, order, proto, m', hcmd, ?_, ?_⟩
  · rw [sessionFor_chain _ hop, heq, sessionFor_chain _ hop]
  · rw [holds_contentDesc_chain _ hop hcmd hok']
    exact ⟨hnew, holds_cipherBlock_of_sameOutside hop hcmd hheld.2 hsame⟩

end QuickAssist.Sym
