import QuickAssist.Sym.Fresh

/-!
# What the checks of a session have said

The checks of `cpaCySymInitSession` make the blocks of a content descriptor what `Sym/Fresh.lean` needs them to be.
They leave out two things, `Contained`: a content descriptor has 256 bytes, but with AES in F8 mode a cipher block
alone has up to 264; and the key of CBC-MAC is checked only if it authenticates.
-/

namespace QuickAssist.Sym

open Lib Lib.Memory

/-! ## What the checks have said -/

lemma cipherSize_of_check {c : CipherSetupData} (hok : cipherSessionSetupDataCheck c = .ok ()) :
    EvenKey c.cipherAlgorithm c.cipherKeyLenInBytes.toNat ∧ 8 ∣ c.size ∧
      (c.size ≤ 200 ∨ c.cipherAlgorithm = .aesF8 ∧ c.cipherKeyLenInBytes = 64) := by
  obtain ⟨alg, len, key, dir⟩ := c
  unfold cipherSessionSetupDataCheck at hok
  dsimp only [CipherSetupData.size] at hok ⊢
  split at hok
  next hnull =>
    subst hnull
    exact ⟨fun h => absurd h (by decide), ⟨1, rfl⟩, Or.inl (Nat.le_add_right 8 192)⟩
  rw [bind_eq_ok] at hok
  obtain ⟨-, hok⟩ := hok
  cases alg <;> simp only [reject_eq_ok, not_and_or, not_not] at hok
  case none | null => cases hok
  case arc4 => exact ⟨fun h => absurd h (by decide), ⟨1, rfl⟩, Or.inl (Nat.le_add_right 8 192)⟩
  case aesF8 | aesEcb | aesCbc | aesCtr | aesGcm =>
    rcases hok with rfl | rfl | rfl <;> exact ⟨by unfold EvenKey; decide, by decide, by decide⟩
  case aesXts => rcases hok with rfl | rfl <;> exact ⟨fun h => absurd h (by decide), by decide, by decide⟩
  all_goals
    subst hok
    exact ⟨fun h => absurd h (by decide), by decide, by decide⟩

structure HashChecked (h : HashSetupData) : Prop where
  some : h.hashAlgorithm ≠ .none
  mode : h.hashMode ≠ .none
  supported : h.hashAlgorithm.modeNotSupported h.hashMode = false
  auth : h.hashMode = .auth → h.hashAlgorithm = .aesXcbc ∨ h.hashAlgorithm = .aesCmac ∨
    h.hashAlgorithm = .kasumiF9 ∨ h.hashAlgorithm = .snow3gUia2 ∨ h.hashAlgorithm = .zucEia3 →
      h.authKeyLenInBytes = 16
  outer : h.hashMode = .nested → h.outerHashAlgorithm ≠ .none ∧ h.outerHashAlgorithm.modeNotSupported .nested = false

variable {h : HashSetupData}

lemma hashChecked_of_check {caps : Capabilities} (hok : hashContextCheck caps h = .ok ()) : HashChecked h := by
  unfold hashContextCheck at hok
  rw [bind_eq_ok, bind_eq_ok, bind_eq_ok, bind_eq_ok, reject_eq_ok, reject_eq_ok, reject_eq_ok] at hok
  obtain ⟨hcaps, hmode, hsupp, -, hrest⟩ := hok
  refine ⟨?_, hmode, eq_false_of_ne_true hsupp, fun hauth halg => ?_, fun hnested => ?_⟩
  · rintro hnone
    exact hcaps ⟨by rw [hnone]; exact Bool.false_ne_true, by rw [hnone]; nofun⟩
  · rw [hauth] at hrest
    unfold authModeCheck at hrest
    rcases halg with halg | halg | halg | halg | halg <;> rw [halg] at hrest <;>
      simp only [bind_eq_ok, reject_eq_ok, not_not] at hrest <;> exact hrest.1
  · rw [hnested] at hrest
    unfold nestedModeCheck at hrest
    rw [bind_eq_ok, bind_eq_ok, reject_eq_ok, reject_eq_ok, hnested] at hrest
    obtain ⟨hcaps', hsupp', -⟩ := hrest
    refine ⟨?_, eq_false_of_ne_true hsupp'⟩
    rintro hnone
    exact hcaps' (by rw [hnone]; exact Bool.false_ne_true)

lemma hashOk_of_checked {cipherKey : Octets} (hc : HashChecked h)
    (hcbc : h.hashAlgorithm = .aesCbcMac → h.authKeyLenInBytes.toNat ≤ 32)
    (hccm : h.hashAlgorithm = .aesCcm → cipherKey.length = 16) : HashOk (qatHashModeOf h) h cipherKey := by
  obtain ⟨hsome, hmode, hsupp, hauth, houter⟩ := hc
  have hauthMode (halg : h.hashAlgorithm = .aesXcbc ∨ h.hashAlgorithm = .aesCmac ∨
      h.hashAlgorithm = .kasumiF9 ∨ h.hashAlgorithm = .snow3gUia2 ∨ h.hashAlgorithm = .zucEia3) :
      h.hashMode = .auth := by
    rcases halg with halg | halg | halg | halg | halg <;> rw [halg] at hsupp <;>
      simpa [HashAlgorithm.modeNotSupported] using hsupp
  refine ⟨fun h2 => ⟨hsome, ?_⟩, fun h2 => ?_, fun halg => ?_, ⟨fun halg => ?_, ?_, hccm⟩, fun halg => ?_,
    fun halg => ?_, fun hnested => ?_⟩
  · rintro hsha3
    revert h2
    unfold qatHashModeOf
    rw [hsha3]
    cases hm : h.hashMode <;> simp [hasState2, HashAlgorithm.isHmacAlg]
  · revert hsome hsupp h2
    unfold qatHashModeOf
    cases h.hashAlgorithm <;> cases h.hashMode <;> decide
  · unfold qatHashModeOf
    rw [halg]
    revert hmode
    cases h.hashMode <;> decide
  · rw [length_key, hauth (hauthMode halg) halg]
    rfl
  · intro halg
    rw [length_key]
    exact hcbc halg
  · have hm := hauthMode (by simp [halg])
    refine ⟨?_, hauth hm (by simp [halg])⟩
    simp [qatHashModeOf, doNested, hm, halg, HashAlgorithm.isHmacAlg]
  · have hm := hauthMode (by simp [halg])
    refine ⟨?_, hauth hm (by simp [halg])⟩
    simp [qatHashModeOf, doNested, hm, halg, HashAlgorithm.isHmacAlg]
  · by_cases hm : h.hashMode = .nested
    · obtain ⟨hne, hs⟩ := houter hm
      rw [outerAlgorithm, if_pos hm]
      revert hne hs
      cases h.outerHashAlgorithm <;> decide
    · -- two passes without a nested hash are SHA3
      have hsha3 : h.hashAlgorithm = .sha3_256 := by
        revert hnested hm
        unfold qatHashModeOf doNested
        cases h.hashAlgorithm <;> cases h.hashMode <;> decide
      rw [outerAlgorithm, if_neg hm, hsha3]
      rfl

/-! ## The condition -/

/-- AES-128 in CBC mode with HMAC-SHA1 that is not verified: the chains that have an optimised content
descriptor. -/
def SessionSetupData.UsesOptimised (setup : SessionSetupData) : Prop :=
  setup.symOperation = .algorithmChaining ∧ setup.cipherSetupData.cipherAlgorithm = .aesCbc ∧
    setup.cipherSetupData.cipherKeyLenInBytes ≤ 16 ∧ setup.hashSetupData.hashAlgorithm = .sha1 ∧
    setup.hashSetupData.hashMode = .auth ∧ setup.verifyDigest = false

def hashRoom (h : HashSetupData) : ℕ :=
  16 + statesSize (qatHashModeOf h) h.hashAlgorithm +
    if doNested (qatHashModeOf h) h.hashMode then 16 + alignQuadword (outerAlgorithm h).stateSize else 0

structure SessionSetupData.Contained (setup : SessionSetupData) : Prop where
  f8 : setup.symOperation = .algorithmChaining → setup.cipherSetupData.cipherAlgorithm = .aesF8 →
    8 + 4 * setup.cipherSetupData.cipherKeyLenInBytes.toNat + hashRoom setup.hashSetupData ≤ contentDescMaxSize
  cbcMac : setup.symOperation ≠ .cipher → setup.hashSetupData.hashAlgorithm = .aesCbcMac →
    setup.hashSetupData.authKeyLenInBytes.toNat ≤ 32

/-- Behind the block of AES in F8 mode with its longest key, the second state of CMAC reaches `symOperation`. -/
def SessionSetupData.Overlaps (setup : SessionSetupData) : Prop :=
  setup.symOperation = .algorithmChaining ∧ setup.hashSetupData.hashAlgorithm = .aesCmac ∧
    setup.algChainOrder = .cipherThenHash ∧ setup.cipherSetupData.cipherAlgorithm = .aesF8 ∧
    setup.cipherSetupData.cipherKeyLenInBytes = 64

lemma SessionSetupData.Contained.not_overlaps {setup : SessionSetupData} (hc : setup.Contained) :
    ¬ setup.Overlaps := by
  rintro ⟨hop, -, -, hf8, hlen⟩
  have hend := hc.f8 hop hf8
  rw [hlen] at hend
  exact absurd (Nat.le_trans (Nat.le_add_right _ _) hend) (by decide)

section

variable {caps : Capabilities} {setup : SessionSetupData} {dp sync : Bool} {desc : SessionDesc}
  {order : AlgChainOrder} {proto : Proto}

lemma setupOk_of_checks (hparam : sessionParamCheck caps setup = .ok ()) (hcipher : setup.symOperation ≠ .hash →
      cipherSessionSetupDataCheck setup.cipherSetupData = .ok ())
    (hhash : setup.symOperation ≠ .cipher → hashContextCheck caps setup.hashSetupData = .ok ())
    (hcbc : setup.symOperation ≠ .cipher → setup.hashSetupData.hashAlgorithm = .aesCbcMac →
      setup.hashSetupData.authKeyLenInBytes.toNat ≤ 32) (hroom : ¬ setup.Overlaps) : SetupOk setup := by
  refine ⟨fun hop => (cipherSize_of_check (hcipher hop)).1,
    fun hop => (cipherSize_of_check (hcipher hop)).2.1, fun hop => ?_, fun hop hzuc => ?_, fun hop hcmac => ?_⟩
  · refine hashOk_of_checked (hashChecked_of_check (hhash hop)) (hcbc hop) fun hccm => ?_
    rcases hop' : setup.symOperation with _ | _ | _
    · exact absurd hop' hop
    · -- a hash alone is not CCM
      simp [sessionParamCheck, hop', hccm, bind_eq_ok] at hparam
    · have hcip : setup.cipherSetupData.cipherAlgorithm = .aesCcm := by
        simp only [sessionParamCheck, hop', bind_eq_ok, reject_eq_ok, not_mismatched] at hparam
        simpa [hccm] using hparam.1
      have hlen := hcipher (by simp [hop'])
      rw [cipherSessionSetupDataCheck, if_neg (by simp [hcip]), bind_eq_ok, hcip] at hlen
      simp only [reject_eq_ok, not_not] at hlen
      rw [CipherSetupData.key, length_read, hlen.2]
      rfl
  · simp only [sessionParamCheck, hop, bind_eq_ok, reject_eq_ok, not_mismatched] at hparam
    simpa [hzuc] using hparam.2.2.2.2
  · rcases (cipherSize_of_check (hcipher (by simp [hop]))).2.2 with hsize | ⟨hf8, hlen⟩
    · exact Or.inl (Nat.add_le_add_right hsize 80 |>.trans (by decide))
    · refine Or.inr ⟨hf8, ?_⟩
      cases horder : setup.algChainOrder
      · rfl
      · exact absurd ⟨hop, hcmac, horder, hf8, hlen⟩ hroom

def chainCmdId : AlgChainOrder → LaCmdId
  | .cipherThenHash => .cipherHash
  | .hashThenCipher => .hashCipher

lemma buildCmdData_laCmdId (order : AlgChainOrder) (hop : desc.symOperation = .algorithmChaining) :
    (buildCmdData desc order).1.laCmdId = chainCmdId (buildCmdData desc order).2.1 := by
  simp only [buildCmdData, hop]
  split_ifs <;> rfl

lemma CmdOf.laCmdId (hcmd : CmdOf setup dp sync desc order proto)
    (hop : setup.symOperation = .algorithmChaining) : desc.laCmdId = chainCmdId order := by
  have hop' : (sessionDescOf setup dp sync).symOperation = .algorithmChaining := hop
  have hcmdId := buildCmdData_laCmdId setup.algChainOrder hop'
  rwa [hcmd] at hcmdId

lemma use_eq_false_of_chain (hop : setup.symOperation = .algorithmChaining)
    (hcmd : CmdOf setup dp sync desc order proto) (hmode : setup.hashSetupData.hashMode ≠ .none)
    (hne : ¬ setup.UsesOptimised) : (useSymConstantsTable desc).use = false := by
  by_cases hopt : useOptimisedContentDesc desc = true
  · obtain ⟨cmd, enc, verify, heq⟩ := hcmd.fields
    have hfields : desc.cipherAlgorithm = setup.cipherSetupData.cipherAlgorithm ∧
        desc.cipherKeyLenInBytes = setup.cipherSetupData.cipherKeyLenInBytes ∧
        desc.hashAlgorithm = setup.hashSetupData.hashAlgorithm ∧
        desc.qatHashMode = qatHashModeOf setup.hashSetupData := by
      rw [heq]
      simp [sessionDescOf, hop]
    simp only [useOptimisedContentDesc, hfields, Bool.and_eq_true, decide_eq_true_eq] at hopt
    obtain ⟨⟨⟨halg, hlen⟩, hsha⟩, hmode1⟩ := hopt
    have hauth : setup.hashSetupData.hashMode = .auth := by
      revert hmode hmode1
      unfold qatHashModeOf
      rw [hsha]
      cases setup.hashSetupData.hashMode <;> decide
    have hverify : desc.digestVerify = true := by
      have hset : desc.digestVerify = setup.verifyDigest := by
        simp only [CmdOf, buildCmdData, sessionDescOf, hop, halg] at hcmd
        cases hcmd
        rfl
      rw [hset]
      exact eq_true_of_ne_false fun hv => hne ⟨hop, halg, hlen, hsha, hauth, hv⟩
    -- a digest that is verified is not looked up in the table
    unfold useSymConstantsTable
    simp only [hashConstants, hverify, if_true]
    rw [hcmd.laCmdId hop]
    cases order <;> simp only [chainCmdId] <;> split_ifs <;> rfl
  · unfold useSymConstantsTable
    simp only [hopt]
    rw [hcmd.laCmdId hop]
    cases order <;> rfl

lemma use_eq_false_of_hash (hop : setup.symOperation = .hash)
    (hcmd : CmdOf setup dp sync desc order proto) (hauth : setup.hashSetupData.hashMode = .auth)
    (hne : setup.hashSetupData.hashAlgorithm ≠ .none) : (useSymConstantsTable desc).use = false := by
  have hdesc : desc.laCmdId = .auth ∧ desc.hashAlgorithm = setup.hashSetupData.hashAlgorithm ∧
      desc.qatHashMode = qatHashModeOf setup.hashSetupData ∧ desc.hashMode = .auth := by
    simp only [CmdOf, buildCmdData, hop, sessionDescOf] at hcmd
    cases hcmd
    exact ⟨rfl, rfl, rfl, hauth⟩
  obtain ⟨hcmdId, halg, hmode, hauth'⟩ := hdesc
  simp only [useSymConstantsTable, hcmdId, hashConstants, halg, hmode, hauth']
  split_ifs with hverify hmode1
  · rfl
  · rfl
  · revert hne hmode1
    unfold qatHashModeOf
    rw [hauth]
    cases setup.hashSetupData.hashAlgorithm <;> decide

end

end QuickAssist.Sym
