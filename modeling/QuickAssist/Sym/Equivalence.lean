import QuickAssist.Lib.Run
import QuickAssist.Sym.DirectionUpdate

/-!
# Updated sessions and fresh ones

`cpaCySymUpdateSession` writes over parts of what `sessionInit` has built. Is the session then what it would be if it
had been initialised with the new keys and the new direction? `updated_forms_eq`: it is, if it does not use the
optimised content descriptor and its blocks are contained.

**The defect.** A chain of AES-128 in CBC mode and HMAC-SHA1 has a second template, which refers to the table of
constants in the device and to the optimised content descriptor. Requests for full packets are made from it. An update
writes to neither of them (`not_updated_forms_eq`).
-/

namespace QuickAssist.Sym

open Lib Lib.Memory Option

variable {caps : Capabilities} {sw : OsalCrypto} {setup : SessionSetupData} {dp sync : Bool} {phys : U64}
  {k : Octets} {s s' : Session} {u : SessionUpdateData} {order : AlgChainOrder} {proto : Proto}

/-! ## Updates -/

section

variable (hr : Represents sw setup dp sync phys k s)

include hr

lemma Represents.isAead_iff (hu : Updatable caps setup) :
    s.desc.isAead ↔ setup.symOperation = .algorithmChaining ∧ setup.hashSetupData.hashAlgorithm.isAead = true := by
  obtain ⟨-, desc, order, proto, m, hcmd, rfl, -⟩ := hr
  rw [desc_sessionFor]
  have hparam := hu.param
  rcases hop : setup.symOperation with _ | _ | _
  · obtain ⟨halg, -⟩ := hcmd.cipher
    simp only [sessionParamCheck, hop, bind_eq_ok, reject_eq_ok, not_or] at hparam
    simp [SessionDesc.isAead, halg, hparam]
  · simp [SessionDesc.isAead, hcmd.cipherAlgorithm_of_hash hop]
  · obtain ⟨halg, -⟩ := hcmd.cipher
    rw [hu.isAead_iff hop, SessionDesc.isAead, halg]
    simp [CipherAlgorithm.IsAead]

lemma Represents.desc : s.desc.symOperation = setup.symOperation ∧
      s.desc.isAuth = decide (setup.symOperation ≠ .cipher) ∧
      (setup.symOperation ≠ .cipher → s.desc.hashMode = setup.hashSetupData.hashMode) := by
  obtain ⟨-, desc, order, proto, m, hcmd, rfl, -⟩ := hr
  rw [desc_sessionFor]
  obtain ⟨cmd, enc, verify, rfl⟩ := hcmd.fields
  refine ⟨rfl, rfl, fun hop => ?_⟩
  simp [sessionDescOf, hop]

omit hr in
lemma hashBlock_of_not_aead (sw : OsalCrypto) (mode : QatHashMode) {h : HashSetupData}
    (halg : h.hashAlgorithm.isAead = false) (a b : Octets) : hashBlock sw mode h a = hashBlock sw mode h b := by
  have hstate2 : state2Of sw h.hashAlgorithm h.key a h.aadLenInBytes =
      state2Of sw h.hashAlgorithm h.key b h.aadLenInBytes := by
    revert halg
    cases h.hashAlgorithm <;> first | (intro; rfl) | (intro halg; cases halg)
  simp only [hashBlock, hashStates, hstate2]

lemma Represents.of_not_aead (hu : Updatable caps setup)
    (hne : ¬ s.desc.isAead) : Represents sw setup dp sync phys setup.cipherSetupData.key s := by
  have haead := mt (hr.isAead_iff hu).mpr hne
  obtain ⟨-, desc, order, proto, m, hcmd, heq, hheld⟩ := hr
  refine ⟨length_read _ _ _, desc, order, proto, m, hcmd, heq, ?_⟩
  by_cases hop : setup.symOperation = .cipher
  · simpa only [contentDesc, hop] using hheld
  · have halg : setup.hashSetupData.hashAlgorithm.isAead = false := by
      rcases hop' : setup.symOperation with _ | _ | _
      · exact absurd hop' hop
      · exact hu.isAead_of_hash hop'
      · exact eq_false_of_ne_true fun h => haead ⟨hop', h⟩
    have hblock := hashBlock_of_not_aead sw desc.qatHashMode halg setup.cipherSetupData.key k
    simpa only [contentDesc, hblock] using hheld

end

lemma sessionUpdateCheck_eq_ok {desc : SessionDesc} (hok : sessionUpdateCheck desc u = .ok ()) :
    (u.hasCipherKey → ∃ key, u.pCipherKey = some key) ∧
      (u.hasAuthKey → (∃ key, u.authKey = some key) ∧ desc.symOperation ≠ .cipher ∧
        desc.hashMode = .auth ∧ ¬ desc.isAead) ∧ (u.hasDirection → desc.symOperation ≠ .hash) := by
  simp only [sessionUpdateCheck, bind_eq_ok, reject_eq_ok, refuse_eq_ok, not_and, not_not] at hok
  obtain ⟨-, hkey, -, hauth, hmode, hcipher, haead, hdir⟩ := hok
  refine ⟨fun h => ?_, fun h => ⟨?_, hcipher h, hmode h (hcipher h), haead h⟩, hdir⟩
  · have := hkey h
    rwa [isNone_iff_eq_none, ← ne_eq, ne_none_iff_exists'] at this
  · have := hauth h
    rwa [isNone_iff_eq_none, ← ne_eq, ne_none_iff_exists'] at this

section

variable (hr : Represents sw setup dp sync phys setup.cipherSetupData.key s)

include hr

lemma Represents.keys (hu : Updatable caps setup) (hcheck : sessionUpdateCheck s.desc u = .ok ()) {s₁ : Session}
    (hs : (if u.hasCipherKey then sessionCipherKeyUpdate (keyBytes u.pCipherKey) s else .ok s) = .ok s₁) :
    let setup' := if u.hasCipherKey then setup.withCipherKey u.pCipherKey else setup
    let setup'' := if u.hasAuthKey then setup'.withAuthKey u.authKey else setup'
    let aead := u.hasCipherKey ∧ s.desc.isAead
    let key := if aead then u.pCipherKey else u.authKey
    Updatable caps setup'' ∧ Represents sw setup'' dp sync phys setup''.cipherSetupData.key
        (if (aead ∨ u.hasAuthKey) ∧ s.desc.isAuth then sessionAuthKeyUpdate sw (keyBytes key) s₁
        else s₁) := by
  intro setup' setup'' aead key
  obtain ⟨hkey, hauth, -⟩ := sessionUpdateCheck_eq_ok hcheck
  obtain ⟨hop, hisAuth, hmode⟩ := hr.desc
  have haead := hr.isAead_iff hu
  -- the key of the cipher comes first
  have hfirst : Updatable caps setup' ∧ Represents sw setup' dp sync phys setup.cipherSetupData.key s₁ := by
    simp only [setup']
    split at hs
    next hc =>
      obtain ⟨new, hnew⟩ := hkey hc
      rw [if_pos hc, hnew]
      rw [hnew] at hs
      exact ⟨hu.withCipherKey new, hr.cipherKey hu hs⟩
    next hc =>
      rw [if_neg hc]
      exact ⟨hu, Except.ok.inj hs ▸ hr⟩
  obtain ⟨hu', hr'⟩ := hfirst
  have hsame : setup'.symOperation = setup.symOperation ∧ setup'.hashSetupData = setup.hashSetupData := by
    simp only [setup']
    split <;> exact ⟨rfl, rfl⟩
  have haead' : s₁.desc.isAead ↔ s.desc.isAead := by
    rw [hr'.isAead_iff hu', haead, hsame.1, hsame.2]
  by_cases hA : aead
  · -- the states of an authenticated cipher follow its key
    have hnauth : ¬ u.hasAuthKey := fun h => (hauth h).2.2.2 hA.2
    have hchain := (haead.mp hA.2).1
    have hcond : (aead ∨ u.hasAuthKey) ∧ s.desc.isAuth = true := ⟨.inl hA, by simp [hisAuth, hchain]⟩
    have hsetup : setup'' = setup' := if_neg hnauth
    rw [if_pos hcond, hsetup]
    exact ⟨hu', hr'.aeadKey hu' (hsame.1.trans hchain) (haead'.mpr hA.2) _⟩
  · by_cases hauthKey : u.hasAuthKey
    · obtain ⟨⟨new, hnew⟩, hcipher, hm, hne⟩ := hauth hauthKey
      rw [hop] at hcipher
      have hcond : (aead ∨ u.hasAuthKey) ∧ s.desc.isAuth = true := ⟨.inr hauthKey, by simp [hisAuth, hcipher]⟩
      have hsetup : setup'' = setup'.withAuthKey (some new) := by
        simp only [setup'', if_pos hauthKey, hnew]
      have hkeyEq : key = some new := (if_neg hA).trans hnew
      have hmode' : setup'.hashSetupData.hashMode = .auth := by
        rw [hsame.2, ← hmode hcipher]
        exact hm
      rw [if_pos hcond, hsetup, hkeyEq]
      have hu'' := hu'.withAuthKey new
      have hr'' := hr'.authKey hu' (hsame.1 ▸ hcipher) hmode' (mt haead'.mp hne) new
      refine ⟨hu'', hr''.of_not_aead hu'' ?_⟩
      rw [hr''.isAead_iff hu'']
      rw [haead, ← hsame.1, ← hsame.2] at hne
      exact hne
    · have hcond : ¬ ((aead ∨ u.hasAuthKey) ∧ s.desc.isAuth = true) := by
        rintro ⟨h | h, -⟩
        · exact hA h
        · exact hauthKey h
      have hsetup : setup'' = setup' := if_neg hauthKey
      rw [if_neg hcond, hsetup]
      refine ⟨hu', ?_⟩
      by_cases hc : u.hasCipherKey
      · exact hr'.of_not_aead hu' fun h => hA ⟨hc, haead'.mp h⟩
      · have hold : setup' = setup := if_neg hc
        rw [hold] at hr' ⊢
        exact hr'

omit hr in
lemma sessionUpdate_eq_ok (hs : sessionUpdate sw u s = .ok s') :
    ∃ s₁, (if u.hasCipherKey then sessionCipherKeyUpdate (keyBytes u.pCipherKey) s else .ok s) = .ok s₁ ∧
      (let aead := u.hasCipherKey ∧ s.desc.isAead
      let key := if aead then u.pCipherKey else u.authKey
      let s₂ := if (aead ∨ u.hasAuthKey) ∧ s.desc.isAuth then sessionAuthKeyUpdate sw (keyBytes key) s₁ else s₁
      if u.hasDirection then sessionDirectionUpdate u.cipherDirection s₂ else .ok s₂) = .ok s' := by
  unfold sessionUpdate at hs
  dsimp only at hs ⊢
  split at hs
  next hc =>
    rw [bind_value_eq_ok] at hs
    simpa only [if_pos hc] using hs
  next hc =>
    rw [bind_value_eq_ok] at hs
    simpa only [if_neg hc] using hs

/-- **One update.** -/
theorem Represents.update
    (hu : Updatable caps setup) {inUse : Bool} (hs : cpaCySymUpdateSession sw u inUse s = .ok s') :
    Updatable caps (setup.update u) ∧
      Represents sw (setup.update u) dp sync phys (setup.update u).cipherSetupData.key s' := by
  unfold cpaCySymUpdateSession at hs
  rw [bind_eq_ok, bind_eq_ok, bind_eq_ok] at hs
  obtain ⟨-, hcheck, -, hs⟩ := hs
  obtain ⟨s₁, hs₁, hs⟩ := sessionUpdate_eq_ok hs
  obtain ⟨hu', hr'⟩ := hr.keys hu hcheck hs₁
  have hdir := (sessionUpdateCheck_eq_ok hcheck).2.2
  rw [hr.desc.1] at hdir
  unfold SessionSetupData.update
  dsimp only at hs ⊢
  split at hs
  next hd =>
    rw [if_pos hd]
    refine ⟨hu'.withDirection _, hr'.direction hu' ?_ hs⟩
    have hop := hdir hd
    split <;> split <;> exact hop
  next hd =>
    rw [if_neg hd]
    exact ⟨hu', Except.ok.inj hs ▸ hr'⟩

end

/-! ## Forms -/

section

variable {desc : SessionDesc}

def contentSize (setup : SessionSetupData) (desc : SessionDesc) : ℕ :=
  let c := setup.cipherSetupData
  let cipher := c.size
  let hash := hashSize setup.hashSetupData desc.qatHashMode
  match setup.symOperation with
  | .cipher => cipher
  | .hash => hash
  | .algorithmChaining => hash + cipher

lemma length_contentDesc (sw : OsalCrypto) (hu : Updatable caps setup) (hcmd : CmdOf setup dp sync desc order proto)
    (hk : k.length = setup.cipherSetupData.cipherKeyLenInBytes.toNat) :
    (contentDesc sw setup desc order k).length = contentSize setup desc := by
  have hhash (hop : setup.symOperation ≠ .cipher) : (hashBlock sw desc.qatHashMode setup.hashSetupData k).length =
        hashSize setup.hashSetupData desc.qatHashMode := by
    rw [hcmd.mode hop]
    exact length_hashBlock_eq sw ((hu.ok.hash hop).congr (hk.trans (length_read _ _ _).symm))
  rcases hop : setup.symOperation with _ | _ | _
  · simp only [contentDesc, contentSize, hop]
    exact hcmd.length_cipherBlock _ _
  · simp only [contentDesc, contentSize, hop]
    exact hhash (by simp [hop])
  · have hc (off : ℕ) := hcmd.length_cipherBlock setup.cipherSetupData.keyBytes off
    have hh := hhash (by simp [hop])
    cases order <;> simp only [contentDesc, contentSize, hop, List.length_append, hc] <;> omega

lemma dvd_contentSize (hu : Updatable caps setup) (hcmd : CmdOf setup dp sync desc order proto) :
    8 ∣ contentSize setup desc := by
  have hhash (hop : setup.symOperation ≠ .cipher) : 8 ∣ hashSize setup.hashSetupData desc.qatHashMode := by
    rw [hcmd.mode hop]
    exact dvd_hashSize (hu.ok.hash hop)
  rcases hop : setup.symOperation with _ | _ | _
  · simp only [contentSize, hop]
    exact hu.ok.dvd (by simp [hop])
  · simp only [contentSize, hop]
    exact hhash (by simp [hop])
  · simp only [contentSize, hop]
    exact Nat.dvd_add (hhash (by simp [hop])) (hu.ok.dvd (by simp [hop]))

lemma forms_sessionFor (m : Bytes) : (sessionFor setup desc order proto phys m).forms =
    { (sessionFor setup desc order proto phys fun _ => 0).forms with
      contentDesc := read m 0 (bytesToQuadwords (contentSize setup desc) * 8) } := by
  rcases hop : setup.symOperation with _ | _ | _
  · rw [sessionFor_cipher _ hop, sessionFor_cipher _ hop]
    simp only [contentSize, hop, cipherSession]
    split <;> rfl
  · rw [sessionFor_hash _ hop, sessionFor_hash _ hop]
    simp only [contentSize, hop]
    rfl
  · rw [sessionFor_chain _ hop, sessionFor_chain _ hop]
    simp only [contentSize, hop]
    rfl

/-- **Sessions that stand for the same setup data make the same requests.** -/
theorem Represents.forms_eq (hu : Updatable caps setup) (hr : Represents sw setup dp sync phys k s)
    (hr' : Represents sw setup dp sync phys k s') : s.forms = s'.forms := by
  obtain ⟨hk, desc, order, proto, m, hcmd, rfl, hheld⟩ := hr
  obtain ⟨-, desc', order', proto', m', hcmd', rfl, hheld'⟩ := hr'
  obtain ⟨rfl, rfl, rfl⟩ : desc = desc' ∧ order = order' ∧ proto = proto' := by
    simpa using hcmd.symm.trans hcmd'
  have hread (m : Bytes) (hheld : Holds m 0 (contentDesc sw setup desc order k)) :
      read m 0 (bytesToQuadwords (contentSize setup desc) * 8) = contentDesc sw setup desc order k := by
    rw [bytesToQuadwords_mul (dvd_contentSize hu hcmd), ← length_contentDesc sw hu hcmd hk]
    exact hheld
  rw [forms_sessionFor m, forms_sessionFor m', hread m hheld, hread m' hheld']

/-! ## Runs -/

def updateStep (sw : OsalCrypto) (s : Session) (e : SessionUpdateData × Bool) (s' : Session) : Prop :=
  cpaCySymUpdateSession sw e.1 e.2 s = .ok s'

def SessionSetupData.updates (setup : SessionSetupData) (es : List (SessionUpdateData × Bool)) : SessionSetupData :=
  es.foldl (fun setup e => setup.update e.1) setup

/-- **A run of updates.** -/
theorem Represents.run {es : List (SessionUpdateData × Bool)} (hrun : Run (updateStep sw) s es s') :
    ∀ {setup : SessionSetupData}, Updatable caps setup →
      Represents sw setup dp sync phys setup.cipherSetupData.key s → Updatable caps (setup.updates es) ∧
          Represents sw (setup.updates es) dp sync phys (setup.updates es).cipherSetupData.key s' := by
  induction hrun with
  | nil => exact fun hu hr => ⟨hu, hr⟩
  | cons hstep _ ih =>
    intro setup hu hr
    obtain ⟨hu', hr'⟩ := hr.update hu hstep
    exact ih hu' hr'

lemma hashCDBuild_desc (h : HashSetupData) (next : Slice) (hashOffset offset : ℕ) (s : Session) :
    (hashCDBuild h next hashOffset offset s).1.desc = s.desc := by
  simp only [hashCDBuild]
  split
  · rfl
  · split <;> rfl

lemma initHash_desc (sw : OsalCrypto) (setup : SessionSetupData) (s : Session) :
    (initHash sw setup s).desc = s.desc := by
  have hstates (s : Session) : (initStates sw setup s).desc = s.desc := by
    simp only [initStates]
    repeat' split
    all_goals rfl
  simp only [initHash, hstates]
  repeat' split
  all_goals rfl

lemma buildSession_desc_hash (sw : OsalCrypto) (dp sync : Bool) (phys : U64) (hop : setup.symOperation = .hash) :
    (buildSession sw setup dp sync phys).desc.symOperation = .hash ∧
      (buildSession sw setup dp sync phys).desc.hashMode = setup.hashSetupData.hashMode := by
  obtain ⟨desc, order, proto, hcmd⟩ : ∃ desc order proto, CmdOf setup dp sync desc order proto := ⟨_, _, _, rfl⟩
  have hdesc : (buildSession sw setup dp sync phys).desc = desc := by
    unfold buildSession
    rw [hcmd]
    simp only [buildBlocks, hop, initHeaders]
    split
    · rw [initHash_desc, hashCDBuild_desc]
      rfl
    · rw [hashCDBuild_desc]
      rfl
  obtain ⟨cmd, enc, verify, heq⟩ := hcmd.fields
  rw [hdesc, heq]
  simp [sessionDescOf, hop]

lemma flags_cases (hpos : ¬ u.flags < 1) (hlt : ¬ 8 ≤ u.flags) : u.hasCipherKey ∨ u.hasDirection ∨ u.hasAuthKey := by
  have hbits : ∀ n < 8, ¬ BitVec.ofNat 32 n < 1 → 1 &&& BitVec.ofNat 32 n ≠ 0 ∨
      2 &&& BitVec.ofNat 32 n ≠ 0 ∨ 4 &&& BitVec.ofNat 32 n ≠ 0 := by decide
  have hsmall : u.flags.toNat < 8 := by
    exact Nat.lt_of_not_le hlt
  have h := hbits u.flags.toNat hsmall
  rw [BitVec.ofNat_toNat, BitVec.setWidth_eq] at h
  exact h hpos

lemma not_sessionUpdateCheck
    (hop : desc.symOperation = .hash) (hmode : desc.hashMode ≠ .auth) : sessionUpdateCheck desc u ≠ .ok () := by
  intro hok
  simp only [sessionUpdateCheck, bind_eq_ok, reject_eq_ok, refuse_eq_ok, not_or, not_and] at hok
  obtain ⟨⟨hpos, hlt⟩, -, hkey, -, hauth, -, -, hdir⟩ := hok
  rcases flags_cases hpos hlt with h | h | h
  · exact hkey h hop
  · exact hdir h hop
  · exact hauth h (by simp [hop]) hmode

/-- **Updated sessions are fresh ones:** all that a request can be made from is what it would be after an
initialisation with the new keys and direction. -/
theorem updated_forms_eq (sw : OsalCrypto) (caps : Capabilities) (setup : SessionSetupData)
    (dp sync : Bool) (phys : U64) {s₀ s : Session} {es : List (SessionUpdateData × Bool)}
    (hinit : sessionInit sw caps setup dp sync phys = .ok s₀) (hopt : ¬ setup.UsesOptimised)
    (hcontained : setup.Contained) (hrun : Run (updateStep sw) s₀ es s) :
    ∃ s', sessionInit sw caps (setup.updates es) dp sync phys = .ok s' ∧ s.forms = s'.forms := by
  have hinit' := hinit
  unfold sessionInit at hinit
  rw [bind_value_eq_ok] at hinit
  obtain ⟨desc, hpop, hs₀⟩ := hinit
  cases hs₀
  obtain ⟨hparam, hcipher, hhash, -⟩ := populateSession_eq_ok.mp hpop
  by_cases hplain : setup.symOperation = .hash ∧ setup.hashSetupData.hashMode ≠ .auth
  · -- no update succeeds
    cases hrun with
    | nil => exact ⟨_, hinit', rfl⟩
    | cons hstep _ =>
      obtain ⟨hop, hmode⟩ := buildSession_desc_hash sw dp sync phys hplain.1
      unfold updateStep cpaCySymUpdateSession at hstep
      rw [bind_eq_ok, bind_eq_ok] at hstep
      exact absurd hstep.2.1 (not_sessionUpdateCheck hop (hmode ▸ hplain.2))
  · have hu : Updatable caps setup :=
      ⟨hparam, hcipher, hhash, fun hop => not_not.mp fun h => hplain ⟨hop, h⟩, hcontained.cbcMac, hopt,
        hcontained.not_overlaps⟩
    obtain ⟨hu', hr⟩ := Represents.run hrun hu (represents_buildSession hu)
    refine ⟨buildSession sw (setup.updates es) dp sync phys, ?_, hr.forms_eq hu' (represents_buildSession hu')⟩
    unfold sessionInit
    rw [bind_value_eq_ok]
    exact ⟨_, populateSession_eq_ok.mpr ⟨hu'.param, hu'.cipher, hu'.hash, rfl⟩, rfl⟩

end

/-! ## The optimised content descriptor -/

/-- SHA-1 at the two blocks of a key of zeroes, with words in the byte order of the host, and AES where the sessions
below use it. -/
def hostCrypto : OsalCrypto where
  hash alg block :=
    let state : Octets :=
      if block = List.replicate 64 0x36 then
        [0x57, 0xbd, 0xf7, 0xc9, 0x3b, 0xd7, 0x1b, 0x62, 0xd1, 0xea, 0x0f, 0xea, 0x32, 0xa1, 0xa5, 0x41, 0x1d, 0x36,
         0x4f, 0x4e]
      else [0xa4, 0x24, 0x8a, 0x97, 0xd3, 0xf4, 0xda, 0x70, 0x88, 0xbe, 0xe1, 0x13, 0x31, 0x22, 0x7c, 0x38, 0x6d,
            0x51, 0x56, 0x74]
    (state ++ zeroes alg.stateSize).take alg.stateSize
  length_hash _ _ := by simp
  aesEncrypt key block :=
    let out : Octets :=
      if key ≠ zeroes 16 then
        [0xc6, 0xa1, 0x3b, 0x37, 0x87, 0x8f, 0x5b, 0x82, 0x6f, 0x4f, 0x81, 0x62, 0xa1, 0xc8, 0xd8, 0x79]
      else if block = zeroes 16 then
        [0x66, 0xe9, 0x4b, 0xd4, 0xef, 0x8a, 0x2c, 0x3b, 0x88, 0x4c, 0xfa, 0x59, 0xca, 0x34, 0x2b, 0x2e]
      else [0x6e, 0xa4, 0x96, 0x09, 0x40, 0x61, 0x6c, 0x92, 0x57, 0x2b, 0x15, 0xca, 0x25, 0xee, 0x41, 0xed]
    out
  length_aesEncrypt _ _ := by dsimp only; split_ifs <;> rfl

def cbcSha1 (verifyDigest : Bool) : SessionSetupData where
  symOperation := .algorithmChaining
  cipherSetupData := ⟨.aesCbc, 16, some fun _ => 0, .encrypt⟩
  hashSetupData := ⟨.sha1, .auth, 20, some fun _ => 0, 20, 0, .none, none, 0, none, 0⟩
  algChainOrder := .cipherThenHash
  digestIsAppended := false
  verifyDigest := verifyDigest

def newCipherKey : SessionUpdateData where
  flags := 1
  pCipherKey := some fun _ => 1
  cipherDirection := .encrypt
  authKey := none

/-- A chain that verifies the digest has no optimised content descriptor. -/
theorem updated_forms_eq_verified : ∃ s₀ s s' : Session,
    sessionInit hostCrypto ⟨false, false⟩ (cbcSha1 true) false false 0 = .ok s₀ ∧
      Run (updateStep hostCrypto) s₀ [(newCipherKey, false)] s ∧
      sessionInit hostCrypto ⟨false, false⟩ ((cbcSha1 true).updates [(newCipherKey, false)]) false
        false 0 = .ok s' ∧ s.forms = s'.forms := by
  obtain ⟨s₀, s, hinit, hrun⟩ : ∃ s₀ s : Session,
      sessionInit hostCrypto ⟨false, false⟩ (cbcSha1 true) false false 0 = .ok s₀ ∧
        Run (updateStep hostCrypto) s₀ [(newCipherKey, false)] s :=
    ⟨_, _, rfl, .cons rfl (.nil _)⟩
  obtain ⟨s', hinit', heq⟩ := updated_forms_eq hostCrypto ⟨false, false⟩ (cbcSha1 true) false false 0
    hinit (fun h => Bool.noConfusion h.2.2.2.2.2) ⟨fun _ h => (nomatch h), fun _ h => (nomatch h)⟩ hrun
  exact ⟨s₀, s, s', hinit, hrun, hinit', heq⟩

/-- **The optimised content descriptor keeps the old key**, and requests for full packets are made with it. -/
theorem not_updated_forms_eq : ∃ s₀ s s' : Session,
    sessionInit hostCrypto ⟨false, false⟩ (cbcSha1 false) false false 0 = .ok s₀ ∧
      Run (updateStep hostCrypto) s₀ [(newCipherKey, false)] s ∧
      sessionInit hostCrypto ⟨false, false⟩ ((cbcSha1 false).updates [(newCipherKey, false)]) false
        false 0 = .ok s' ∧ s.forms.contentDesc = s'.forms.contentDesc ∧ s.forms.optimised = s₀.forms.optimised ∧
      s.forms.optimised ≠ s'.forms.optimised := by
  refine ⟨_, _, _, rfl, .cons rfl (.nil _), rfl, ?_, ?_, ?_⟩ <;> decide +kernel

end QuickAssist.Sym
