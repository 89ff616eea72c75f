import QuickAssist.Sym.Accepted
import QuickAssist.Sym.Update

/-!
# Sessions and the setup data they stand for

`cpaCySymUpdateSession` writes over parts of what `sessionInit` has built. What a session is, is said by the setup data
that a fresh one would be built from: `Represents`. `Updatable` is what is known about a session that is updated.
-/

namespace QuickAssist.Sym

open Lib Lib.Memory

variable {caps : Capabilities} {setup : SessionSetupData} {sw : OsalCrypto} {dp sync : Bool} {phys : U64}
  {desc : SessionDesc} {order : AlgChainOrder} {proto : Proto} {h : HashSetupData} {mode : QatHashMode}
  {cipherKey a : Octets} {m key : Bytes} {off : ℕ}

/-! ## Setup data that are updated -/

def SessionSetupData.withCipherKey (setup : SessionSetupData) (key : Option Bytes) : SessionSetupData :=
  { setup with cipherSetupData := { setup.cipherSetupData with pCipherKey := key } }

def SessionSetupData.withAuthKey (setup : SessionSetupData) (key : Option Bytes) : SessionSetupData :=
  { setup with hashSetupData := setup.hashSetupData.withKey key }

def SessionSetupData.withDirection (setup : SessionSetupData) (dir : CipherDirection) : SessionSetupData :=
  { setup with cipherSetupData := { setup.cipherSetupData with cipherDirection := dir } }

/-- The setup data of a session after an update. -/
def SessionSetupData.update (setup : SessionSetupData) (u : SessionUpdateData) : SessionSetupData :=
  let setup := if u.hasCipherKey then setup.withCipherKey u.pCipherKey else setup
  let setup := if u.hasAuthKey then setup.withAuthKey u.authKey else setup
  if u.hasDirection then setup.withDirection u.cipherDirection else setup

/-! ## Sessions and their setup data -/

/-- A session is what its setup data would have it be; `cipherKey` is the key that the states of the
hash are made from. -/
def Represents (sw : OsalCrypto) (setup : SessionSetupData) (dp sync : Bool) (phys : U64)
    (cipherKey : Octets) (s : Session) : Prop :=
  cipherKey.length = setup.cipherSetupData.cipherKeyLenInBytes.toNat ∧
    ∃ desc order proto m, CmdOf setup dp sync desc order proto ∧ s = sessionFor setup desc order proto phys m ∧
      Holds m 0 (contentDesc sw setup desc order cipherKey)

/-- What is known of a session before an update. -/
structure Updatable (caps : Capabilities) (setup : SessionSetupData) : Prop where
  param : sessionParamCheck caps setup = .ok ()
  cipher : setup.symOperation ≠ .hash → cipherSessionSetupDataCheck setup.cipherSetupData = .ok ()
  hash : setup.symOperation ≠ .cipher → hashContextCheck caps setup.hashSetupData = .ok ()
  auth : setup.symOperation = .hash → setup.hashSetupData.hashMode = .auth
  cbcMac : setup.symOperation ≠ .cipher → setup.hashSetupData.hashAlgorithm = .aesCbcMac →
    setup.hashSetupData.authKeyLenInBytes.toNat ≤ 32
  notOptimised : ¬ setup.UsesOptimised
  room : ¬ setup.Overlaps

section

variable (hu : Updatable caps setup)

include hu

lemma Updatable.ok : SetupOk setup := setupOk_of_checks hu.param hu.cipher hu.hash hu.cbcMac hu.room

lemma Updatable.checked (hop : setup.symOperation ≠ .cipher) : HashChecked setup.hashSetupData :=
  hashChecked_of_check (hu.hash hop)

lemma Updatable.withCipherKey (key : Bytes) : Updatable caps (setup.withCipherKey (some key)) := by
  refine { hu with cipher := fun hop => ?_ }
  have hok := hu.cipher hop
  unfold cipherSessionSetupDataCheck at hok ⊢
  split at hok
  next hnull => exact if_pos hnull
  next hnull =>
    rw [if_neg (show ¬ (setup.withCipherKey (some key)).cipherSetupData.cipherAlgorithm = .null from
      hnull), bind_eq_ok]
    exact ⟨rfl, (bind_eq_ok.mp hok).2⟩

lemma Updatable.withDirection (dir : CipherDirection) : Updatable caps (setup.withDirection dir) := { hu with }

end

lemma authModeCheck_withKey (hok : authModeCheck h = .ok ()) (key : Bytes) :
    authModeCheck (h.withKey (some key)) = .ok () := by
  unfold authModeCheck at hok ⊢
  rcases halg : h.hashAlgorithm <;> simp_all [HashSetupData.withKey, bind_eq_ok]

lemma Updatable.withAuthKey (hu : Updatable caps setup) (key : Bytes) :
    Updatable caps (setup.withAuthKey (some key)) := by
  refine { hu with hash := fun hop => ?_ }
  have hok := hu.hash hop
  unfold hashContextCheck at hok ⊢
  simp only [bind_eq_ok] at hok ⊢
  obtain ⟨h1, h2, h3, h4, hrest⟩ := hok
  refine ⟨h1, h2, h3, h4, ?_⟩
  split
  next hm =>
    have hauth : setup.hashSetupData.hashMode = .auth := hm
    rw [hauth] at hrest
    exact authModeCheck_withKey hrest key
  next hm =>
    have hnested : setup.hashSetupData.hashMode = .nested := hm
    rw [hnested] at hrest
    exact hrest
  next => rfl

variable (setup)

lemma sessionFor_cipher (hop : setup.symOperation = .cipher) (m : Bytes) :
    sessionFor setup desc order proto phys m = cipherSession setup.cipherSetupData desc proto phys m := by
  simp only [sessionFor, hop]

lemma sessionFor_hash (hop : setup.symOperation = .hash) (m : Bytes) : sessionFor setup desc order proto phys m =
      authSession setup.hashSetupData desc (hashFtr setup.hashSetupData desc.qatHashMode)
        (hashSize setup.hashSetupData desc.qatHashMode) (fun _ => 0) proto phys m := by
  simp only [sessionFor, hop]

lemma sessionFor_chain (hop : setup.symOperation = .algorithmChaining) (m : Bytes) :
    sessionFor setup desc order proto phys m =
      authSession setup.hashSetupData desc (chainFtr setup.cipherSetupData setup.hashSetupData desc.qatHashMode order)
        (hashSize setup.hashSetupData desc.qatHashMode + setup.cipherSetupData.size) (arc4State setup.cipherSetupData)
        proto phys m := by
  simp only [sessionFor, hop]

variable {setup}

/-- **A fresh session is what its setup data would have it be.** -/
theorem represents_buildSession (hu : Updatable caps setup) :
    Represents sw setup dp sync phys setup.cipherSetupData.key (buildSession sw setup dp sync phys) := by
  obtain ⟨desc, order, proto, hcmd⟩ : ∃ desc order proto, CmdOf setup dp sync desc order proto := ⟨_, _, _, rfl⟩
  have huse : setup.symOperation ≠ .cipher → (useSymConstantsTable desc).use = false := by
    intro hne
    rcases hop : setup.symOperation with _ | _ | _
    · exact absurd hop hne
    · exact use_eq_false_of_hash hop hcmd (hu.auth hop) (hu.checked hne).some
    · exact use_eq_false_of_chain hop hcmd (hu.checked hne).mode hu.notOptimised
  exact ⟨length_read _ _ _, desc, order, proto, _, hcmd, buildSession_eq sw phys hcmd huse hu.ok.even,
    holds_builtDesc sw hu.ok hcmd⟩

/-! ## Blocks -/

/-- Only the length of the key of the cipher matters. -/
lemma HashOk.congr {b : Octets} (hok : HashOk mode h a) (hlen : b.length = a.length) : HashOk mode h b :=
  { hok with keys := { hok.keys with ccm := fun halg => hlen.trans (hok.keys.ccm halg) } }

lemma HashOk.withKey (hok : HashOk mode h a) (key : Option Bytes) : HashOk mode (h.withKey key) a :=
  { hok with
    keys :=
      { auth := fun halg => by rw [length_key]; exact (length_key h).symm.trans (hok.keys.auth halg)
        cbcMac := fun halg => by
          rw [length_key]
          exact Nat.le_trans (Nat.le_of_eq (length_key h).symm) (hok.keys.cbcMac halg)
        ccm := hok.keys.ccm } }

/-- A new key takes the place of the old one. -/
lemma holds_cipherKey (hheld : Holds m off (cipherBlock desc key off)) (key' : Bytes) :
    Holds (write m (off + 8) (keySetup desc.cipherAlgorithm key' desc.cipherKeyLenInBytes.toNat)) off
      (cipherBlock desc key' off) := by
  unfold cipherBlock at hheld ⊢
  rw [← List.append_assoc] at hheld ⊢
  exact hheld.replace (length_keySetup _ _ _ _)

/-- A new configuration takes the place of the old one. -/
lemma holds_cipherConfig {desc' : SessionDesc}
    (hheld : Holds m off (cipherBlock desc key off)) (halg : desc'.cipherAlgorithm = desc.cipherAlgorithm)
    (hlen : desc'.cipherKeyLenInBytes = desc.cipherKeyLenInBytes) (hop : desc'.symOperation = desc.symOperation) :
    Holds (cipherHwBlockPopulateCfgData desc' off m) off (cipherBlock desc' key off) := by
  unfold cipherBlock unwritten at hheld ⊢
  rw [holds_append, length_cipherConfig] at hheld ⊢
  rw [halg, hlen, hop]
  refine ⟨holds_write, ?_⟩
  exact hheld.2.write_of_disjoint (Or.inr (Nat.le_refl _))

lemma bytesToQuadwords_mul {n : ℕ} (hn : 8 ∣ n) : bytesToQuadwords n * 8 = n := by
  rw [bytesToQuadwords, Nat.shiftRight_eq_div_pow]
  exact Nat.div_mul_cancel hn

/-- The content descriptor of a chain holds both blocks. -/
lemma holds_contentDesc_chain (setup : SessionSetupData) (hop : setup.symOperation = .algorithmChaining)
    (hcmd : CmdOf setup dp sync desc order proto) (hok : HashOk desc.qatHashMode setup.hashSetupData cipherKey) :
    Holds m 0 (contentDesc sw setup desc order cipherKey) ↔ Holds m (hashOffset setup.cipherSetupData order)
        (hashBlock sw desc.qatHashMode setup.hashSetupData cipherKey) ∧
      Holds m (cipherOffset setup.hashSetupData desc.qatHashMode order)
        (cipherBlock desc setup.cipherSetupData.keyBytes (cipherOffset setup.hashSetupData desc.qatHashMode order)) := by
  simp only [contentDesc, hop]
  cases order
  · rw [holds_append, length_hashBlock_eq _ hok, Nat.zero_add]
    rfl
  · rw [holds_append, hcmd.length_cipherBlock, Nat.zero_add, and_comm]
    rfl

lemma dvd_hashSize (hok : HashOk mode h cipherKey) : 8 ∣ hashSize h mode := by
  have halign (n : ℕ) : 8 ∣ alignQuadword n := Nat.dvd_mul_left 8 _
  rw [hashSize_eq hok, length_hashTail hok]
  have hstates : 8 ∣ statesSize mode h.hashAlgorithm := by
    unfold statesSize
    split
    · exact Nat.dvd_add (halign _) (halign _)
    · exact halign _
  have hnested : 8 ∣ if doNested mode h.hashMode then
      16 + alignQuadword (outerAlgorithm h).stateSize else 0 := by
    split
    · exact Nat.dvd_add ⟨2, rfl⟩ (halign _)
    · exact Nat.dvd_zero 8
  have hsnow : 8 ∣ if h.hashAlgorithm = .snow3gUia2 then 8 + h.authKeyLenInBytes.toNat + 16 else 0 := by
    split
    next hs =>
      rw [(hok.snow3g hs).2]
      decide
    next => exact Nat.dvd_zero 8
  exact Nat.dvd_add ⟨2, rfl⟩ (Nat.dvd_add hstates (Nat.dvd_add hnested hsnow))

lemma cipherCfgOffset_chainFtr (hok : HashOk desc.qatHashMode setup.hashSetupData cipherKey) (order : AlgChainOrder) :
    (chainFtr setup.cipherSetupData setup.hashSetupData desc.qatHashMode order).cdCtrl.cipherCfgOffset
      * 8 = cipherOffset setup.hashSetupData desc.qatHashMode order := by
  cases order
  · exact Nat.div_mul_cancel (dvd_hashSize hok)
  · rfl

end QuickAssist.Sym
