import QuickAssist.Lib.BigEndian
import QuickAssist.Lib.Doubling
import QuickAssist.Sym.Equivalence

/-!
# The subkeys of CMAC

The second state of an AES-CMAC session is the key and the two subkeys of RFC 4493, which are the block of zeroes,
encrypted, and doubled once and twice in the field of 2 ^ 128 elements. `LacSymHash_AesECBPreCompute` encrypts what it
finds behind the key, so the state has to be clear before it: a new session is, and a key update sees to it. The one
exception is a state that reaches beyond both content descriptors, `Overlaps`.
-/

namespace QuickAssist.Sym

open Lib Lib.Memory Lib.Doubling BitVec Nat

/-! ## Blocks and words -/

/-- `LAC_SYM_AES_CMAC_RB_128`: what `x ^ 128` is. -/
def rb128 : BitVec 128 := 0x87

def blockWord (block : Octets) : BitVec 128 := BitVec.ofNat 128 (BigEndian.value block)

variable {block : Octets}

lemma getLsbD_blockWord (hlen : block.length = 16) {i : ℕ} (hi : i < 128) :
    (blockWord block).getLsbD i = (block.getD (15 - i / 8) 0).getLsbD (i % 8) := by
  have hbit := BigEndian.testBit_value block (i / 8) (mod_lt i (by decide : 0 < 8))
  rw [div_add_mod] at hbit
  rw [blockWord, getLsbD_ofNat, hbit, decide_eq_true hi, Bool.true_and, List.getD_reverse _ (by omega), hlen]

lemma getD_cmacSubkey (block : Octets) {i : ℕ} (hi : i < 16) : (cmacSubkey block).getD i 0 =
      if i + 1 < 16 then block.getD i 0 <<< 1 ||| (block.getD (i + 1) 0 >>> 7)
      else if block.getD 0 0 &&& 0x80 ≠ 0 then block.getD i 0 <<< 1 ^^^ 0x87 else block.getD i 0 <<< 1 := by
  unfold cmacSubkey
  rw [List.getD_eq_getElem _ _ (by simpa using hi)]
  simp

lemma msb_blockWord (hlen : block.length = 16) : (blockWord block).msb = decide (block.getD 0 0 &&& 0x80 ≠ 0) := by
  have hbit : ∀ b : U8, b.getLsbD 7 = decide (b &&& 0x80 ≠ 0) := by decide
  rw [msb_eq_getLsbD_last, getLsbD_blockWord hlen (by decide)]
  exact hbit _

lemma getLsbD_rb128 (i : ℕ) : rb128.getLsbD i = (0x87 : U8).getLsbD i := by
  rw [show rb128 = (0x87 : U8).setWidth 128 from rfl, getLsbD_setWidth]
  rcases Nat.lt_or_ge i 128 with hi | hi
  · rw [decide_eq_true hi, Bool.true_and]
  · rw [getLsbD_of_ge _ i (by omega), Bool.and_false]

/-- **A shift with a carry from byte to byte is doubling.** -/
theorem blockWord_cmacSubkey (hlen : block.length = 16) :
    blockWord (cmacSubkey block) = double rb128 (blockWord block) := by
  apply eq_of_getLsbD_eq
  intro i hi
  rw [getLsbD_blockWord (length_cmacSubkey block) hi, getD_cmacSubkey _ (by omega), getLsbD_double,
    msb_blockWord hlen, getLsbD_rb128, decide_eq_true hi, Bool.true_and]
  by_cases hlast : i < 8
  · -- the last byte, which has the constant and no carry
    have hshift : (block.getD 15 0 <<< 1).getLsbD i = (decide (0 < i) && (blockWord block).getLsbD (i - 1)) := by
      rw [getLsbD_blockWord hlen (by omega), mod_eq_of_lt (by omega), div_eq_of_lt (by omega)]
      simp only [getLsbD_shiftLeft, decide_eq_true hlast, Bool.true_and, ← decide_not, Nat.not_lt,
        one_le_iff_ne_zero, Nat.pos_iff_ne_zero]
    rw [if_neg (by omega), mod_eq_of_lt hlast, div_eq_of_lt hlast, ← hshift]
    split
    next hmsb => rw [getLsbD_xor, decide_eq_true hmsb, Bool.true_and]
    next hmsb => rw [decide_eq_false hmsb, Bool.false_and, Bool.xor_false]
  · rw [if_pos (by omega), getLsbD_blockWord hlen (by omega), decide_eq_true (show 0 < i by omega), Bool.true_and,
      getLsbD_of_ge (0x87 : U8) i (by omega), Bool.and_false, Bool.xor_false, getLsbD_or,
      getLsbD_shiftLeft, getLsbD_ushiftRight]
    rcases Nat.eq_zero_or_pos (i % 8) with hzero | hpos
    · rw [hzero, show 15 - (i - 1) / 8 = 15 - i / 8 + 1 by omega, show (i - 1) % 8 = 7 by omega]
      rfl
    · rw [show (i - 1) / 8 = i / 8 by omega, show (i - 1) % 8 = i % 8 - 1 by omega,
        getLsbD_of_ge _ (7 + i % 8) (by omega), Bool.or_false,
        decide_eq_true (mod_lt i (by decide : 0 < 8)), decide_eq_false (show ¬ i % 8 < 1 by omega)]
      rfl

/-! ## Sessions -/

section

variable {caps : Capabilities} {sw : OsalCrypto} {setup : SessionSetupData} {dp sync : Bool} {phys : U64}
  {k : Octets} {s : Session}

lemma updates_hash (setup : SessionSetupData) (es : List (SessionUpdateData × Bool)) :
    (setup.updates es).symOperation = setup.symOperation ∧
      (setup.updates es).hashSetupData.hashAlgorithm = setup.hashSetupData.hashAlgorithm := by
  induction es generalizing setup with
  | nil => exact ⟨rfl, rfl⟩
  | cons e es ih =>
    obtain ⟨hop, halg⟩ := ih (setup.update e.1)
    have hupdate : (setup.update e.1).symOperation = setup.symOperation ∧
        (setup.update e.1).hashSetupData.hashAlgorithm = setup.hashSetupData.hashAlgorithm := by
      unfold SessionSetupData.update
      split <;> split <;> split <;> exact ⟨rfl, rfl⟩
    exact ⟨hop.trans hupdate.1, halg.trans hupdate.2⟩

/-- Where the hash block of a session is, its footer says. -/
lemma Represents.holds_hashBlock (hr : Represents sw setup dp sync phys k s) (hu : Updatable caps setup)
    (hop : setup.symOperation ≠ .cipher) :
    ∃ off, Holds s.contentDescriptor off (hashBlock sw (qatHashModeOf setup.hashSetupData) setup.hashSetupData k) ∧
      HashCtrl (qatHashModeOf setup.hashSetupData) setup.hashSetupData.hashAlgorithm off s.reqCacheFtr.cdCtrl := by
  obtain ⟨hk, desc, order, proto, m, hcmd, rfl, hheld⟩ := hr
  rw [← hcmd.mode hop]
  have hok : HashOk desc.qatHashMode setup.hashSetupData k :=
    hcmd.mode hop ▸ (hu.ok.hash hop).congr (hk.trans (length_read _ _ _).symm)
  rcases hop' : setup.symOperation with _ | _ | _
  · exact absurd hop' hop
  · rw [sessionFor_hash _ hop']
    simp only [contentDesc, hop'] at hheld
    exact ⟨0, hheld, rfl, rfl, rfl⟩
  · rw [sessionFor_chain _ hop']
    have hctrl := hashCtrl_chainFtr setup.hashSetupData desc.qatHashMode (hu.ok.dvd (by simp [hop'])) order
    exact ⟨_, ((holds_contentDesc_chain setup hop' hcmd hok).mp hheld).1, hctrl.start, hctrl.state1, hctrl.state2⟩

lemma updatable_of_cmac {s₀ : Session} (hinit : sessionInit sw caps setup dp sync phys = .ok s₀)
    (halg : setup.hashSetupData.hashAlgorithm = .aesCmac) (hroom : ¬ setup.Overlaps) :
    Updatable caps setup ∧ s₀ = buildSession sw setup dp sync phys := by
  unfold sessionInit at hinit
  rw [bind_value_eq_ok] at hinit
  obtain ⟨desc, hpop, hs₀⟩ := hinit
  obtain ⟨hparam, hcipher, hhash, -⟩ := populateSession_eq_ok.mp hpop
  refine ⟨⟨hparam, hcipher, hhash, fun hop => ?_, fun _ hcbc => ?_, fun hopt => ?_, hroom⟩, (Except.ok.inj hs₀).symm⟩
  · have hsupp := (hashChecked_of_check (hhash (by simp [hop]))).supported
    rw [halg] at hsupp
    simpa [HashAlgorithm.modeNotSupported] using hsupp
  · rw [halg] at hcbc
    cases hcbc
  · have hsha := hopt.2.2.2.1
    rw [halg] at hsha
    cases hsha

/-- **The state of a CMAC session**, new or after any updates: the key it was last given, and its subkeys. -/
theorem cmac_state_eq_subkeys (sw : OsalCrypto) (caps : Capabilities) (setup : SessionSetupData) (dp sync : Bool)
    (phys : U64) {s₀ s : Session} {es : List (SessionUpdateData × Bool)}
    (hinit : sessionInit sw caps setup dp sync phys = .ok s₀) (hop : setup.symOperation ≠ .cipher)
    (halg : setup.hashSetupData.hashAlgorithm = .aesCmac) (hroom : ¬ setup.Overlaps)
    (hrun : Run (updateStep sw) s₀ es s) : ∃ key k1 k2 : Octets, key = (setup.updates es).hashSetupData.key ∧
      key.length = 16 ∧ k1.length = 16 ∧ k2.length = 16 ∧
      Holds s.contentDescriptor s.reqCacheFtr.cdCtrl.inHashInitState2 (key ++ (k1 ++ k2)) ∧
      blockWord k1 = double rb128 (blockWord (sw.aesEncrypt key (zeroes 16))) ∧
      blockWord k2 = double rb128 (blockWord k1) ∧
      ∀ b, element rb128 (double rb128 b) = AdjoinRoot.root _ * element rb128 b := by
  obtain ⟨hu, rfl⟩ := updatable_of_cmac hinit halg hroom
  obtain ⟨hu', hr⟩ := Represents.run hrun hu (represents_buildSession hu)
  obtain ⟨hop', halg'⟩ := updates_hash setup es
  obtain ⟨off, hblock, hctrl⟩ := hr.holds_hashBlock hu' (hop' ▸ hop)
  generalize setup.updates es = last at *
  rw [halg] at halg'
  have hok := hu'.ok.hash (hop' ▸ hop)
  have hmode : hasState2 (qatHashModeOf last.hashSetupData) .aesCmac = true := by
    apply eq_true_of_ne_false
    intro hplain
    have hhmac := hok.plain (halg' ▸ hplain)
    rw [halg'] at hhmac
    cases hhmac
  have hkey : last.hashSetupData.key.length = 16 := hok.keys.auth (by simp [halg'])
  refine ⟨_, cmacSubkey _, cmacSubkey _, rfl, hkey, length_cmacSubkey _, length_cmacSubkey _, ?_,
    blockWord_cmacSubkey (sw.length_aesEncrypt _ _), blockWord_cmacSubkey (length_cmacSubkey _), element_double rb128⟩
  rw [hctrl.inHashInitState2, halg']
  rw [hashBlock, halg', hashStates, if_pos hmode, holds_append, holds_append, holds_append] at hblock
  exact hblock.2.1.2

end

def cmacSetup : SessionSetupData where
  symOperation := .hash
  cipherSetupData := ⟨.null, 0, none, .encrypt⟩
  hashSetupData := ⟨.aesCmac, .auth, 16, some fun _ => 0, 16, 0, .none, none, 0, none, 0⟩
  algChainOrder := .cipherThenHash
  digestIsAppended := false
  verifyDigest := false

def newAuthKey : SessionUpdateData where
  flags := 4
  pCipherKey := none
  cipherDirection := .encrypt
  authKey := some fun i => BitVec.ofNat 8 i

/-- A session that hashes gets another key. -/
theorem cmac_state_updated : ∃ s₀ s : Session,
    sessionInit hostCrypto ⟨false, false⟩ cmacSetup false false 0 = .ok s₀ ∧
      Run (updateStep hostCrypto) s₀ [(newAuthKey, false)] s ∧
      ∃ k1 k2, Holds s.contentDescriptor s.reqCacheFtr.cdCtrl.inHashInitState2
        ((List.range 16).map (BitVec.ofNat 8) ++ (k1 ++ k2)) := by
  obtain ⟨s₀, s, hinit, hrun⟩ : ∃ s₀ s : Session,
      sessionInit hostCrypto ⟨false, false⟩ cmacSetup false false 0 = .ok s₀ ∧
        Run (updateStep hostCrypto) s₀ [(newAuthKey, false)] s :=
    ⟨_, _, rfl, .cons rfl (.nil _)⟩
  obtain ⟨key, k1, k2, hkey, -, -, -, hheld, -⟩ := cmac_state_eq_subkeys hostCrypto ⟨false, false⟩ cmacSetup false
    false 0 hinit (by decide) rfl (fun h => nomatch h.1) hrun
  have hlast : key = (List.range 16).map (BitVec.ofNat 8) := hkey.trans (by decide)
  exact ⟨s₀, s, hinit, hrun, k1, k2, hlast ▸ hheld⟩

def f8CmacSetup : SessionSetupData :=
  { cmacSetup with symOperation := .algorithmChaining, cipherSetupData := ⟨.aesF8, 64, some fun _ => 0, .encrypt⟩ }

/-- **Behind the longest key of AES in F8 mode, a subkey is wrong:** the block that is encrypted for it is not clear, it
has the `symOperation` of the session. -/
theorem f8_cmac_subkey_wrong : ∃ s : Session,
    sessionInit hostCrypto ⟨false, false⟩ f8CmacSetup false false 0 = .ok s ∧
      s.reqCacheFtr.cdCtrl.inHashInitState2 = 296 ∧ read s.contentDescriptor 312 16 =
        cmacSubkey (hostCrypto.aesEncrypt f8CmacSetup.hashSetupData.key (zeroes 8 ++ [3] ++ zeroes 7)) ∧
      blockWord (read s.contentDescriptor 312 16) ≠
        double rb128 (blockWord (hostCrypto.aesEncrypt f8CmacSetup.hashSetupData.key (zeroes 16))) := by
  refine ⟨_, rfl, rfl, ?_, ?_⟩ <;> decide +kernel

end QuickAssist.Sym
