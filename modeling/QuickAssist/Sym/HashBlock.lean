import QuickAssist.Sym.Layout

/-!
# The hash block of a content descriptor

The hash block is written twice: `hashSetupBlockInit` writes the configuration and what does not depend on a key, and
the states are written when the whole descriptor has been laid out. An update of a key writes the states once more.
`hashBlock` is what is there in the end, and `Prepared` what the second step finds. `HashOk` is what the checks of an
accepted session have said about its hash.
-/

namespace QuickAssist.Sym

open Lib Lib.Memory List

variable {sw : OsalCrypto} {mode : QatHashMode} {h : HashSetupData} {cipherKey authKey cipherKey' : Octets}
  {alg : HashAlgorithm} {off st1 st2 : ℕ} {ctrl : CdCtrl} {m m' : Bytes} {aadLen : U32}

/-! ## What is there -/

def HashSetupData.key (h : HashSetupData) : Octets := read (keyBytes h.authKey) 0 h.authKeyLenInBytes.toNat

@[simp] lemma length_key (h : HashSetupData) : h.key.length = h.authKeyLenInBytes.toNat := length_read _ _ _

def hashHead (mode : QatHashMode) (h : HashSetupData) : Octets :=
  authSetup (authConfigBuild mode h.hashAlgorithm.algoEnc h.digestResultLenInBytes)
    (if hasState2 mode h.hashAlgorithm then h.hashAlgorithm.authCounter else 0)

@[simp] lemma length_hashHead (mode : QatHashMode) (h : HashSetupData) : (hashHead mode h).length = 16 := rfl

def hashStates (sw : OsalCrypto) (mode : QatHashMode) (alg : HashAlgorithm)
    (authKey cipherKey : Octets) (aadLen : U32) : Octets :=
  if hasState2 mode alg then state1Of sw alg authKey ++ state2Of sw alg authKey cipherKey aadLen
  else alg.initState ++ zeroes (alg.state1Sz - alg.stateSize)

def statesSize (mode : QatHashMode) (alg : HashAlgorithm) : ℕ :=
  alg.state1Sz + if hasState2 mode alg then alg.state2Sz else 0

def hashTail (mode : QatHashMode) (h : HashSetupData) : Octets :=
  if doNested mode h.hashMode then outerBlock h mode
  else if h.hashAlgorithm = .snow3gUia2 then wirelessBlock .snow3gUea2 h else []

def hashBlock (sw : OsalCrypto) (mode : QatHashMode) (h : HashSetupData) (cipherKey : Octets) : Octets :=
  hashHead mode h ++ (hashStates sw mode h.hashAlgorithm h.key cipherKey h.aadLenInBytes ++ hashTail mode h)

structure HashOk (mode : QatHashMode) (h : HashSetupData) (cipherKey : Octets) : Prop where
  keyed : hasState2 mode h.hashAlgorithm = true → h.hashAlgorithm ≠ .none ∧ h.hashAlgorithm ≠ .sha3_256
  plain : hasState2 mode h.hashAlgorithm = false → h.hashAlgorithm.isHmacAlg = true
  cbcMac : h.hashAlgorithm = .aesCbcMac → mode = .mode0
  keys : HashKeys h.hashAlgorithm h.key cipherKey
  snow3g : h.hashAlgorithm = .snow3gUia2 → doNested mode h.hashMode = false ∧ h.authKeyLenInBytes = 16
  zuc : h.hashAlgorithm = .zucEia3 → doNested mode h.hashMode = false ∧ h.authKeyLenInBytes = 16
  outer : doNested mode h.hashMode = true → (outerAlgorithm h).initState.length = (outerAlgorithm h).stateSize

lemma length_initState (halg : alg.isHmacAlg = true) :
    (alg.initState ++ zeroes (alg.state1Sz - alg.stateSize)).length = alg.state1Sz := by
  cases alg <;> first | rfl | cases halg

lemma length_hashStates (hok : HashOk mode h cipherKey) (aadLen : U32) :
    (hashStates sw mode h.hashAlgorithm h.key cipherKey aadLen).length = statesSize mode h.hashAlgorithm := by
  unfold hashStates statesSize
  rcases h2 : hasState2 mode h.hashAlgorithm with _ | _
  · rw [if_neg (by simp), if_neg (by simp), length_initState (hok.plain h2), Nat.add_zero]
  · rw [if_pos rfl, if_pos rfl, length_append, length_state1Of sw _ (hok.keyed h2),
      length_state2Of sw _ (hok.keyed h2) hok.keys]

lemma length_hashTail (hok : HashOk mode h cipherKey) : (hashTail mode h).length =
      (if doNested mode h.hashMode then 16 + alignQuadword (outerAlgorithm h).stateSize else 0) +
        if h.hashAlgorithm = .snow3gUia2 then 8 + h.authKeyLenInBytes.toNat + 16 else 0 := by
  unfold hashTail
  rcases hn : doNested mode h.hashMode with _ | _
  · simp only [Bool.false_eq_true, if_false, Nat.zero_add]
    split
    · simp [wirelessBlock, Nat.add_assoc]
    · rfl
  · have hsnow : h.hashAlgorithm ≠ .snow3gUia2 := by
      intro hs
      have := (hok.snow3g hs).1
      simp [hn] at this
    rw [if_pos rfl, if_pos rfl, if_neg hsnow]
    have hle := le_alignQuadword (outerAlgorithm h).stateSize
    simp only [outerBlock, length_append, length_authSetup, length_zeroes, hok.outer hn]
    omega

/-! ## The first step -/

structure HashCtrl (mode : QatHashMode) (alg : HashAlgorithm) (off : ℕ) (ctrl : CdCtrl) : Prop where
  start : ctrl.inHashSetup = off
  state1 : ctrl.innerState1Sz = alg.state1Sz
  state2 : ctrl.innerState2Sz = if hasState2 mode alg then alg.state2Sz else 0

section

variable (hc : HashCtrl mode alg off ctrl)

include hc

lemma HashCtrl.inHashInitState1 : ctrl.inHashInitState1 = off + 16 := by
  rw [CdCtrl.inHashInitState1, hc.start]

lemma HashCtrl.inHashInitState2 : ctrl.inHashInitState2 = off + 16 + alg.state1Sz := by
  rw [CdCtrl.inHashInitState2, hc.inHashInitState1, hc.state1]

lemma HashCtrl.outHashSetup : ctrl.outHashSetup = off + 16 + statesSize mode alg := by
  rw [CdCtrl.outHashSetup, hc.inHashInitState2, hc.state2, statesSize, Nat.add_assoc (off + 16)]

end

structure Prepared (mode : QatHashMode) (alg : HashAlgorithm) (st1 : ℕ) (m : Bytes) : Prop where
  keyed : hasState2 mode alg = true → Ready alg st1 (st1 + alg.state1Sz) m
  plain : hasState2 mode alg = false → Holds m st1 (alg.initState ++ zeroes (alg.state1Sz - alg.stateSize))

lemma padding_eq_zero (hzero : alg.zeroState1 = false) (hsha : alg ≠ .sha1) :
    alg.state1Sz - alg.stateSize = 0 ∧ alg.state2Sz - alg.stateSize = 0 := by
  revert hzero hsha
  cases alg <;> decide

lemma setupHead_keyed (hc : HashCtrl mode h.hashAlgorithm off ctrl) (h2 : hasState2 mode h.hashAlgorithm = true)
    (hz : h.hashAlgorithm = .aesCmac → Holds m (off + 48) (zeroes 32)) :
    Holds (setupHead h ctrl mode m) off (hashHead mode h) ∧
      Ready h.hashAlgorithm (off + 16) (off + 16 + h.hashAlgorithm.state1Sz) (setupHead h ctrl mode m) ∧
      SameOutside m (setupHead h ctrl mode m) off (16 + statesSize mode h.hashAlgorithm) := by
  have hhead : authSetup (authConfigBuild mode h.hashAlgorithm.algoEnc h.digestResultLenInBytes)
      h.hashAlgorithm.authCounter = hashHead mode h := by
    rw [hashHead, if_pos h2]
  simp only [setupHead, if_pos h2, hhead, hc.start, hc.inHashInitState1, hc.inHashInitState2, hc.state1,
    hc.state2, statesSize]
  generalize hashHead mode h = head at hhead
  have hlen : head.length = 16 := by
    rw [← hhead]
    rfl
  have hheld := @holds_write _ m off head
  have hsame := @sameOutside_write _ m off head
  generalize hm1 : write m off head = m1 at hheld hsame
  have hcmac1 (hcmac : h.hashAlgorithm = .aesCmac) :
      Holds m1 (off + 16 + h.hashAlgorithm.state1Sz + 16) (zeroes 32) := by
    rw [hcmac]
    exact (hz hcmac).of_sameOutside hsame
  rcases hzero : h.hashAlgorithm.zeroState1 with _ | _
  · by_cases hsha : h.hashAlgorithm = .sha1
    · -- the padding is written
      have hsz1 : HashAlgorithm.sha1.state1Sz = 24 := rfl
      have hsz2 : HashAlgorithm.sha1.state2Sz = 24 := rfl
      have hsz : HashAlgorithm.sha1.stateSize = 20 := rfl
      rw [hsha] at hzero ⊢
      refine ⟨?_, ⟨fun h => ?_, fun _ => ?_, fun _ => ?_, nofun⟩, ?_⟩
      · refine Holds.write_of_disjoint ?_
        exact hheld.write_of_disjoint
      · cases h
      · exact holds_write.write_of_disjoint
      · exact holds_write
      · exact (hsame.mono.trans sameOutside_write.mono).trans sameOutside_write.mono
    · obtain ⟨hpad1, hpad2⟩ := padding_eq_zero hzero hsha
      rw [if_neg hsha]
      refine ⟨hheld, ⟨by simp [hzero], fun _ => ?_, fun _ => ?_, hcmac1⟩, hsame.mono⟩
      · rw [hpad1]
        rfl
      · rw [hpad2]
        rfl
  · have hsha : h.hashAlgorithm ≠ .sha1 := fun hs => by simp [hs, HashAlgorithm.zeroState1] at hzero
    have hle : _ ≤ h.hashAlgorithm.state1Sz := le_alignQuadword _
    rw [if_neg hsha]
    refine ⟨hheld.write_of_disjoint, ⟨fun _ => holds_write, by simp [hzero], by simp [hzero],
      fun hcmac => ?_⟩, ?_⟩
    · refine (hcmac1 hcmac).write_of_disjoint ?_
      rw [hcmac]
      exact Or.inr (by rw [length_zeroes]; exact Nat.le_add_right _ _)
    · exact hsame.mono.trans sameOutside_write.mono

/-- **The block up to its states**: the configuration is there, and the states can be written. -/
theorem setupHead_spec (hok : HashOk mode h cipherKey)
    (hc : HashCtrl mode h.hashAlgorithm off ctrl) (hz : h.hashAlgorithm = .aesCmac → Holds m (off + 48) (zeroes 32)) :
    Holds (setupHead h ctrl mode m) off (hashHead mode h) ∧
      Prepared mode h.hashAlgorithm (off + 16) (setupHead h ctrl mode m) ∧
      SameOutside m (setupHead h ctrl mode m) off (16 + statesSize mode h.hashAlgorithm) := by
  rcases h2 : hasState2 mode h.hashAlgorithm with _ | _
  · have hne : ¬ hasState2 mode h.hashAlgorithm = true := by simp [h2]
    have hlen := length_initState (hok.plain h2)
    have hhead : authSetup (authConfigBuild mode h.hashAlgorithm.algoEnc h.digestResultLenInBytes) 0 =
        hashHead mode h := by
      rw [hashHead, if_neg hne]
    simp only [setupHead, if_neg hne, hhead, hc.start, hc.inHashInitState1, hc.state1, statesSize]
    refine ⟨?_, ⟨fun h2' => absurd h2' hne, fun _ => holds_write⟩, ?_⟩
    · exact holds_write.write_of_disjoint
    · exact sameOutside_write.mono.trans sameOutside_write.mono
  · obtain ⟨hhead, hready, hsame⟩ := setupHead_keyed hc h2 hz
    exact ⟨hhead, ⟨fun _ => hready, fun h2' => by rw [h2] at h2'; cases h2'⟩, hsame⟩

def tailSlack (alg : HashAlgorithm) : ℕ := if alg = .zucEia3 then 40 else 0

/-- **What is behind the states**, and what is left alone. -/
theorem setupTail_spec (hok : HashOk mode h cipherKey) (hc : HashCtrl mode h.hashAlgorithm off ctrl) :
    Holds (setupTail h ctrl mode m) (off + 16 + statesSize mode h.hashAlgorithm) (hashTail mode h) ∧
      SameOutside m (setupTail h ctrl mode m) (off + 16 + statesSize mode h.hashAlgorithm)
        ((hashTail mode h).length + tailSlack h.hashAlgorithm) := by
  rw [← hc.outHashSetup]
  by_cases hsnow : h.hashAlgorithm = .snow3gUia2
  · have heq : setupTail h ctrl mode m = write m ctrl.outHashSetup (hashTail mode h) := by
      simp [setupTail, hashTail, (hok.snow3g hsnow).1, hsnow]
    rw [heq]
    exact ⟨holds_write, sameOutside_write.mono⟩
  by_cases hzuc : h.hashAlgorithm = .zucEia3
  · obtain ⟨hnested, hkey⟩ := hok.zuc hzuc
    have heq : setupTail h ctrl mode m = write m ctrl.outHashSetup (wirelessBlock .zuc3gEea3 h) := by
      simp [setupTail, hnested, hzuc]
    have hnil : hashTail mode h = [] := by
      simp [hashTail, hnested, hzuc]
    rw [heq, hnil]
    refine ⟨rfl, sameOutside_write.mono ?_⟩
    simp [wirelessBlock, hkey, tailSlack, hzuc]
  · have heq : setupTail h ctrl mode m =
        if doNested mode h.hashMode then write m ctrl.outHashSetup (outerBlock h mode) else m := by
      unfold setupTail
      dsimp only
      split
      · contradiction
      · contradiction
      · rfl
    rw [heq, hashTail, if_neg hsnow]
    rcases doNested mode h.hashMode with _ | _
    · exact ⟨rfl, fun i _ => rfl⟩
    · exact ⟨holds_write, sameOutside_write.mono⟩

lemma Prepared.of_sameOutside {st1 off n : ℕ} {m m' : Bytes}
    (hp : Prepared mode alg st1 m) (hkeyed : hasState2 mode alg = true → alg ≠ .none ∧ alg ≠ .sha3_256)
    (hplain : hasState2 mode alg = false → alg.isHmacAlg = true) (hsame : SameOutside m m' off n)
    (hd : st1 + statesSize mode alg ≤ off ∨ off + n ≤ st1) : Prepared mode alg st1 m' := by
  refine ⟨fun h2 => ?_, fun h2 => ?_⟩
  · rw [statesSize, if_pos h2] at hd
    have hr := hp.keyed h2
    refine ⟨fun hzero => ?_, fun hzero => ?_, fun hzero => ?_, fun hcmac => ?_⟩
    · have hle : _ ≤ alg.state1Sz := le_alignQuadword _
      exact (hr.state1 hzero).of_sameOutside hsame
    · obtain ⟨hle, -⟩ := stateSize_le (hkeyed h2) hzero
      exact (hr.pad1 hzero).of_sameOutside hsame
    · obtain ⟨-, hle⟩ := stateSize_le (hkeyed h2) hzero
      exact (hr.pad2 hzero).of_sameOutside hsame
    · have hsz : alg.state2Sz = 48 := by
        rw [hcmac]
        rfl
      exact (hr.cmac hcmac).of_sameOutside hsame
  · rw [statesSize] at hd
    exact (hp.plain h2).of_sameOutside hsame (by rw [length_initState (hplain h2)]; omega)

/-! ## The second step -/

/-- The states are written.
Source: the part of `LacAlgChain_SessionInit` that is `initStates`. -/
def writeStates (sw : OsalCrypto) (mode : QatHashMode) (alg : HashAlgorithm)
    (authKey cipherKey : Octets) (aadLen : U32) (st1 st2 : ℕ) (m : Bytes) : Bytes :=
  if mode = .mode1 ∨ alg = .zucEia3 then
    precomputeDataCreate sw alg authKey cipherKey aadLen st1 st2 m
  else if alg = .aesCbcMac then write (write m st2 (zeroes alg.state2Length)) st2 authKey
  else m

lemma writeStates_plain
    (h2 : hasState2 mode alg = false) : writeStates sw mode alg authKey cipherKey aadLen st1 st2 m = m := by
  simp only [hasState2, Bool.or_eq_false_iff, decide_eq_false_iff_not] at h2
  obtain ⟨⟨hmode, hcbc⟩, hzuc⟩ := h2
  rw [writeStates, if_neg (by simp [hmode, hzuc]), if_neg hcbc]

lemma writeStates_cbcMac (hmode : mode = .mode0) (hlen : authKey.length ≤ 32) :
    writeStates sw mode .aesCbcMac authKey cipherKey aadLen st1 st2 m =
      write m st2 (state2Of sw .aesCbcMac authKey cipherKey aadLen) := by
  rw [writeStates, if_neg (by simp [hmode]), write_write_of_le hlen, zeroes, drop_replicate]
  rfl

/-- **The states are what they should be**, in a block that was prepared, and nothing else is
written. -/
theorem writeStates_spec (sw : OsalCrypto) (hok : HashOk mode h cipherKey)
    (hp : Prepared mode h.hashAlgorithm st1 m) :
    Holds (writeStates sw mode h.hashAlgorithm h.key cipherKey h.aadLenInBytes st1
        (st1 + h.hashAlgorithm.state1Sz) m) st1 (hashStates sw mode h.hashAlgorithm h.key cipherKey h.aadLenInBytes) ∧
      SameOutside m (writeStates sw mode h.hashAlgorithm h.key cipherKey h.aadLenInBytes st1
        (st1 + h.hashAlgorithm.state1Sz) m) st1 (statesSize mode h.hashAlgorithm) := by
  rcases h2 : hasState2 mode h.hashAlgorithm with _ | _
  · have hne : ¬ hasState2 mode h.hashAlgorithm = true := by simp [h2]
    rw [writeStates_plain h2, hashStates, if_neg hne]
    exact ⟨hp.plain h2, fun i _ => rfl⟩
  · have hready := hp.keyed h2
    have hkeyed := hok.keyed h2
    rw [hashStates, if_pos h2, statesSize, if_pos h2]
    by_cases hcbc : h.hashAlgorithm = .aesCbcMac
    · have hlen2 := length_state2Of sw h.aadLenInBytes hkeyed hok.keys
      have hlen1 := length_state1Of sw h.key hkeyed
      have hk := hok.keys.cbcMac hcbc
      have hst1 := hready.state1
      rw [hcbc] at hlen1 hlen2 hst1 ⊢
      rw [writeStates_cbcMac (hok.cbcMac hcbc) hk]
      refine ⟨holds_append.mpr ⟨?_, ?_⟩, sameOutside_write.mono⟩
      · exact (hst1 rfl).write_of_disjoint (Or.inl (Nat.le_refl _))
      · exact holds_write
    · have hpre : h.hashAlgorithm.precomputed = true := by
        obtain ⟨hnone, hsha3⟩ := hkeyed
        revert hnone hsha3 hcbc
        cases h.hashAlgorithm <;> decide
      have hcond : mode = .mode1 ∨ h.hashAlgorithm = .zucEia3 := by
        simpa [hasState2, hcbc] using h2
      rw [writeStates, if_pos hcond]
      exact ⟨precompute_holds sw hpre hok.keys rfl hready, precompute_frame sw hpre hok.keys rfl hready⟩

/-- **A block with states is prepared for other ones.** The subkeys of CMAC have to be cleared first. -/
theorem prepared_of_holds (hkeyed : hasState2 mode h.hashAlgorithm = true →
      h.hashAlgorithm ≠ .none ∧ h.hashAlgorithm ≠ .sha3_256) (hcmac : h.hashAlgorithm ≠ .aesCmac)
    (hheld : Holds m st1 (hashStates sw mode h.hashAlgorithm authKey cipherKey aadLen)) :
    Prepared mode h.hashAlgorithm st1 m := by
  refine ⟨fun h2 => ?_, fun h2 => ?_⟩
  · rw [hashStates, if_pos h2, holds_append, length_state1Of sw _ (hkeyed h2)] at hheld
    obtain ⟨h1, h2'⟩ := hheld
    refine ⟨fun hzero => ?_, fun hzero => ?_, fun hzero => ?_, fun hc => absurd hc hcmac⟩
    · rwa [state1Of, if_pos hzero] at h1
    · rw [state1Of, if_neg (by simp [hzero]), holds_append, length_symHashCompute] at h1
      exact h1.2
    · rw [state2Of_hmac sw hzero, holds_append, length_symHashCompute] at h2'
      exact h2'.2
  · rwa [hashStates, if_neg (by simp [h2])] at hheld

/-! ## The two steps together -/

structure SetUp (mode : QatHashMode) (h : HashSetupData) (off : ℕ) (m : Bytes) : Prop where
  head : Holds m off (hashHead mode h)
  prepared : Prepared mode h.hashAlgorithm (off + 16) m
  tail : Holds m (off + 16 + statesSize mode h.hashAlgorithm) (hashTail mode h)

/-- **The first step.** -/
theorem setUp_hashSetupBlockInit (hok : HashOk mode h cipherKey) (hc : HashCtrl mode h.hashAlgorithm off ctrl)
    (hz : h.hashAlgorithm = .aesCmac → Holds m (off + 48) (zeroes 32)) :
    SetUp mode h off (hashSetupBlockInit h ctrl mode m) ∧ SameOutside m (hashSetupBlockInit h ctrl mode m) off
        (16 + (statesSize mode h.hashAlgorithm + (hashTail mode h).length) + tailSlack h.hashAlgorithm) := by
  obtain ⟨hhead, hprepared, hsame⟩ := setupHead_spec hok hc hz
  obtain ⟨htail, hsame'⟩ := setupTail_spec (m := setupHead h ctrl mode m) hok hc
  refine ⟨⟨?_, ?_, htail⟩, ?_⟩
  · exact hhead.of_sameOutside hsame'
  · exact hprepared.of_sameOutside hok.keyed hok.plain hsame' (Or.inl (Nat.le_refl _))
  · exact hsame.mono.trans hsame'.mono

lemma SetUp.of_sameOutside {off' n : ℕ} (hs : SetUp mode h off m) (hok : HashOk mode h cipherKey)
    (hsame : SameOutside m m' off' n)
    (hd : off + (16 + (statesSize mode h.hashAlgorithm + (hashTail mode h).length)) ≤ off' ∨
      off' + n ≤ off) : SetUp mode h off m' := by
  refine ⟨?_, ?_, ?_⟩
  · exact hs.head.of_sameOutside hsame
  · exact hs.prepared.of_sameOutside hok.keyed hok.plain hsame (by omega)
  · exact hs.tail.of_sameOutside hsame

/-- **The second step.** -/
theorem SetUp.writeStates (sw : OsalCrypto) (hs : SetUp mode h off m) (hok : HashOk mode h cipherKey)
    (hc : HashCtrl mode h.hashAlgorithm off ctrl) :
    Holds (writeStates sw mode h.hashAlgorithm h.key cipherKey h.aadLenInBytes ctrl.inHashInitState1
        ctrl.inHashInitState2 m) off (hashBlock sw mode h cipherKey) ∧
      SameOutside m (Sym.writeStates sw mode h.hashAlgorithm h.key cipherKey h.aadLenInBytes
        ctrl.inHashInitState1 ctrl.inHashInitState2 m) (off + 16) (statesSize mode h.hashAlgorithm) := by
  rw [hc.inHashInitState1, hc.inHashInitState2]
  obtain ⟨hstates, hsame⟩ := writeStates_spec sw hok hs.prepared
  refine ⟨?_, hsame⟩
  rw [hashBlock, holds_append, holds_append, length_hashStates hok]
  refine ⟨?_, hstates, ?_⟩
  · exact hs.head.of_sameOutside hsame
  · exact hs.tail.of_sameOutside hsame

/-! ## Another key -/

section

variable {key : Option Bytes}

def HashSetupData.withKey (h : HashSetupData) (key : Option Bytes) : HashSetupData := { h with authKey := key }

lemma length_hashBlock (hok : HashOk mode h cipherKey) : (hashBlock sw mode h cipherKey).length =
    16 + (statesSize mode h.hashAlgorithm + (hashTail mode h).length) := by
  rw [hashBlock, length_append, length_append, length_hashHead, length_hashStates hok]

lemma hashTail_withKey (hsnow : h.hashAlgorithm ≠ .snow3gUia2) : hashTail mode (h.withKey key) = hashTail mode h := by
  unfold hashTail
  rw [if_neg hsnow, if_neg (show (h.withKey key).hashAlgorithm ≠ .snow3gUia2 from hsnow)]
  rfl

lemma length_key_withKey (h : HashSetupData) (key : Option Bytes) : (h.withKey key).key.length = h.key.length := by
  rw [length_key, length_key]
  rfl

variable (hok : HashOk mode h cipherKey) (hok' : HashOk mode (h.withKey key) cipherKey')
  (hheld : Holds m off (hashBlock sw mode h cipherKey))

include hok hok' hheld

lemma hashBlock_of_states (hsnow : h.hashAlgorithm ≠ .snow3gUia2) (hstates : Holds m' (off + 16)
      (hashStates sw mode h.hashAlgorithm (h.withKey key).key cipherKey' h.aadLenInBytes))
    (hsame : SameOutside m m' (off + 16) (statesSize mode h.hashAlgorithm)) :
    Holds m' off (hashBlock sw mode (h.withKey key) cipherKey') := by
  rw [hashBlock, holds_append, holds_append, length_hashStates hok] at hheld
  rw [hashBlock, holds_append, holds_append, length_hashStates hok', hashTail_withKey hsnow]
  obtain ⟨hhead, -, htail⟩ := hheld
  refine ⟨?_, hstates, ?_⟩
  · exact hhead.of_sameOutside hsame
  · exact htail.of_sameOutside hsame

lemma holds_precompute (hmode : mode = .mode1) (hsnow : h.hashAlgorithm ≠ .snow3gUia2) :
    let st2 := off + 16 + h.hashAlgorithm.state1Sz
    let m₁ := if h.hashAlgorithm = .aesCmac then write m st2 (zeroes h.hashAlgorithm.state2Sz) else m
    let m' := precomputeDataCreate sw h.hashAlgorithm (h.withKey key).key cipherKey' h.aadLenInBytes (off + 16) st2 m₁
    Holds m' off (hashBlock sw mode (h.withKey key) cipherKey') ∧
      SameOutside m m' (off + 16) (statesSize mode h.hashAlgorithm) := by
  intro st2 m₁ m'
  have h2 : hasState2 mode h.hashAlgorithm = true := by simp [hasState2, hmode]
  have hstates := hheld
  rw [hashBlock, holds_append, holds_append] at hstates
  replace hstates := hstates.2.1
  have hmid : Prepared mode h.hashAlgorithm (off + 16) m₁ ∧
      SameOutside m m₁ (off + 16) (statesSize mode h.hashAlgorithm) := by
    unfold m₁
    split
    next hcmac =>
      -- the first state is zero, and the second one has just been cleared
      rw [hashStates, if_pos h2, holds_append] at hstates
      obtain ⟨h1, -⟩ := hstates
      rw [statesSize, if_pos h2]
      simp only [st2, hcmac] at h1 ⊢
      refine ⟨⟨fun _ => ⟨fun _ => ?_, nofun, nofun, fun _ => ?_⟩, fun h2' => ?_⟩, sameOutside_write.mono ?_⟩
      · exact h1.write_of_disjoint (Or.inl (Nat.le_refl _))
      · have hz := @holds_write _ m (off + 16 + HashAlgorithm.aesCmac.state1Sz) (zeroes 16 ++ zeroes 32)
        exact (holds_append.mp hz).2
      · rw [← hcmac, h2] at h2'
        cases h2'
      · rw [length_zeroes]
        omega
    next hcmac => exact ⟨prepared_of_holds hok.keyed hcmac hstates, fun i _ => rfl⟩
  obtain ⟨hprepared, hsame⟩ := hmid
  have hspec := writeStates_spec sw hok' hprepared
  rw [writeStates, if_pos (Or.inl hmode)] at hspec
  obtain ⟨hnew, hsame'⟩ := hspec
  exact ⟨hashBlock_of_states hok hok' hheld hsnow hnew (hsame.trans hsame'), hsame.trans hsame'⟩

lemma holds_key (halg : h.hashAlgorithm = .zucEia3 ∨ h.hashAlgorithm = .aesCbcMac) :
    let m' := write m (off + 16 + h.hashAlgorithm.state1Sz) (h.withKey key).key
    Holds m' off (hashBlock sw mode (h.withKey key) cipherKey') ∧
      SameOutside m m' (off + 16) (statesSize mode h.hashAlgorithm) := by
  intro m'
  have h2 : hasState2 mode h.hashAlgorithm = true := by
    rcases halg with halg | halg <;> simp [hasState2, halg]
  have hlen := length_key_withKey h key
  have hstate2 (k c : Octets) : state2Of sw h.hashAlgorithm k c h.aadLenInBytes = k ++ zeroes (32 - k.length) := by
    rcases halg with halg | halg <;> rw [halg] <;> rfl
  have hstate1 (k k' : Octets) : state1Of sw h.hashAlgorithm k = state1Of sw h.hashAlgorithm k' := by
    rcases halg with halg | halg <;> rw [halg] <;> rfl
  have hbound : h.key.length ≤ 32 ∧ h.hashAlgorithm.state2Sz = 32 := by
    have h16 := hok.keys.auth
    have h32 := hok.keys.cbcMac
    rcases halg with halg | halg
    · rw [h16 (by simp [halg]), halg]
      decide
    · exact ⟨h32 halg, by rw [halg]; rfl⟩
  have hsame : SameOutside m m' (off + 16) (statesSize mode h.hashAlgorithm) := by
    rw [statesSize, if_pos h2]
    exact sameOutside_write.mono
  have hstates := hheld
  rw [hashBlock, holds_append, holds_append, hashStates, if_pos h2, hstate2] at hstates
  replace hstates := hstates.2.1
  rw [← append_assoc] at hstates
  have hsnow : h.hashAlgorithm ≠ .snow3gUia2 := by
    rcases halg with halg | halg <;> rw [halg] <;> decide
  refine ⟨hashBlock_of_states hok hok' hheld hsnow ?_ hsame, hsame⟩
  rw [hashStates, if_pos h2, hstate2, hstate1 _ h.key, hlen, ← append_assoc]
  have hnew := hstates.replace hlen
  rwa [length_state1Of sw _ (hok.keyed h2)] at hnew

lemma holds_wireless (halg : h.hashAlgorithm = .snow3gUia2) :
    let m' := write m (off + 16 + statesSize mode h.hashAlgorithm + 8) (h.withKey key).key
    Holds m' off (hashBlock sw mode (h.withKey key) cipherKey') ∧
      SameOutside m m' (off + 16) (statesSize mode h.hashAlgorithm + (hashTail mode h).length) := by
  intro m'
  have hlen := length_key_withKey h key
  have htail (h : HashSetupData) (halg : h.hashAlgorithm = .snow3gUia2)
      (hnested : doNested mode h.hashMode = false) : hashTail mode h =
        cipherConfig ⟨.snow3gUea2, .ecb, false, true⟩ ++ h.key ++ zeroes 16 := by
    simp [hashTail, hnested, halg, wirelessBlock, HashSetupData.key]
  have hstates : hashStates sw mode (h.withKey key).hashAlgorithm (h.withKey key).key cipherKey'
      (h.withKey key).aadLenInBytes = hashStates sw mode h.hashAlgorithm h.key cipherKey h.aadLenInBytes := by
    show hashStates sw mode h.hashAlgorithm _ _ _ = _
    rw [halg]
    rfl
  have hold := htail h halg (hok.snow3g halg).1
  have hsame : SameOutside m m' (off + 16 + statesSize mode h.hashAlgorithm) (hashTail mode h).length := by
    refine sameOutside_write.mono ?_
    rw [hold, length_append, length_append, length_cipherConfig]
    omega
  rw [hashBlock, holds_append, holds_append, length_hashHead, length_hashStates hok, hold] at hheld
  obtain ⟨hhead, hstates', htail'⟩ := hheld
  refine ⟨?_, hsame.mono⟩
  rw [hashBlock, holds_append, holds_append, length_hashStates hok', hstates,
    htail (h.withKey key) halg (hok'.snow3g halg).1]
  refine ⟨?_, ?_, ?_⟩
  · exact hhead.of_sameOutside hsame
  · exact hstates'.of_sameOutside hsame (Or.inl (by rw [length_hashStates hok]))
  · exact htail'.replace hlen

end

end QuickAssist.Sym
