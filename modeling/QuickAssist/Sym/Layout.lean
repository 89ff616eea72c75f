import QuickAssist.Sym.Init

/-!
# What a content descriptor holds

The functions that build a content descriptor write it in pieces, some of them more than once and some in an order
that has nothing to do with their place. This file says what is there in the end, as lists, and that the functions of
`Sym/ContentDesc.lean` write this and nothing else. `Ready` is what the precomputation finds and keeps: zeroes where it
does not write. Keys have the right length (`HashKeys`): the loop for the key of AES in F8 mode works in place, so what
it writes is what was meant only if the length of the key is even.
-/

namespace QuickAssist.Sym

open Lib Lib.Memory List

variable {alg : HashAlgorithm} {authKey cipherKey : Octets} {aadLen : U32} {st1 st2 off keyLen : ℕ} {m key : Bytes}

/-! ## The cipher block -/

def keySetup (alg : CipherAlgorithm) (key : Bytes) (keyLen : ℕ) : Octets :=
  let k := read key 0 keyLen
  match alg with
  | .arc4 | .null => []
  | .kasumiF8 => k ++ (k.map (· ^^^ 0x55) ++ zeroes 16)
  | .aesF8 =>
    read key 0 (keyLen / 2) ++
      ((List.range (keyLen / 2)).map (fun i => key i ^^^ key (keyLen / 2 + i)) ++ zeroes (2 * keyLen))
  | .snow3gUea2 | .zucEea3 => k ++ zeroes 16
  | _ => k

def keySlack (alg : CipherAlgorithm) (keyLen : ℕ) : ℕ :=
  match alg with
  | .aesF8 => keyLen
  | _ => 0

def EvenKey (alg : CipherAlgorithm) (keyLen : ℕ) : Prop := alg = .aesF8 → 2 * (keyLen / 2) = keyLen

lemma length_keySetup (alg : CipherAlgorithm) (key key' : Bytes) (keyLen : ℕ) :
    (keySetup alg key keyLen).length = (keySetup alg key' keyLen).length := by
  cases alg <;> simp [keySetup]

lemma xorKeyMask_cell {half : ℕ} {n i : ℕ} (hi : i < 2 * half) : xorKeyMask off half m n (off + i) =
      if half ≤ i ∧ i - half < n then m (off + (i - half)) ^^^ m (off + i) else m (off + i) := by
  induction n generalizing i with
  | zero => simp [xorKeyMask]
  | succ n ih =>
    unfold xorKeyMask
    by_cases hin : i = half + n
    · -- the cell of this round, whose partner is in the first half
      subst hin
      rw [show off + (half + n) = off + half + n by omega]
      have hself : write (xorKeyMask off half m n) (off + half + n)
          [xorKeyMask off half m n (off + n) ^^^ xorKeyMask off half m n (off + half + n)] (off + half + n + 0) =
            xorKeyMask off half m n (off + n) ^^^ xorKeyMask off half m n (off + half + n) :=
        write_add (Nat.zero_lt_succ _)
      rw [Nat.add_zero] at hself
      rw [hself, if_pos (by omega)]
      have hlow := ih (i := n) (by omega)
      have hhigh := ih (i := half + n) (by omega)
      rw [if_neg (by omega)] at hlow hhigh
      rw [show off + (half + n) = off + half + n by omega] at hhigh
      simp only [hlow, hhigh]
      rw [show off + (half + n - half) = off + n by omega]
    · have hother : write (xorKeyMask off half m n) (off + half + n)
          [xorKeyMask off half m n (off + n) ^^^ xorKeyMask off half m n (off + half + n)] (off + i) =
            xorKeyMask off half m n (off + i) := by
        rcases Nat.lt_or_ge i (half + n) with hlt | hge
        · exact write_of_lt (by omega)
        · exact write_of_le (by simp only [length_singleton]; omega)
      rw [hother, ih hi]
      have hiff : (half ≤ i ∧ i - half < n) ↔ (half ≤ i ∧ i - half < n + 1) := by omega
      simp only [hiff]

lemma xorKeyMask_of_outside {half : ℕ} {n i : ℕ}
    (hi : i < off + half ∨ off + half + n ≤ i) : xorKeyMask off half m n i = m i := by
  induction n with
  | zero => rfl
  | succ n ih =>
    unfold xorKeyMask
    have hwrite : write (xorKeyMask off half m n) (off + half + n)
        [xorKeyMask off half m n (off + n) ^^^ xorKeyMask off half m n (off + half + n)] i =
          xorKeyMask off half m n i := by
      rcases hi with hlt | hge
      · exact write_of_lt (by omega)
      · exact write_of_le (by simp only [length_singleton]; omega)
    rw [hwrite]
    exact ih (by omega)

lemma write_aesF8 (heven : 2 * (keyLen / 2) = keyLen) (m : Bytes) :
    write (xorKeyMask off (keyLen / 2) (write m off (read key 0 keyLen)) keyLen) (off + keyLen)
      (zeroes (2 * keyLen)) = write m off (keySetup .aesF8 key keyLen) := by
  have hlen : (keySetup .aesF8 key keyLen).length = keyLen + 2 * keyLen := by
    simp [keySetup]
    omega
  have hkey (i : ℕ) (hi : i < keyLen) : write m off (read key 0 keyLen) (off + i) = key i := by
    rw [write_add (by simpa using hi)]
    simp [Memory.read]
  apply Holds.eq_write
  · unfold keySetup
    rw [holds_append, holds_append]
    refine ⟨?_, ?_, ?_⟩
    · apply holds_iff.mpr
      intro i hi
      rw [length_read] at hi
      rw [write_of_lt (by omega), xorKeyMask_cell (by omega), if_neg (by omega), hkey i (by omega)]
      simp [Memory.read]
    · apply holds_iff.mpr
      intro i hi
      rw [length_map, length_range] at hi
      rw [length_read, Nat.add_assoc, write_of_lt (by omega), xorKeyMask_cell (by omega),
        if_pos (by omega), Nat.add_sub_cancel_left, hkey _ (by omega), hkey _ (by omega)]
      simp
    · rw [length_read, length_map, length_range, Nat.add_assoc]
      have : keyLen / 2 + keyLen / 2 = keyLen := by omega
      rw [this]
      exact holds_write
  · intro i hi
    have hw := @sameOutside_write _ (xorKeyMask off (keyLen / 2) (write m off (read key 0 keyLen)) keyLen)
      (off + keyLen) (zeroes (2 * keyLen)) i (by rw [length_zeroes]; omega)
    rw [hw, xorKeyMask_of_outside (by omega)]
    exact sameOutside_write i (by rw [length_read]; omega)

/-- **A key is written with one write**, and it takes this room. -/
theorem populateKeySetup_eq {alg : CipherAlgorithm} (heven : EvenKey alg keyLen) (m : Bytes) :
    cipherHwBlockPopulateKeySetup alg key keyLen off m =
      (write m off (keySetup alg key keyLen), (keySetup alg key keyLen).length + keySlack alg keyLen) := by
  have happend (a b : Octets) (n : ℕ) (hn : a.length = n) :
      write (write m off a) (off + n) b = write m off (a ++ b) := by
    rw [← write_write_append, hn]
  have hnil : write m off [] = m := funext (write_of_nil m off)
  cases alg
  case aesF8 =>
    simp only [cipherHwBlockPopulateKeySetup, write_aesF8 (heven rfl), keySlack, Prod.mk.injEq, true_and]
    have := heven rfl
    simp [keySetup]
    omega
  case kasumiF8 =>
    have h2 := happend (read key 0 keyLen) ((read key 0 keyLen).map (· ^^^ 0x55)) keyLen (length_read _ _ _)
    have h3 := happend (read key 0 keyLen ++ (read key 0 keyLen).map (· ^^^ 0x55)) (zeroes 16)
      (keyLen + keyLen) (by simp)
    simp only [cipherHwBlockPopulateKeySetup, h2, Nat.add_assoc off, h3, keySetup, keySlack, append_assoc]
    simp [Nat.add_assoc]
  case snow3gUea2 | zucEea3 =>
    simp only [cipherHwBlockPopulateKeySetup, happend _ _ _ (length_read _ _ _), keySetup, keySlack]
    simp
  all_goals simp [cipherHwBlockPopulateKeySetup, keySetup, keySlack, hnil]

/-- What no write to the block of an offset reaches: it stays as it was. -/
def unwritten (desc : SessionDesc) (off : ℕ) : Octets :=
  let keyLen := desc.cipherKeyLenInBytes.toNat
  read (sessionMemory desc.symOperation) (off + 8 + (keySetup desc.cipherAlgorithm (fun _ => 0) keyLen).length)
    (keySlack desc.cipherAlgorithm keyLen)

/-- The cipher block of an offset. -/
def cipherBlock (desc : SessionDesc) (key : Bytes) (off : ℕ) : Octets :=
  cipherConfig (cipherGetCfgData desc) ++
    (keySetup desc.cipherAlgorithm key desc.cipherKeyLenInBytes.toNat ++ unwritten desc off)

/-! ## The states of a hash -/

/-- The hashes whose states `precomputeDataCreate` writes. -/
def HashAlgorithm.precomputed : HashAlgorithm → Bool
  | none | sha3_256 | aesCbcMac => false
  | _ => true

structure HashKeys (alg : HashAlgorithm) (authKey cipherKey : Octets) : Prop where
  auth : alg = .aesXcbc ∨ alg = .aesCmac ∨ alg = .kasumiF9 ∨ alg = .snow3gUia2 ∨ alg = .zucEia3 → authKey.length = 16
  cbcMac : alg = .aesCbcMac → authKey.length ≤ 32
  ccm : alg = .aesCcm → cipherKey.length = 16

def state1Of (sw : OsalCrypto) (alg : HashAlgorithm) (authKey : Octets) : Octets :=
  if alg.zeroState1 then zeroes alg.state1Length
  else symHashCompute sw alg (hmacPad alg authKey 0x36) ++ zeroes (alg.state1Sz - alg.stateSize)

def state2Of (sw : OsalCrypto) (alg : HashAlgorithm) (authKey cipherKey : Octets) (aadLen : U32) : Octets :=
  match alg with
  | .aesXcbc =>
    sw.aesEncrypt authKey (alg.initState.take 16) ++ (sw.aesEncrypt authKey ((alg.initState.drop 16).take 16) ++
        sw.aesEncrypt authKey (alg.initState.drop 32))
  | .aesCmac =>
    let k1 := cmacSubkey (sw.aesEncrypt authKey (zeroes 16))
    authKey ++ (k1 ++ cmacSubkey k1)
  | .aesCcm => cipherKey ++ zeroes 16
  | .aesGcm | .aesGmac => sw.aesEncrypt cipherKey (zeroes 16) ++ (wordBytesSwapped aadLen ++ zeroes 20)
  | .kasumiF9 => authKey ++ authKey.map (· ^^^ 0xAA)
  | .snow3gUia2 => zeroes 24
  | .zucEia3 | .aesCbcMac => authKey ++ zeroes (32 - authKey.length)
  | _ => symHashCompute sw alg (hmacPad alg authKey 0x5c) ++ zeroes (alg.state2Sz - alg.stateSize)

lemma length_state1Of (sw : OsalCrypto) (authKey : Octets)
    (halg : alg ≠ .none ∧ alg ≠ .sha3_256) : (state1Of sw alg authKey).length = alg.state1Sz := by
  obtain ⟨hnone, hsha3⟩ := halg
  cases alg <;> simp [state1Of, HashAlgorithm.zeroState1, HashAlgorithm.state1Length,
    HashAlgorithm.stateSize, alignQuadword] at hnone hsha3 ⊢

lemma length_state2Of (sw : OsalCrypto) {authKey cipherKey : Octets}
    (aadLen : U32) (halg : alg ≠ .none ∧ alg ≠ .sha3_256) (hk : HashKeys alg authKey cipherKey) :
    (state2Of sw alg authKey cipherKey aadLen).length = alg.state2Sz := by
  obtain ⟨hnone, hsha3⟩ := halg
  have hauth := hk.auth
  have hcbc := hk.cbcMac
  have hccm := hk.ccm
  cases alg
  case none => exact absurd rfl hnone
  case sha3_256 => exact absurd rfl hsha3
  case aesCbcMac =>
    have hlen := hcbc rfl
    simp [state2Of, HashAlgorithm.state2Length, alignQuadword]
    omega
  all_goals
    simp [state2Of, HashAlgorithm.state2Length, HashAlgorithm.stateSize, alignQuadword,
      sw.length_aesEncrypt] at hauth hccm ⊢
    try omega

structure Ready (alg : HashAlgorithm) (st1 st2 : ℕ) (m : Bytes) : Prop where
  state1 : alg.zeroState1 = true → Holds m st1 (zeroes alg.state1Length)
  pad1 : alg.zeroState1 = false → Holds m (st1 + alg.stateSize) (zeroes (alg.state1Sz - alg.stateSize))
  pad2 : alg.zeroState1 = false → Holds m (st2 + alg.stateSize) (zeroes (alg.state2Sz - alg.stateSize))
  cmac : alg = .aesCmac → Holds m (st2 + 16) (zeroes 32)

lemma hmac_holds {a b : Octets} {p q : ℕ} (hst : st1 + a.length + p = st2) (h1 : Holds m (st1 + a.length) (zeroes p))
    (h2 : Holds m (st2 + b.length) (zeroes q)) : Holds (write (write m st1 a) st2 b) st1 (a ++ zeroes p) ∧
      Holds (write (write m st1 a) st2 b) st2 (b ++ zeroes q) := by
  refine ⟨holds_append.mpr ⟨?_, ?_⟩, holds_append.mpr ⟨holds_write, ?_⟩⟩
  · exact holds_write.write_of_disjoint
  · exact Holds.write_of_disjoint h1.write_of_disjoint
  · exact Holds.write_of_disjoint h2.write_of_disjoint

lemma cmacPreCompute_eq (sw : OsalCrypto) {key : Octets}
    (hkey : key.length = 16) (hz : Holds m (st2 + 16) (zeroes 32)) (cipherKey : Octets)
    (aadLen : U32) : cmacPreCompute sw key st2 m = write m st2 (state2Of sw .aesCmac key cipherKey aadLen) := by
  have hE (b : Octets) : (sw.aesEncrypt key b).length = 16 := sw.length_aesEncrypt key b
  have hz16 : Holds m (st2 + 16) (zeroes 16) := (holds_append (a := zeroes 16) (b := zeroes 16)).mp hz |>.1
  unfold cmacPreCompute
  dsimp only
  generalize hinit : HashAlgorithm.aesCmac.initState.take 16 = init
  have hinitLen : init.length = 16 := by rw [← hinit]; rfl
  -- the first block that is encrypted is not one that was written
  have hread : read (write (write (write m st2 key) st2 init) st2 key) (st2 + 16) 16 = zeroes 16 := by
    rw [read_write_of_disjoint (by omega), read_write_of_disjoint (by omega), read_write_of_disjoint (by omega)]
    exact hz16
  rw [hread]
  have hheld : Holds (write (write (write m st2 key) st2 init) st2 key) st2 key := holds_write
  have hsame : SameOutside m (write (write (write m st2 key) st2 init) st2 key) st2 48 :=
    (sameOutside_write.mono.trans sameOutside_write.mono).trans sameOutside_write.mono
  generalize write (write (write m st2 key) st2 init) st2 key = m3 at hheld hsame ⊢
  generalize hE1 : sw.aesEncrypt key (zeroes 16) = e1
  have hlen1 : e1.length = 16 := by rw [← hE1, hE]
  generalize hE2 : sw.aesEncrypt key (read (write m3 (st2 + 16) e1) (st2 + 32) 16) = e2
  have hlen2 : e2.length = 16 := by rw [← hE2, hE]
  have hk1 : read (write (write m3 (st2 + 16) e1) (st2 + 32) e2) (st2 + 16) 16 = e1 := by
    rw [read_write_of_disjoint (by omega), ← hlen1, read_write_self]
  rw [hk1]
  apply Holds.eq_write
  · simp only [state2Of, hE1]
    rw [holds_append, holds_append, length_cmacSubkey, hkey]
    refine ⟨?_, ?_, holds_write⟩
    · refine Holds.write_of_disjoint ?_
      refine Holds.write_of_disjoint ?_
      refine Holds.write_of_disjoint ?_
      exact hheld.write_of_disjoint
    · exact holds_write.write_of_disjoint
  · have hlen : (state2Of sw .aesCmac key cipherKey aadLen).length = 48 := by
      simp [state2Of, hkey]
    rw [hlen]
    have hstep (m : Bytes) (off : ℕ) (l : Octets) (hoff : st2 ≤ off)
        (hend : off + l.length ≤ st2 + 48) : SameOutside m (write m off l) st2 48 :=
      sameOutside_write.mono hend
    refine (((hsame.trans (hstep _ _ _ ?_ ?_)).trans (hstep _ _ _ ?_ ?_)).trans
      (hstep _ _ _ ?_ ?_)).trans (hstep _ _ _ ?_ ?_) <;> (try rw [length_cmacSubkey]) <;> omega

lemma write_write_of_le {a b : Octets} (h : b.length ≤ a.length) :
    write (write m off a) off b = write m off (b ++ a.drop b.length) := by
  apply Holds.eq_write
  · rw [holds_append]
    refine ⟨holds_write, ?_⟩
    refine Holds.write_of_disjoint ?_
    have ha := @holds_write _ m off (a.take b.length ++ a.drop b.length)
    rw [holds_append, length_take, Nat.min_eq_left h, take_append_drop] at ha
    exact ha.2
  · rw [length_append, length_drop]
    exact (@sameOutside_write _ m off a).mono.trans sameOutside_write.mono

section

variable (sw : OsalCrypto)

lemma precompute_eq_write (halg : alg.precomputed = true)
    (hzero : alg.zeroState1 = true) (hk : HashKeys alg authKey cipherKey) (hr : Ready alg st1 st2 m) :
    precomputeDataCreate sw alg authKey cipherKey aadLen st1 st2 m =
      write m st2 (state2Of sw alg authKey cipherKey aadLen) := by
  have hcmac := hr.cmac
  have hauth := hk.auth
  cases alg
  case aesCmac => exact cmacPreCompute_eq sw (hauth (by simp)) (hcmac rfl) cipherKey aadLen
  case aesGcm | aesGmac =>
    have hE := sw.length_aesEncrypt cipherKey (zeroes 16)
    have hfirst : write (write m st2 (zeroes (16 + 8 + 16))) st2 (sw.aesEncrypt cipherKey (zeroes 16)) =
        write m st2 (sw.aesEncrypt cipherKey (zeroes 16) ++ zeroes 24) := by
      rw [write_write_of_le (by rw [hE]; simp), hE]
      rfl
    simp only [precomputeDataCreate, hfirst, state2Of]
    apply Holds.eq_write
    · have hheld := @holds_write _ m st2 (sw.aesEncrypt cipherKey (zeroes 16) ++ (zeroes 4 ++ zeroes 20))
      rw [holds_append, holds_append, hE, length_zeroes] at hheld
      rw [holds_append, holds_append, hE, length_wordBytesSwapped]
      refine ⟨?_, holds_write, ?_⟩
      · exact hheld.1.write_of_disjoint (by rw [hE]; omega)
      · exact hheld.2.2.write_of_disjoint
    · refine SameOutside.trans (sameOutside_write.mono ?_) (sameOutside_write.mono ?_) <;> simp [hE]
  case zucEia3 =>
    have hlen := hauth (by simp)
    simp only [precomputeDataCreate, state2Of]
    rw [write_write_of_le (Nat.le_trans (Nat.le_of_eq hlen) (by decide)), hlen]
    rfl
  case none | sha3_256 | aesCbcMac => cases halg
  case md5 | sha1 | sha224 | sha256 | sha384 | sha512 => cases hzero
  all_goals rfl

lemma precompute_eq_hmac (hzero : alg.zeroState1 = false) :
    precomputeDataCreate sw alg authKey cipherKey aadLen st1 st2 m =
      write (write m st1 (symHashCompute sw alg (hmacPad alg authKey 0x36))) st2
        (symHashCompute sw alg (hmacPad alg authKey 0x5c)) := by
  cases alg <;> first | rfl | exact absurd hzero (by decide)

lemma state2Of_hmac (hzero : alg.zeroState1 = false) :
    state2Of sw alg authKey cipherKey aadLen = symHashCompute sw alg (hmacPad alg authKey 0x5c) ++
      zeroes (alg.state2Sz - alg.stateSize) := by
  cases alg <;> first | rfl | exact absurd hzero (by decide)

end

lemma le_alignQuadword (n : ℕ) : n ≤ alignQuadword n := by
  unfold alignQuadword
  omega

lemma stateSize_le (halg : alg ≠ .none ∧ alg ≠ .sha3_256) (hzero : alg.zeroState1 = false) :
    alg.stateSize ≤ alg.state1Sz ∧ alg.stateSize ≤ alg.state2Sz := by
  revert halg hzero
  cases alg <;> decide

section

variable (sw : OsalCrypto)

section

variable (halg : alg.precomputed = true) (hk : HashKeys alg authKey cipherKey)
  (hst : st1 + alg.state1Sz = st2) (hr : Ready alg st1 st2 m)

include halg hk hst hr

/-- **The states of the hash are what they should be**, where zeroes were where they should be. -/
theorem precompute_holds : Holds (precomputeDataCreate sw alg authKey cipherKey aadLen st1 st2 m) st1
      (state1Of sw alg authKey ++ state2Of sw alg authKey cipherKey aadLen) := by
  have hne : alg ≠ .none ∧ alg ≠ .sha3_256 := by
    constructor <;> rintro rfl <;> cases halg
  rw [holds_append, length_state1Of sw authKey hne, hst]
  rcases hzero : alg.zeroState1 with _ | _
  · obtain ⟨hle1, hle2⟩ := stateSize_le hne hzero
    have hlen1 := length_symHashCompute sw alg (hmacPad alg authKey 0x36)
    have hlen2 := length_symHashCompute sw alg (hmacPad alg authKey 0x5c)
    have hpad1 := hr.pad1 hzero
    have hpad2 := hr.pad2 hzero
    rw [← hlen1] at hpad1
    rw [← hlen2] at hpad2
    have hheld := hmac_holds (by omega) hpad1 hpad2
    rw [hlen1, hlen2] at hheld
    rw [precompute_eq_hmac sw hzero]
    refine ⟨?_, ?_⟩
    · rw [state1Of, if_neg (by simp [hzero])]
      exact hheld.1
    · rw [state2Of_hmac sw hzero]
      exact hheld.2
  · rw [precompute_eq_write sw halg hzero hk hr]
    refine ⟨?_, holds_write⟩
    have hle : _ ≤ alg.state1Sz := le_alignQuadword _
    rw [state1Of, if_pos hzero]
    exact (hr.state1 hzero).write_of_disjoint

lemma precompute_frame : SameOutside m (precomputeDataCreate sw alg authKey cipherKey aadLen st1 st2 m) st1
      (alg.state1Sz + alg.state2Sz) := by
  have hne : alg ≠ .none ∧ alg ≠ .sha3_256 := by
    constructor <;> rintro rfl <;> cases halg
  rcases hzero : alg.zeroState1 with _ | _
  · obtain ⟨hle1, hle2⟩ := stateSize_le hne hzero
    rw [precompute_eq_hmac sw hzero]
    refine SameOutside.trans (sameOutside_write.mono ?_)
      (sameOutside_write.mono ?_) <;> (try rw [length_symHashCompute]) <;> omega
  · rw [precompute_eq_write sw halg hzero hk hr]
    refine sameOutside_write.mono ?_
    rw [length_state2Of sw aadLen hne hk]
    omega

end

end

end QuickAssist.Sym
