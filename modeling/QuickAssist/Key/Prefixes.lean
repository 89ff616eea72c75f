import QuickAssist.Key.Tls

/-!
# The HMAC keys of TLS

The pseudo-random function of TLS 1.0 and 1.1 (RFC 2246, RFC 4346) splits the secret into halves of equal length,
which share a byte if the length is odd, and uses the first as key of HMAC-MD5 and the second as key of HMAC-SHA1. The
one of TLS 1.2 (RFC 5246) uses the secret as key of one HMAC. A key that is longer than the block of its hash is
replaced by its hash, and keys are padded with zeroes.

**The defect.** Secrets of up to 512 bytes are accepted for every operation, and hashed only for the derivation of a
master secret and for user-defined operations (`long_secret_overruns`). For any other operation the length of a longer
prefix is cast to eight bits, and so is that of its padding, which is negative: what is zeroed runs past the end of
the buffer, over the callback of the request. From 256 bytes on it is the secret that is cut.
-/

namespace QuickAssist.Key

open Lib Lib.Memory List

variable {buf : Buffer U8} {off size' offInner offOuter : ℕ} {src secret st kb : Bytes}
  {size padding : U8} {setup : NestedSetup} {c : Cookie} {hash : Octets → Octets}
  {key : Octets} {alg : HashAlgorithm} {len n : U32} {sw : SoftwareHashes} {op : TlsOpData}
  {cmd : TlsCmd}
open QuickAssist.Sym (HashAlgorithm Failure reject reject_eq_ok Bytes)

/-! ## What is prescribed -/

def hmacKey (hash : Octets → Octets) (block : ℕ) (key : Octets) : Octets :=
  let key := if block < key.length then hash key else key
  key ++ replicate (block - key.length) 0

def halfLen (n : ℕ) : ℕ := (n + 1) / 2

def outerKey (sw : SoftwareHashes) (alg : HashAlgorithm) (secret : Octets) : TlsCmd → Octets
  | .tlsV11 => hmacKey (sw.full .md5) 64 (secret.take (halfLen secret.length))
  | .tlsV12 => hmacKey (sw.full alg) alg.blockLength.toNat secret

def innerKey (sw : SoftwareHashes) (alg : HashAlgorithm) (secret : Octets) : TlsCmd → Octets
  | .tlsV11 => hmacKey (sw.full .sha1) 64 (secret.drop (secret.length - halfLen secret.length))
  | .tlsV12 => hmacKey (sw.full alg) alg.blockLength.toNat secret

def TlsCmd.block (alg : HashAlgorithm) : TlsCmd → ℕ
  | .tlsV11 => 64
  | .tlsV12 => alg.blockLength.toNat

structure Prescribed (sw : SoftwareHashes) (cmd : TlsCmd) (alg : HashAlgorithm)
    (secret : Octets) (c : Cookie) : Prop where
  inside : c.hashStateBuffer.Within maxHashStateBuffer ∧ c.hashKeyBuffer.Within hashBufferLen
  whole : ∀ i < secret.length, ∃ r ∈ c.secretReads, r.1 ≤ i ∧ i < r.1 + r.2
  inner : read c.hashStateBuffer.cells 0 (cmd.block alg) = innerKey sw alg secret cmd
  outer : read c.hashStateBuffer.cells (cmd.block alg) (cmd.block alg) = outerKey sw alg secret cmd

def Fits (cmd : TlsCmd) (alg : HashAlgorithm) (op : TlsOpData) : Prop :=
  op.tlsOp.HashesSecret ∨ match cmd with
    | .tlsV11 => op.secret.dataLenInBytes ≤ tlsV11SecretLenMax
    | .tlsV12 => op.secret.dataLenInBytes ≤ alg.blockLength

/-! ## Writing a prefix -/

lemma within_populatePrefix : (populatePrefix buf off src size padding).Within size' ↔
      buf.Within size' ∧ off + (size.toNat + padding.toNat) ≤ size' := by
  unfold populatePrefix
  by_cases hpad : 0 < padding
  · simp only [hpad, if_true, within_write, length_read, length_replicate, and_assoc]
    apply and_congr_right
    intro _
    omega
  · have hzero : padding.toNat = 0 := by bv_omega
    simp only [hpad, if_false, within_write, length_read, hzero, Nat.add_zero]

lemma populatePrefix_cells : (populatePrefix buf off src size padding).cells =
      write (write buf.cells off (read src 0 size.toNat)) (off + size.toNat) (replicate padding.toNat 0) := by
  unfold populatePrefix
  by_cases hpad : 0 < padding
  · rw [if_pos hpad]
    rfl
  · have hzero : padding.toNat = 0 := by bv_omega
    rw [if_neg hpad, hzero]
    funext i
    exact (write_of_nil _ _ i).symm

lemma read_populatePrefix : read (populatePrefix buf off src size padding).cells off (size.toNat + padding.toNat) =
      read src 0 size.toNat ++ replicate padding.toNat 0 := by
  rw [populatePrefix_cells]
  have := read_write_padded buf.cells off (read src 0 size.toNat) 0 padding.toNat
  rwa [length_read] at this

lemma read_before_populatePrefix {off' n : ℕ} (h : off' + n ≤ off) :
    read (populatePrefix buf off src size padding).cells off' n = read buf.cells off' n := by
  rw [populatePrefix_cells, read_write_of_disjoint (Or.inl (by omega)), read_write_of_disjoint (Or.inl h)]

/-! ## The two prefixes -/

def Laid (alg : HashAlgorithm) : Prop := alg.blockLength = 64 ∨ alg.blockLength = 128

lemma Laid.lt (h : Laid alg) : alg.blockLength.toNat < 256 := by
  rcases h with h | h <;> rw [h] <;> decide

lemma params_of_laid (h : Laid alg) : let p := hashSetupReqParamsMetaData alg
    let block := alg.blockLength.toNat
    p.innerPrefixSz.toNat = block ∧ p.outerPrefixOffset.toNat <<< 3 = block ∧
      BitVec.ofNat 8 (((p.innerPrefixSz.toNat + p.outerPrefixSz.toNat) >>> 3) <<< 3) - p.innerPrefixSz =
        p.innerPrefixSz ∧ 0 < block ∧ block + block ≤ maxHashStateBuffer := by
  unfold hashSetupReqParamsMetaData
  rcases h with h | h
  all_goals
    rw [h]
    decide

/-- A prefix and its padding fill the block, unless the prefix is longer: then the padding, which is a
`Cpa8U`, is one of almost 256 bytes. -/
lemma size_add_padding {block size padding : U8} (h : padding = block - size) : size.toNat + padding.toNat =
      if size.toNat ≤ block.toNat then block.toNat else 256 + block.toNat := by
  split_ifs
  · bv_omega
  · bv_omega

/-- The sizes of the prefixes, which are `Cpa8U`. -/
def NestedSetup.innerSize (setup : NestedSetup) : U8 := setup.innerPrefixLenInBytes.setWidth 8

def NestedSetup.outerSize (setup : NestedSetup) : U8 := setup.outerPrefixLenInBytes.setWidth 8

abbrev NestedSetup.block (setup : NestedSetup) : ℕ := setup.hashAlgorithm.blockLength.toNat

lemma populateHashState_eq (secret : Bytes) (c : Cookie) (h : Laid setup.hashAlgorithm) : ∃ p q : U8,
      setup.innerSize.toNat + p.toNat =
        (if setup.innerSize.toNat ≤ setup.block then setup.block else 256 + setup.block) ∧
      setup.outerSize.toNat + q.toNat =
        (if setup.outerSize.toNat ≤ setup.block then setup.block else 256 + setup.block) ∧
      (populateHashState secret setup c).hashStateBuffer =
        populatePrefix (populatePrefix c.hashStateBuffer 0 (setup.innerPrefixData.memory secret c) setup.innerSize p)
          setup.block (setup.outerPrefixData.memory secret c) setup.outerSize q := by
  obtain ⟨hinner, hoff, hpad, -, -⟩ := params_of_laid h
  refine ⟨(hashSetupReqParamsMetaData setup.hashAlgorithm).innerPrefixSz - setup.innerSize,
    (hashSetupReqParamsMetaData setup.hashAlgorithm).innerPrefixSz - setup.outerSize, ?_, ?_, ?_⟩
  · rw [size_add_padding rfl, hinner]
  · rw [size_add_padding rfl, hinner]
  · unfold populateHashState hashStatePrefixAadBufferPopulate
    dsimp only
    rw [hpad, Nat.zero_add, hoff]
    rfl

section

variable (h : Laid setup.hashAlgorithm)

include h

lemma within_populateHashState (hc : c.hashStateBuffer.Within maxHashStateBuffer) :
    (populateHashState secret setup c).hashStateBuffer.Within maxHashStateBuffer ↔
      setup.innerSize.toNat ≤ setup.block ∧ setup.outerSize.toNat ≤ setup.block := by
  obtain ⟨-, -, -, (hblock : 0 < setup.block), (hfit : setup.block + setup.block ≤ 256)⟩ := params_of_laid h
  obtain ⟨p, q, hp, hq, hbuf⟩ := populateHashState_eq secret c h
  rw [hbuf, within_populatePrefix, within_populatePrefix, hp, hq]
  unfold maxHashStateBuffer at hc ⊢
  constructor
  · rintro ⟨⟨-, hinner⟩, houter⟩
    split_ifs at hinner houter <;> omega
  · rintro ⟨hinner, houter⟩
    rw [if_pos hinner, if_pos houter]
    exact ⟨⟨hc, by omega⟩, by omega⟩

lemma inner_populateHashState (hsize : setup.innerSize.toNat ≤ setup.block) :
    read (populateHashState secret setup c).hashStateBuffer.cells 0 setup.block =
      read (setup.innerPrefixData.memory secret c) 0 setup.innerSize.toNat ++
        replicate (setup.block - setup.innerSize.toNat) 0 := by
  obtain ⟨p, q, hp, -, hbuf⟩ := populateHashState_eq secret c h
  rw [if_pos hsize] at hp
  rw [hbuf, read_before_populatePrefix (Nat.le_of_eq (Nat.zero_add _)), ← hp, read_populatePrefix,
    Nat.add_sub_cancel_left]

lemma outer_populateHashState (hsize : setup.outerSize.toNat ≤ setup.block) :
    read (populateHashState secret setup c).hashStateBuffer.cells setup.block setup.block =
      read (setup.outerPrefixData.memory secret c) 0 setup.outerSize.toNat ++
        replicate (setup.block - setup.outerSize.toNat) 0 := by
  obtain ⟨p, q, -, hq, hbuf⟩ := populateHashState_eq secret c h
  rw [if_pos hsize] at hq
  rw [hbuf]
  refine (congrArg _ hq.symm).trans (read_populatePrefix.trans ?_)
  rw [← hq, Nat.add_sub_cancel_left]

end

/-! ## Keys -/

section

variable {block : ℕ}

lemma hmacKey_of_le (h : key.length ≤ block) : hmacKey hash block key = key ++ replicate (block - key.length) 0 := by
  unfold hmacKey
  rw [if_neg (Nat.not_lt.mpr h)]

lemma hmacKey_of_lt (h : block < key.length) :
    hmacKey hash block key = hash key ++ replicate (block - (hash key).length) 0 := by
  unfold hmacKey
  rw [if_pos h]

end

lemma toNat_setWidth_eight (h : n.toNat < 256) : (n.setWidth 8).toNat = n.toNat := by
  rw [BitVec.toNat_setWidth, Nat.mod_eq_of_lt h]

lemma read_memory_secret (secret : Bytes) (c : Cookie) (off n : ℕ) :
    read ((PrefixData.secret off).memory secret c) 0 n = read secret off n := by
  apply read_congr
  intro i _
  rw [Nat.zero_add]
  rfl

lemma read_memory_hashKey (secret : Bytes) (c : Cookie) (off n : ℕ) :
    read ((PrefixData.hashKey off).memory secret c) 0 n = read c.hashKeyBuffer.cells off n := by
  apply read_congr
  intro i _
  rw [Nat.zero_add]
  rfl

/-! ## What is accepted -/

lemma accepted_of_checkParamSslTls {op : TlsOpData}
    {out : FlatBuffer} (h : checkParamSslTls cmd alg op out = .ok ()) :
    op.secret.dataLenInBytes.toNat ≤ 512 ∧ (cmd = .tlsV12 → alg = .sha256 ∨ alg = .sha384 ∨ alg = .sha512) := by
  simp only [checkParamSslTls, bind_eq_ok, reject_eq_ok] at h
  obtain ⟨-, hdigest, -, -, -, -, -, hlen, -, -⟩ := h
  constructor
  · have hmax : cmd.maxSecretLen.toNat = 512 := by cases cmd <;> rfl
    rw [← hmax]
    exact BitVec.not_lt.mp hlen
  · intro hcmd
    have hsize : getDigestSizeFromHashAlgo alg ≠ 0 := fun hzero => hdigest ⟨hcmd, hzero⟩
    cases alg <;> simp [getDigestSizeFromHashAlgo] at hsize ⊢

/-! ## Prefixes of at most a block -/

lemma within_alloc (st kb : Bytes) (size : ℕ) :
    (Cookie.alloc st kb).hashStateBuffer.Within size ∧ (Cookie.alloc st kb).hashKeyBuffer.Within size := by
  simp [Cookie.alloc, Buffer.Within]

/-- Prefixes that fit in a block are the prescribed keys, if they are these with their padding. -/
lemma prescribed_populate {secret : Bytes} {c : Cookie} (h : Laid setup.hashAlgorithm)
    (hblock : cmd.block alg = setup.block)
    (hc : c.hashStateBuffer.Within maxHashStateBuffer) (hkeys : c.hashKeyBuffer.Within hashBufferLen)
    (hinner : setup.innerPrefixLenInBytes.toNat ≤ setup.block)
    (houter : setup.outerPrefixLenInBytes.toNat ≤ setup.block)
    (hwhole : ∀ i < key.length, ∃ r ∈ (populateHashState secret setup c).secretReads, r.1 ≤ i ∧ i < r.1 + r.2)
    (hinnerKey : innerKey sw alg key cmd =
      read (setup.innerPrefixData.memory secret c) 0 setup.innerPrefixLenInBytes.toNat ++
        replicate (cmd.block alg - setup.innerPrefixLenInBytes.toNat) 0) (houterKey : outerKey sw alg key cmd =
      read (setup.outerPrefixData.memory secret c) 0 setup.outerPrefixLenInBytes.toNat ++
        replicate (cmd.block alg - setup.outerPrefixLenInBytes.toNat) 0) :
    Prescribed sw cmd alg key (populateHashState secret setup c) := by
  have hinner' : setup.innerSize.toNat = setup.innerPrefixLenInBytes.toNat :=
    toNat_setWidth_eight (Nat.lt_of_le_of_lt hinner h.lt)
  have houter' : setup.outerSize.toNat = setup.outerPrefixLenInBytes.toNat :=
    toNat_setWidth_eight (Nat.lt_of_le_of_lt houter h.lt)
  rw [← hinner'] at hinner hinnerKey
  rw [← houter'] at houter houterKey
  refine ⟨⟨(within_populateHashState h hc).mpr ⟨hinner, houter⟩, hkeys⟩, hwhole, ?_, ?_⟩
  · rw [hinnerKey, hblock, inner_populateHashState h hinner]
  · rw [houterKey, hblock, outer_populateHashState h houter]

/-! ## Prefixes that are copied -/

def copied (alg : HashAlgorithm) (offInner offOuter : ℕ) (len : U32) : NestedSetup :=
  ⟨alg, .secret offInner, len, .secret offOuter, len⟩

lemma copied_of_lt (h : Laid alg) (hlen : alg.blockLength.toNat < len.toNat)
    (hwithin : (populateHashState secret (copied alg offInner offOuter len)
      (.alloc st kb)).hashStateBuffer.Within maxHashStateBuffer) : (len.setWidth 8).toNat + 256 ≤ len.toNat := by
  obtain ⟨hinner, -⟩ := (within_populateHashState h (within_alloc st kb _).1).mp hwithin
  have hle : (len.setWidth 8).toNat ≤ alg.blockLength.toNat := hinner
  rw [BitVec.toNat_setWidth] at hle ⊢
  omega

lemma secretReads_copied : (populateHashState secret (copied alg offInner offOuter len) (.alloc st kb)).secretReads =
      [(offInner, (len.setWidth 8).toNat), (offOuter, (len.setWidth 8).toNat)] :=
  rfl

/-- The keys that are made for an operation are the prescribed ones. -/
abbrev Derives (sw : SoftwareHashes) (cmd : TlsCmd) (alg : HashAlgorithm) (op : TlsOpData) (st kb : Bytes) : Prop :=
  Prescribed sw cmd alg op.secret.data (keyGenTlsGenCommon sw cmd alg op (.alloc st kb))

/-! ## TLS 1.2 -/

lemma tls12_hash (h : alg = .sha256 ∨ alg = .sha384 ∨ alg = .sha512) :
    Laid alg ∧ tlsV12HashedFrom alg = some alg.blockLength ∧
      getDigestSizeFromHashAlgo alg = alg.digestLength ∧ alg.digestLength.toNat ≤ hashBufferLen ∧
      hashBufferLen ≤ alg.blockLength.toNat := by
  rcases h with rfl | rfl | rfl
  · exact ⟨Or.inl rfl, rfl, rfl, by decide, by decide⟩
  all_goals exact ⟨Or.inr rfl, rfl, rfl, by decide, by decide⟩

lemma prescribed_tls12_of_precompute (halg : alg = .sha256 ∨ alg = .sha384 ∨ alg = .sha512)
    (hpre : Precompute alg op) : Derives sw .tlsV12 alg op st kb := by
  obtain ⟨hlaid, hfrom, hsize, hdigest, hblock⟩ := tls12_hash halg
  have hlong : alg.blockLength.toNat < op.secret.dataLenInBytes.toNat := by
    obtain ⟨-, max, hmax, hlt⟩ := hpre
    rw [hfrom] at hmax
    obtain rfl := Option.mem_some_iff.mp hmax
    exact hlt
  have hcompute (secret : Bytes) (n : ℕ) (c : Cookie) : computeHashKey sw alg secret 0 n 0 c = { c with
        hashKeyBuffer := c.hashKeyBuffer.write 0 (sw.full alg (read secret 0 n))
        secretReads := c.secretReads ++ [(0, n)] } := by
    rcases halg with rfl | rfl | rfl <;> rfl
  unfold Derives keyGenTlsGenCommon FlatBuffer.data setupTls12
  dsimp only
  rw [if_pos hpre, hsize, hcompute]
  generalize op.secret.bytes = secret
  have hfull := sw.length_full alg (read secret 0 op.secret.dataLenInBytes.toNat)
  have hle := Nat.le_trans hdigest hblock
  have hkey : hmacKey (sw.full alg) alg.blockLength.toNat (read secret 0 op.secret.dataLenInBytes.toNat) =
      read (write kb 0 (sw.full alg (read secret 0 op.secret.dataLenInBytes.toNat))) 0 alg.digestLength.toNat ++
        replicate (alg.blockLength.toNat - alg.digestLength.toNat) 0 := by
    rw [hmacKey_of_lt (by rwa [length_read]), ← hfull, read_write_self]
  refine prescribed_populate hlaid rfl (within_alloc st kb _).1 ?_ hle hle ?_ ?_ ?_
  · refine within_write.mpr ⟨(within_alloc st kb _).2, ?_⟩
    rw [hfull, Nat.zero_add]
    exact hdigest
  · intro i hi
    rw [length_read] at hi
    exact ⟨(0, op.secret.dataLenInBytes.toNat), mem_singleton_self _, Nat.zero_le i, (Nat.zero_add _).symm ▸ hi⟩
  all_goals
    rw [read_memory_hashKey]
    exact hkey

lemma keyGenTls12_of_not_precompute (hpre : ¬ Precompute alg op) (c : Cookie) :
    keyGenTlsGenCommon sw .tlsV12 alg op c =
      populateHashState op.secret.bytes (copied alg 0 0 op.secret.dataLenInBytes) c := by
  unfold keyGenTlsGenCommon
  dsimp only
  unfold setupTls12
  rw [if_neg hpre]
  rfl

lemma prescribed_tls12_of_le (hlaid : Laid alg) (hpre : ¬ Precompute alg op)
    (hle : op.secret.dataLenInBytes.toNat ≤ alg.blockLength.toNat) : Derives sw .tlsV12 alg op st kb := by
  unfold Derives FlatBuffer.data
  rw [keyGenTls12_of_not_precompute hpre]
  generalize op.secret.bytes = secret
  have hkey : hmacKey (sw.full alg) alg.blockLength.toNat (read secret 0 op.secret.dataLenInBytes.toNat) =
      read secret 0 op.secret.dataLenInBytes.toNat ++
        replicate (alg.blockLength.toNat - op.secret.dataLenInBytes.toNat) 0 := by
    rw [hmacKey_of_le (by rwa [length_read]), length_read]
  apply prescribed_populate hlaid rfl (within_alloc st kb _).1 (within_alloc st kb _).2 hle hle
  · intro i hi
    rw [length_read] at hi
    refine ⟨(0, (op.secret.dataLenInBytes.setWidth 8).toNat), ?_, Nat.zero_le i, ?_⟩
    · exact mem_cons_self
    · rw [toNat_setWidth_eight (Nat.lt_of_le_of_lt hle hlaid.lt), Nat.zero_add]
      exact hi
  all_goals exact hkey.trans (congrArg (· ++ _) (read_memory_secret _ _ _ _).symm)

lemma not_prescribed_tls12_of_lt (hlaid : Laid alg) (hpre : ¬ Precompute alg op)
    (hlt : alg.blockLength.toNat < op.secret.dataLenInBytes.toNat) : ¬ Derives sw .tlsV12 alg op st kb := by
  unfold Derives FlatBuffer.data
  rw [keyGenTls12_of_not_precompute hpre]
  intro hok
  have hcut := copied_of_lt hlaid hlt hok.inside.1
  -- the first byte that is cut off
  obtain ⟨r, hr, -, hread⟩ := hok.whole (op.secret.dataLenInBytes.setWidth 8).toNat (by rw [length_read]; omega)
  rw [secretReads_copied] at hr
  simp only [mem_cons, not_mem_nil, or_false, or_self] at hr
  rw [hr, Nat.zero_add] at hread
  exact Nat.lt_irrefl _ hread

lemma tls12_iff (halg : alg = .sha256 ∨ alg = .sha384 ∨ alg = .sha512) :
    Derives sw .tlsV12 alg op st kb ↔ Fits .tlsV12 alg op := by
  obtain ⟨hlaid, hfrom, -, -, -⟩ := tls12_hash halg
  by_cases hpre : Precompute alg op
  · exact iff_of_true (prescribed_tls12_of_precompute halg hpre) (Or.inl hpre.1)
  · by_cases hle : op.secret.dataLenInBytes ≤ alg.blockLength
    · exact iff_of_true (prescribed_tls12_of_le hlaid hpre hle) (Or.inr hle)
    · have hlt := BitVec.not_le.mp hle
      refine iff_of_false (not_prescribed_tls12_of_lt hlaid hpre hlt) ?_
      rintro (hhashes | hle')
      · exact hpre ⟨hhashes, alg.blockLength, hfrom, hlt⟩
      · exact hle hle'

/-! ## TLS 1.0 and 1.1 -/

lemma toNat_tlsPrefixLen (h : n.toNat ≤ 512) :
    (tlsPrefixLen n).toNat = halfLen n.toNat ∧ (n - tlsPrefixLen n).toNat = n.toNat - halfLen n.toNat := by
  have hlen : (tlsPrefixLen n).toNat = halfLen n.toNat := by
    unfold tlsPrefixLen halfLen
    have hone : (1 : U32).toNat = 1 := rfl
    rw [BitVec.toNat_ushiftRight, BitVec.toNat_add, hone, Nat.mod_eq_of_lt (by omega), Nat.shiftRight_eq_div_pow]
  refine ⟨hlen, ?_⟩
  rw [BitVec.toNat_sub_of_le, hlen]
  rw [BitVec.le_def, hlen]
  unfold halfLen
  omega

lemma tls11_keys (sw : SoftwareHashes) (alg : HashAlgorithm) (secret : Bytes) (n : ℕ) :
    outerKey sw alg (read secret 0 n) .tlsV11 = hmacKey (sw.full .md5) 64 (read secret 0 (halfLen n)) ∧
      innerKey sw alg (read secret 0 n) .tlsV11 =
        hmacKey (sw.full .sha1) 64 (read secret (n - halfLen n) (halfLen n)) := by
  unfold outerKey innerKey
  rw [length_read]
  have hhalf : halfLen n ≤ n := by
    unfold halfLen
    omega
  refine ⟨?_, ?_⟩
  · rw [take_read hhalf]
  · rw [drop_read (Nat.sub_le _ _), Nat.zero_add, Nat.sub_sub_self hhalf]

lemma mem_halves {n i : ℕ} (hi : i < n) :
    (0 ≤ i ∧ i < 0 + halfLen n) ∨ (n - halfLen n ≤ i ∧ i < n - halfLen n + halfLen n) := by
  unfold halfLen
  omega

lemma prescribed_tls11_of_hashed (h : HashesHalves op) (hmax : op.secret.dataLenInBytes.toNat ≤ 512) :
    Derives sw .tlsV11 alg op st kb := by
  obtain ⟨hlen, hsecond⟩ := toNat_tlsPrefixLen hmax
  obtain ⟨houterKey, hinnerKey⟩ := tls11_keys sw alg op.secret.bytes op.secret.dataLenInBytes.toNat
  have hlong : 64 < halfLen op.secret.dataLenInBytes.toNat := by
    have hlt : 128 < op.secret.dataLenInBytes.toNat := h.1
    unfold halfLen
    omega
  unfold Derives keyGenTlsGenCommon FlatBuffer.data setupTls11 computeHashKey
  dsimp only
  rw [if_pos h, hlen, hsecond]
  dsimp only
  generalize op.secret.dataLenInBytes.toNat = n at hlong houterKey hinnerKey ⊢
  generalize op.secret.bytes = secret at houterKey hinnerKey ⊢
  have hmd5 := sw.length_full .md5 (read secret 0 (halfLen n))
  have hsha1 := sw.length_full .sha1 (read secret (n - halfLen n) (halfLen n))
  generalize hs1 : sw.full .md5 (read secret 0 (halfLen n)) = s1 at hmd5 ⊢
  generalize hs2 : sw.full .sha1 (read secret (n - halfLen n) (halfLen n)) = s2 at hsha1 ⊢
  rw [hmacKey_of_lt (by rwa [length_read]), hs1, hmd5] at houterKey
  rw [hmacKey_of_lt (by rwa [length_read]), hs2, hsha1] at hinnerKey
  have hstored2 : read (write (write kb 0 s1) 16 s2) 16 20 = s2 := by
    have := read_write_self (write kb 0 s1) 16 s2
    rwa [hsha1] at this
  have hstored1 : read (write (write kb 0 s1) 16 s2) 0 16 = s1 := by
    have := read_write_self kb 0 s1
    rwa [hmd5] at this
  refine prescribed_populate (Or.inl rfl) rfl (within_alloc st kb _).1 ?_ (by decide) (by decide) ?_ ?_ ?_
  · refine within_write.mpr ⟨within_write.mpr ⟨(within_alloc st kb _).2, ?_⟩, ?_⟩
    · rw [hmd5]
      decide
    · rw [hsha1]
      decide
  · intro i hi
    rw [length_read] at hi
    rcases mem_halves hi with hfirst | hlast
    · exact ⟨_, mem_cons_self, hfirst⟩
    · exact ⟨_, mem_cons_of_mem _ mem_cons_self, hlast⟩
  · rw [hinnerKey]
    exact congrArg (· ++ _) hstored2.symm
  · rw [houterKey]
    exact congrArg (· ++ _) hstored1.symm

lemma keyGenTls11_of_not_hashed (h : ¬ HashesHalves op) (c : Cookie) : keyGenTlsGenCommon sw .tlsV11 alg op c =
      populateHashState op.secret.bytes
        (copied .sha1 (op.secret.dataLenInBytes - tlsPrefixLen op.secret.dataLenInBytes).toNat 0
          (tlsPrefixLen op.secret.dataLenInBytes)) c := by
  unfold keyGenTlsGenCommon
  unfold setupTls11
  dsimp only
  rw [if_neg h]
  rfl

lemma prescribed_tls11_of_le (h : ¬ HashesHalves op) (hle : op.secret.dataLenInBytes.toNat ≤ 128) :
    Derives sw .tlsV11 alg op st kb := by
  obtain ⟨hlen, hsecond⟩ := toNat_tlsPrefixLen (Nat.le_trans hle (by decide))
  obtain ⟨houterKey, hinnerKey⟩ := tls11_keys sw alg op.secret.bytes op.secret.dataLenInBytes.toNat
  have hhalf : halfLen op.secret.dataLenInBytes.toNat ≤ 64 := by
    unfold halfLen
    omega
  have hblock : (tlsPrefixLen op.secret.dataLenInBytes).toNat ≤ HashAlgorithm.sha1.blockLength.toNat := hlen ▸ hhalf
  unfold Derives FlatBuffer.data
  rw [keyGenTls11_of_not_hashed h]
  rw [hmacKey_of_le (by rwa [length_read]), length_read] at houterKey hinnerKey
  apply prescribed_populate (Or.inl rfl) rfl (within_alloc st kb _).1 (within_alloc st kb _).2 hblock hblock
  · intro i hi
    rw [length_read] at hi
    have hcast : ((tlsPrefixLen op.secret.dataLenInBytes).setWidth 8).toNat =
        halfLen op.secret.dataLenInBytes.toNat := by
      rw [toNat_setWidth_eight (Nat.lt_of_le_of_lt hblock (by decide)), hlen]
    rw [secretReads_copied, hcast, hsecond]
    rcases mem_halves hi with hfirst | hlast
    · exact ⟨_, mem_cons_of_mem _ mem_cons_self, hfirst⟩
    · exact ⟨_, mem_cons_self, hlast⟩
  · rw [hinnerKey, ← hsecond, ← hlen]
    exact congrArg (· ++ _) (read_memory_secret _ _ _ _).symm
  · rw [houterKey, ← hlen]
    exact congrArg (· ++ _) (read_memory_secret _ _ _ _).symm

lemma not_prescribed_tls11_of_lt (h : ¬ HashesHalves op) (hmax : op.secret.dataLenInBytes.toNat ≤ 512)
    (hlt : 128 < op.secret.dataLenInBytes.toNat) : ¬ Derives sw .tlsV11 alg op st kb := by
  obtain ⟨hlen, -⟩ := toNat_tlsPrefixLen hmax
  have hhalf : 64 < halfLen op.secret.dataLenInBytes.toNat ∧ halfLen op.secret.dataLenInBytes.toNat ≤ 256 := by
    unfold halfLen
    omega
  unfold Derives FlatBuffer.data
  rw [keyGenTls11_of_not_hashed h]
  intro hok
  have hcut := copied_of_lt (Or.inl rfl) (hlen.symm ▸ hhalf.1) hok.inside.1
  -- nothing is left of either half
  have hzero : ((tlsPrefixLen op.secret.dataLenInBytes).setWidth 8).toNat = 0 := by omega
  obtain ⟨r, hr, hle, hread⟩ := hok.whole 0 (by rw [length_read]; omega)
  rw [secretReads_copied] at hr
  simp only [mem_cons, not_mem_nil, or_false] at hr
  rcases hr with rfl | rfl
  · omega
  · omega

lemma tls11_iff (hmax : op.secret.dataLenInBytes.toNat ≤ 512) :
    Derives sw .tlsV11 alg op st kb ↔ Fits .tlsV11 alg op := by
  by_cases h : HashesHalves op
  · exact iff_of_true (prescribed_tls11_of_hashed h hmax) (Or.inl h.2)
  · by_cases hle : op.secret.dataLenInBytes ≤ tlsV11SecretLenMax
    · exact iff_of_true (prescribed_tls11_of_le h hle) (Or.inr hle)
    · have hlt := BitVec.not_le.mp hle
      refine iff_of_false (not_prescribed_tls11_of_lt h hmax hlt) ?_
      rintro (hhashes | hle')
      · exact h ⟨hlt, hhashes⟩
      · exact hle hle'

/-! ## Requests -/

/-- **The keys of accepted requests** are the prescribed ones iff the operation hashes long secrets or the
secret needs no hashing. -/
theorem tls_prefixes_iff (sw : SoftwareHashes) (cmd : TlsCmd) (alg : HashAlgorithm) (op : TlsOpData)
    (out : FlatBuffer) (st kb : Bytes) (haccepted : checkParamSslTls cmd alg op out = .ok ()) :
    Prescribed sw cmd alg op.secret.data (keyGenTlsGenCommon sw cmd alg op (.alloc st kb)) ↔ Fits cmd alg op := by
  obtain ⟨hmax, halg⟩ := accepted_of_checkParamSslTls haccepted
  cases cmd with
  | tlsV11 => exact tls11_iff hmax
  | tlsV12 => exact tls12_iff (halg rfl)

def onesBuffer (len : U32) : FlatBuffer := ⟨some fun _ => 1, len⟩

def request (tlsOp : TlsOp) (secretLen : U32) : TlsOpData where
  tlsOp := tlsOp
  secret := onesBuffer secretLen
  seed := onesBuffer 64
  generatedKeyLenInBytes := 48
  userLabel := ⟨none, 0⟩

/-- SHA-256 at a secret of 200 bytes. -/
def secretDigest : SoftwareHashes where
  full alg secret :=
    if alg = .sha256 ∧ secret = replicate 200 1 then
      [0x57, 0x80, 0xaf, 0x3e, 0x31, 0xd5, 0x14, 0xb4, 0xe9, 0xa0, 0x61, 0x5d, 0xc6, 0x72, 0xe0, 0x88, 0x45, 0xa0,
       0x87, 0xad, 0x5e, 0x8b, 0x60, 0x5b, 0x00, 0x64, 0xad, 0xa7, 0x5c, 0x9c, 0xa2, 0x44]
    else replicate alg.digestLength.toNat 0
  length_full alg _ := by
    split
    next h =>
      rw [h.1]
      rfl
    next => exact length_replicate

/-- A master secret is derived from 200 bytes. -/
theorem master_secret_prescribed :
    checkParamSslTls .tlsV12 .sha256 (request .masterSecretDerive 200) (onesBuffer 48) = .ok () ∧
      Prescribed secretDigest .tlsV12 .sha256 (request .masterSecretDerive 200).secret.data
        (keyGenTlsGenCommon secretDigest .tlsV12 .sha256 (request .masterSecretDerive 200)
          (.alloc (fun _ => 0xFF) fun _ => 0xFF)) :=
  ⟨rfl, (tls_prefixes_iff _ _ _ _ (onesBuffer 48) _ _ rfl).mpr (Or.inl (Or.inl rfl))⟩

/-- **A long secret for another operation** writes past the buffer of 256 bytes; with 256 bytes, none of the
secret is read. -/
theorem long_secret_overruns :
    (checkParamSslTls .tlsV12 .sha256 (request .keyMaterialDerive 200) (onesBuffer 48) = .ok () ∧
      (keyGenTlsGenCommon secretDigest .tlsV12 .sha256 (request .keyMaterialDerive 200)
          (.alloc (fun _ => 0xFF) fun _ => 0xFF)).hashStateBuffer.writes =
        [(0, 200), (200, 120), (64, 200), (264, 120)] ∧
      ¬ (keyGenTlsGenCommon secretDigest .tlsV12 .sha256 (request .keyMaterialDerive 200)
          (.alloc (fun _ => 0xFF) fun _ => 0xFF)).hashStateBuffer.Within maxHashStateBuffer) ∧
    (checkParamSslTls .tlsV12 .sha256 (request .keyMaterialDerive 256) (onesBuffer 48) = .ok () ∧
      (keyGenTlsGenCommon secretDigest .tlsV12 .sha256 (request .keyMaterialDerive 256)
          (.alloc (fun _ => 0xFF) fun _ => 0xFF)).secretReads = [(0, 0), (0, 0)]) ∧
    (checkParamSslTls .tlsV11 .none (request .serverFinishedDerive 400) (onesBuffer 48) = .ok () ∧
      ¬ (keyGenTlsGenCommon secretDigest .tlsV11 .none (request .serverFinishedDerive 400)
          (.alloc (fun _ => 0xFF) fun _ => 0xFF)).hashStateBuffer.Within maxHashStateBuffer) ∧
    (checkParamSslTls .tlsV11 .none (request .serverFinishedDerive 512) (onesBuffer 48) = .ok () ∧
      (keyGenTlsGenCommon secretDigest .tlsV11 .none (request .serverFinishedDerive 512)
          (.alloc (fun _ => 0xFF) fun _ => 0xFF)).secretReads = [(256, 0), (0, 0)]) := by
  refine ⟨⟨rfl, ?_, ?_⟩, ⟨rfl, rfl⟩, ⟨rfl, ?_⟩, ⟨rfl, rfl⟩⟩
  all_goals decide +kernel

end QuickAssist.Key
