import QuickAssist.Firmware.Ecc

/-!
# Loading the control store

`qat_uclo_init_ustore` fills what a page leaves of the control stores of the engines it is for, and
`qat_uclo_wr_uimage_raw_page` writes the page, each through `qat_hal_wr_uwords`. A store is what was written
to it last; the flag in the address register is no part of an address.

**The defects.** `qat_uclo_fill_uwords` looks for the block of an address and goes on with the blocks behind it
after it has replaced the address by an offset, which another block may cover: `page_loaded_iff`.
`qat_uclo_init_ustore` fills one word more than there are after the page: `initUstore_fills_iff`.

**Outside.** A block has a word, ends in the address space, and is in a file of less than 4 GB.
-/

namespace QuickAssist.Firmware

open List Option
open BitVec (le_def ofNat toNat_ofNat)

/-- A word that goes to a store, with the index that it was read at. -/
structure UwordWrite where
  ae : ℕ
  addr : U32
  index : ℕ
  word : U64

/-- What is at an address, unless nothing was written there. -/
def contents : List UwordWrite → ℕ → U32 → Option U64
  | [], _, _ => none
  | w :: ws, ae, addr => (contents ws ae addr).or (if w.ae = ae ∧ w.addr = addr then some w.word else none)

lemma contents_append (ws ws' : List UwordWrite) (ae : ℕ) (addr : U32) :
    contents (ws ++ ws') ae addr = (contents ws' ae addr).or (contents ws ae addr) := by
  induction ws with
  | nil => simp [contents]
  | cons w ws ih => rw [cons_append, contents, ih, Option.or_assoc, contents]

lemma toNat_sub_ofNat_lt {x : U32} {c n : ℕ} (hc : c < 2 ^ 32) (hle : c ≤ n) (hn : n ≤ 2 ^ 32) :
    (x - .ofNat 32 c).toNat < n - c ↔ c ≤ x.toNat ∧ x.toNat < n := by
  rw [BitVec.toNat_sub, toNat_ofNat, Nat.mod_eq_of_lt hc]
  omega

/-- Source: `qat_hal_wr_uwords`, for the array `uword` from `first` on. The address goes up by one with
each word. -/
def qatHalWrUwords (ae : ℕ) (uaddr : U32) (wordsNum : ℕ) (uword : ℕ → U64) (first : ℕ) : List UwordWrite :=
  (List.range wordsNum).map fun i => ⟨ae, uaddr + .ofNat 32 i, first + i, qatHalSetUwordEcc (uword (first + i))⟩

lemma contents_wrUwords {n : ℕ} (hn : n ≤ 2 ^ 32) (ae ae' : ℕ) (uaddr addr : U32) (uword : ℕ → U64)
    (first : ℕ) : contents (qatHalWrUwords ae uaddr n uword first) ae' addr =
      if ae = ae' ∧ (addr - uaddr).toNat < n then
        some (qatHalSetUwordEcc (uword (first + (addr - uaddr).toNat))) else none := by
  induction n with
  | zero => simp [qatHalWrUwords, contents]
  | succ n ih =>
    specialize ih (by omega)
    rw [qatHalWrUwords, range_succ, map_append, contents_append, ← qatHalWrUwords, ih]
    have haddr : uaddr + ofNat 32 n = addr ↔ (addr - uaddr).toNat = n := by
      constructor
      · rintro rfl
        bv_omega
      · intro h
        bv_omega
    simp only [map_cons, map_nil, contents, none_or, haddr]
    generalize (addr - uaddr).toNat = d
    by_cases hae : ae = ae'
    · by_cases hlast : d = n
      · simp [hae, hlast]
      · have hlt : d < n + 1 ↔ d < n := by omega
        simp [hae, hlast, hlt]
    · simp [hae]

/-! ## Writing a page -/

/-- A block of micro-words, `struct icp_qat_uclo_encap_uwblock` without what the words are. A block of no words is left
out: at address 0 the end of its range wraps around, and every address is in it. -/
structure EncapUwblock where
  startAddr : U32
  wordsNum : U32
  pos : 0 < wordsNum.toNat
  le : startAddr.toNat + wordsNum.toNat ≤ 2 ^ 32
  bytes_le : wordsNum.toNat * 6 ≤ 2 ^ 32

structure EncapPage where
  begAddrP : U32
  microWordsNum : U32
  uwblockNum : ℕ
  uwblock : Fin uwblockNum → EncapUwblock

def EncapUwblock.Covers (b : EncapUwblock) (addr : ℕ) : Prop :=
  b.startAddr.toNat ≤ addr ∧ addr < b.startAddr.toNat + b.wordsNum.toNat
  deriving Decidable

def invldUword : U64 := 0xffffffffff

variable {ae : ℕ}

section Page

variable (page : EncapPage) (file : Fin page.uwblockNum → ℕ → BitVec 48)

/-- The word of a block at an offset in bytes, masked. -/
def maskedWord (i : Fin page.uwblockNum) (offset : U32) : U64 :=
  (file i (offset.toNat / 6)).setWidth 64 &&& 0xbffffffffff

/-- One turn of the loop of `qat_uclo_fill_uwords`, on `raddr` and `uwrd`. -/
def scanBlock (s : U32 × U64) (i : Fin page.uwblockNum) : U32 × U64 :=
  let b := page.uwblock i
  if b.startAddr ≤ s.1 ∧ s.1 ≤ b.startAddr + b.wordsNum - 1 then
    let raddr := (s.1 - b.startAddr) * 6
    (raddr, maskedWord page file i raddr)
  else s

def qatUcloFillUwords (raddr : U32) (fill : U64) : U64 :=
  let uwrd := ((List.finRange page.uwblockNum).foldl (scanBlock page file) (raddr, 0)).2
  if uwrd = invldUword then fill else uwrd

/-- Source: the loop of `qat_uclo_wr_uimage_raw_page`. -/
def writeChunks (ae : ℕ) (fill : U64) (physical relative : U32) (wordsNum : ℕ) : List UwordWrite :=
  if wordsNum = 0 then []
  else
    let cpylen := if wordsNum < 1024 then wordsNum else 1024
    qatHalWrUwords ae physical cpylen (fun i => qatUcloFillUwords page file (relative + .ofNat 32 i) fill) 0 ++
      writeChunks ae fill (physical + .ofNat 32 cpylen) (relative + .ofNat 32 cpylen) (wordsNum - cpylen)
termination_by wordsNum
decreasing_by split <;> omega

def qatUcloWrUimageRawPage (ae : ℕ) (fill : U64) : List UwordWrite :=
  writeChunks page file ae fill page.begAddrP 0 page.microWordsNum.toNat

variable {page file} {is : List (Fin page.uwblockNum)} {s : U32 × U64} {fill : U64}

lemma contents_writeChunks {physical relative : U32} {n : ℕ} (hn : n ≤ 2 ^ 32)
    (ae' : ℕ) (addr : U32) : contents (writeChunks page file ae fill physical relative n) ae' addr =
      if ae = ae' ∧ (addr - physical).toNat < n then
        some (qatHalSetUwordEcc (qatUcloFillUwords page file (relative + (addr - physical)) fill)) else none := by
  fun_induction writeChunks page file ae fill physical relative n with
  | case1 physical relative => simp [contents]
  | case2 physical relative n hpos cpylen ih =>
    have hcpy : cpylen ≤ n ∧ cpylen ≤ 1024 := by
      change (if n < 1024 then n else 1024) ≤ n ∧ (if n < 1024 then n else 1024) ≤ 1024
      split <;> omega
    rw [contents_append, ih (by omega), contents_wrUwords (by omega), ← sub_sub, add_add_sub_cancel]
    simp only [toNat_sub_ofNat_lt (by omega : cpylen < 2 ^ 32) hcpy.1 hn, Nat.zero_add, BitVec.ofNat_toNat,
      BitVec.setWidth_eq]
    by_cases hae : ae = ae'
    · generalize (addr - physical).toNat = d
      by_cases hfirst : d < cpylen
      · have hlt : d < n := by omega
        simp [hae, hfirst, hlt, Nat.not_le.mpr hfirst]
      · simp [hae, hfirst, Nat.not_lt.mp hfirst]
    · simp [hae]

lemma hit_iff (b : EncapUwblock) (raddr : U32) :
    b.startAddr ≤ raddr ∧ raddr ≤ b.startAddr + b.wordsNum - 1 ↔ b.Covers raddr.toNat := by
  have hpos := b.pos
  have hle := b.le
  have hend : (b.startAddr + b.wordsNum - 1).toNat = b.startAddr.toNat + b.wordsNum.toNat - 1 := by bv_omega
  rw [le_def, le_def, hend, EncapUwblock.Covers]
  omega

lemma foldl_scanBlock_of_not_covers
    (h : ∀ i ∈ is, ¬ (page.uwblock i).Covers s.1.toNat) : is.foldl (scanBlock page file) s = s := by
  induction is with
  | nil => rfl
  | cons i is ih =>
    rw [forall_mem_cons] at h
    rw [foldl_cons, scanBlock, if_neg (fun hhit => h.1 ((hit_iff _ _).mp hhit)), ih h.2]

/-- The word that should be at an address of the page: that of the block which covers it. -/
def pageWord (page : EncapPage) (file : Fin page.uwblockNum → ℕ → BitVec 48) (fill : U64)
    (i : Fin page.uwblockNum) (k : ℕ) : U64 :=
  let w := (file i (k - (page.uwblock i).startAddr.toNat)).setWidth 64 &&& 0xbffffffffff
  if w = invldUword then fill else w

/-- The offset of an address in a block that covers it, for which the blocks behind are searched too. -/
def EncapPage.key (page : EncapPage) (i : Fin page.uwblockNum) (k : ℕ) : ℕ :=
  (k - (page.uwblock i).startAddr.toNat) * 6

def EncapPage.Disjoint (page : EncapPage) : Prop :=
  ∀ i j k, (page.uwblock i).Covers k → (page.uwblock j).Covers k → i = j

/-- No block covers the offset of an address in a block before it. -/
def EncapPage.KeysApart (page : EncapPage) : Prop :=
  ∀ i j, i < j → ∀ k < page.microWordsNum.toNat, (page.uwblock i).Covers k → ¬ (page.uwblock j).Covers (page.key i k)

/-- The page is in the store of an engine, and nothing else was written. -/
structure EncapPage.Loaded (page : EncapPage) (file : Fin page.uwblockNum → ℕ → BitVec 48) (fill : U64)
    (ae : ℕ) (writes : List UwordWrite) : Prop where
  words : ∀ k < page.microWordsNum.toNat, ∀ i, (page.uwblock i).Covers k →
    contents writes ae (page.begAddrP + .ofNat 32 k) = some (qatHalSetUwordEcc (pageWord page file fill i k))
  others : ∀ ae' addr, ¬ (ae = ae' ∧ (addr - page.begAddrP).toNat < page.microWordsNum.toNat) →
    contents writes ae' addr = none

lemma toNat_key {i : Fin page.uwblockNum} {k : ℕ} (hcover : (page.uwblock i).Covers k) :
    (ofNat 32 (page.key i k)).toNat = page.key i k := by
  have hbytes := (page.uwblock i).bytes_le
  obtain ⟨hle, hlt⟩ := hcover
  rw [toNat_ofNat, EncapPage.key, Nat.mod_eq_of_lt (by omega)]

/-- What the search comes to behind the block that covers an address. -/
lemma fillUwords_eq (hdisjoint : page.Disjoint) {i : Fin page.uwblockNum} {k : ℕ} (hk : k < 2 ^ 32)
    (hcover : (page.uwblock i).Covers k) (fill : U64) :
    ∃ after : List (Fin page.uwblockNum), (∀ j, j ∈ after ↔ i < j) ∧ qatUcloFillUwords page file (.ofNat 32 k) fill =
        (let w := (after.foldl (scanBlock page file) (.ofNat 32 (page.key i k),
          (file i (k - (page.uwblock i).startAddr.toNat)).setWidth 64 &&& 0xbffffffffff)).2
        if w = invldUword then fill else w) := by
  obtain ⟨before, after, hsplit⟩ := append_of_mem (mem_finRange i)
  have hsorted := pairwise_lt_finRange page.uwblockNum
  rw [hsplit, pairwise_append, pairwise_cons] at hsorted
  obtain ⟨-, ⟨hafter, -⟩, hbefore⟩ := hsorted
  refine ⟨after, fun j => ⟨hafter j, fun hij => ?_⟩, ?_⟩
  · have hj := mem_finRange j
    rw [hsplit, mem_append, mem_cons] at hj
    rcases hj with hj | rfl | hj
    · exact absurd hij (lt_asymm (hbefore j hj i (mem_cons_self ..)))
    · exact absurd hij (lt_irrefl _)
    · exact hj
  · have hnat : (ofNat 32 k).toNat = k := by rw [toNat_ofNat, Nat.mod_eq_of_lt hk]
    have hkey : (ofNat 32 k - (page.uwblock i).startAddr) * 6 = .ofNat 32 (page.key i k) := by
      have hle := hcover.1
      rw [EncapPage.key]
      bv_omega
    have hoffset : (ofNat 32 (page.key i k)).toNat / 6 = k - (page.uwblock i).startAddr.toNat := by
      rw [toNat_key hcover, EncapPage.key, Nat.mul_div_cancel _ (by decide)]
    have hskip : before.foldl (scanBlock page file) (.ofNat 32 k, 0) = (.ofNat 32 k, 0) := by
      refine foldl_scanBlock_of_not_covers fun j hj hcov => ?_
      rw [hnat] at hcov
      exact (hbefore j hj i (mem_cons_self ..)).ne (hdisjoint j i k hcov hcover)
    rw [qatUcloFillUwords, hsplit, foldl_append, hskip, foldl_cons, scanBlock,
      if_pos ((hit_iff _ _).mpr (hnat.symm ▸ hcover))]
    simp only [hkey, maskedWord, hoffset]

lemma foldl_scanBlock_ones
    (hones : ∀ i ∈ is, file i = fun _ => 1) (h : s.2 = 1 ∨ ∃ i ∈ is, (page.uwblock i).Covers s.1.toNat) :
    (is.foldl (scanBlock page file) s).2 = 1 := by
  induction is generalizing s with
  | nil => simpa using h
  | cons i is ih =>
    rw [forall_mem_cons] at hones
    apply ih hones.2
    by_cases hhit : (page.uwblock i).Covers s.1.toNat
    · left
      rw [scanBlock, if_pos ((hit_iff _ _).mpr hhit)]
      simp only [maskedWord, hones.1]
      decide
    · rw [scanBlock, if_neg fun hcov => hhit ((hit_iff _ _).mp hcov)]
      exact h.imp_right fun ⟨j, hj, hcov⟩ => ⟨j, (mem_cons.mp hj).resolve_left (fun heq => hhit (heq ▸ hcov)), hcov⟩

lemma contents_rawPage (ae' : ℕ) (addr : U32) : contents (qatUcloWrUimageRawPage page file ae fill) ae' addr =
      if ae = ae' ∧ (addr - page.begAddrP).toNat < page.microWordsNum.toNat then
        some (qatHalSetUwordEcc (qatUcloFillUwords page file (addr - page.begAddrP) fill)) else none := by
  rw [qatUcloWrUimageRawPage, contents_writeChunks page.microWordsNum.isLt.le, zero_add]

lemma contents_rawPage_add {k : ℕ} (hk : k < page.microWordsNum.toNat) :
    contents (qatUcloWrUimageRawPage page file ae fill) ae (page.begAddrP + .ofNat 32 k) =
      some (qatHalSetUwordEcc (qatUcloFillUwords page file (.ofNat 32 k) fill)) := by
  have hlt := hk.trans page.microWordsNum.isLt
  rw [contents_rawPage, add_sub_cancel_left, toNat_ofNat, Nat.mod_eq_of_lt hlt, if_pos ⟨rfl, hk⟩]

end Page

/-- **When a page is loaded whatever its words are.** -/
theorem page_loaded_iff (page : EncapPage) (fill : U64) (ae : ℕ) (hdisjoint : page.Disjoint) :
    (∀ file, page.Loaded file fill ae (qatUcloWrUimageRawPage page file ae fill)) ↔ page.KeysApart := by
  constructor
  · intro hloaded i j hij k hk hcover hkey
    have hword := (hloaded fun m _ => if m = i then 0 else 1).words k hk i hcover
    obtain ⟨after, hafter, heq⟩ := @fillUwords_eq page (fun m _ => if m = i then 0 else 1) hdisjoint i k
      (hk.trans page.microWordsNum.isLt) hcover fill
    rw [foldl_scanBlock_ones] at heq
    · rw [contents_rawPage_add hk, heq, pageWord] at hword
      rw [if_neg (by decide)] at hword
      simp only [if_true] at hword
      rw [if_neg (by decide)] at hword
      exact absurd (Option.some.inj hword) (by decide)
    · intro m hm
      simp [((hafter m).mp hm).ne']
    · exact Or.inr ⟨j, (hafter j).mpr hij, (toNat_key hcover).symm ▸ hkey⟩
  · intro hapart file
    refine ⟨fun k hk i hcover => ?_, fun ae' addr hout => ?_⟩
    · have hlt := hk.trans page.microWordsNum.isLt
      obtain ⟨after, hafter, heq⟩ := @fillUwords_eq page file hdisjoint i k hlt hcover fill
      rw [contents_rawPage_add hk, heq, foldl_scanBlock_of_not_covers, pageWord]
      intro j hj
      rw [toNat_key hcover]
      exact hapart i j ((hafter j).mp hj) k hk hcover
    · rw [contents_rawPage, if_neg hout]

/-- Three blocks of two words, in their order. -/
def threeBlocks : EncapPage :=
  ⟨0x10, 6, 3, ![⟨0, 2, by decide, by decide, by decide⟩, ⟨2, 2, by decide, by decide, by decide⟩,
    ⟨4, 2, by decide, by decide, by decide⟩]⟩

theorem threeBlocks_loaded : threeBlocks.Loaded (fun i k => .ofNat 48 (i.val + k)) 0 0
    (qatUcloWrUimageRawPage threeBlocks (fun i k => .ofNat 48 (i.val + k)) 0 0) := by
  have hstart : ∀ i : Fin 3, (threeBlocks.uwblock i).startAddr.toNat = 2 * i.val := by decide
  have hcovers : ∀ (i : Fin 3) k, (threeBlocks.uwblock i).Covers k → k / 2 = i.val := by
    intro i k hk
    fin_cases i <;> simp [EncapUwblock.Covers, threeBlocks] at hk <;> simp <;> omega
  refine (page_loaded_iff threeBlocks 0 0 fun i j k hi hj => ?_).mpr (fun i j hij k _ hi hj => ?_) _
  · exact Fin.ext ((hcovers i k hi).symm.trans (hcovers j k hj))
  · -- the offsets in a block are 0 and 6
    have hjk := hcovers j _ hj
    have hj3 : j.val < 3 := j.isLt
    have hkey : (k - 2 * i.val) * 6 / 2 = j.val := hstart i ▸ hjk
    omega

/-- Two blocks of one word, the second of them at the beginning. -/
def turnedBlocks : EncapPage :=
  ⟨0, 2, 2, ![⟨1, 1, by decide, by decide, by decide⟩, ⟨0, 1, by decide, by decide, by decide⟩]⟩

theorem turnedBlocks_not_loaded : turnedBlocks.Disjoint ∧ ¬ turnedBlocks.Loaded ![fun _ => 5, fun _ => 7] 0 0
      (qatUcloWrUimageRawPage turnedBlocks ![fun _ => 5, fun _ => 7] 0 0) := by
  constructor
  · have hstart : ∀ (i : Fin 2) k, (turnedBlocks.uwblock i).Covers k → k = 1 - i.val := by
      intro i k hk
      fin_cases i <;> simp [EncapUwblock.Covers, turnedBlocks] at hk <;> simp <;> omega
    intro i j k hi hj
    have hilt : i.val < 2 := i.isLt
    have hjlt : j.val < 2 := j.isLt
    have hik := hstart i k hi
    have hjk := hstart j k hj
    exact Fin.ext (by omega)
  · intro hloaded
    have hlt : 1 < turnedBlocks.microWordsNum.toNat := by decide
    have hword := (contents_rawPage_add hlt).symm.trans (hloaded.words 1 hlt (0 : Fin 2) (by decide))
    exact absurd hword (by decide)

/-! ## Filling the rest -/

def maxUstore : ℕ := 0x4000

/-- An image that is to be loaded: `struct icp_qat_uclo_encapme` and `struct icp_qat_uof_image`. -/
structure Encapme where
  fillPattern : U64
  aeAssigned : U32
  page : EncapPage

section Fill

variable (image : Encapme) (beyond : ℕ → U64)

/-- The array of `qat_uclo_init_ustore`, and what is in the memory behind it. -/
def fillData (i : ℕ) : U64 := if i < maxUstore then image.fillPattern else beyond i

/-- What is filled for one engine. -/
def fillEngine (ustoreSize : U32) (ae : ℕ) : List UwordWrite :=
  let pattPos := image.page.begAddrP + image.page.microWordsNum
  qatHalWrUwords ae 0 image.page.begAddrP.toNat (fillData image beyond) 0 ++
    qatHalWrUwords ae pattPos (ustoreSize - pattPos + 1).toNat (fillData image beyond) image.page.begAddrP.toNat

/-- Source: the loop of `qat_uclo_init_ustore` over the engines that there are and that the image is for, once the
array was allocated. -/
def qatUcloInitUstore (aeMask : U32) (effUstoreSize : ℕ → U32) : List UwordWrite :=
  ((List.range 32).filter fun ae => aeMask.getLsbD ae && image.aeAssigned.getLsbD ae).flatMap fun ae =>
    fillEngine image beyond (effUstoreSize ae) ae

variable {image beyond} {size : U32}

lemma contents_fillEngine
    (hfits : image.page.begAddrP.toNat + image.page.microWordsNum.toNat ≤ size.toNat) (hsize : size.toNat ≤ maxUstore)
    (addr : U32) : contents (fillEngine image beyond size ae) ae addr =
      if addr.toNat < image.page.begAddrP.toNat then some (qatHalSetUwordEcc image.fillPattern)
      else if image.page.begAddrP.toNat + image.page.microWordsNum.toNat ≤ addr.toNat ∧ addr.toNat ≤ size.toNat then
        some (qatHalSetUwordEcc (fillData image beyond (addr.toNat - image.page.microWordsNum.toNat)))
      else none := by
  have hpatt : (image.page.begAddrP + image.page.microWordsNum).toNat =
      image.page.begAddrP.toNat + image.page.microWordsNum.toNat := by
    bv_omega
  have hafter (pattPos : U32) (hle : pattPos.toNat ≤ size.toNat) :
      (addr - pattPos).toNat < (size - pattPos + 1).toNat ↔ pattPos.toNat ≤ addr.toNat ∧ addr.toNat ≤ size.toNat := by
    rw [maxUstore] at hsize
    bv_omega
  rw [fillEngine, contents_append, contents_wrUwords (BitVec.isLt _).le, contents_wrUwords (BitVec.isLt _).le]
  simp only [hafter _ (hpatt ▸ hfits), hpatt, true_and, sub_zero, Nat.zero_add]
  by_cases hbefore : addr.toNat < image.page.begAddrP.toNat
  · have hfill : fillData image beyond addr.toNat = image.fillPattern := if_pos (by omega)
    rw [if_neg (by omega), if_pos hbefore, if_pos hbefore, none_or, hfill]
  · rw [if_neg hbefore, if_neg hbefore, or_none]
    refine ite_congr rfl (fun hin => ?_) fun _ => rfl
    have hindex : image.page.begAddrP.toNat + (addr - (image.page.begAddrP + image.page.microWordsNum)).toNat =
        addr.toNat - image.page.microWordsNum.toNat := by
      rw [BitVec.toNat_sub_of_le (le_def.mpr (hpatt ▸ hin.1)), hpatt]
      omega
    rw [hindex]

lemma contents_fillEngine_of_ne {ae' : ℕ} (h : ae ≠ ae') (addr : U32) :
    contents (fillEngine image beyond size ae) ae' addr = none := by
  rw [fillEngine, contents_append, contents_wrUwords (BitVec.isLt _).le, contents_wrUwords (BitVec.isLt _).le,
    if_neg (fun hae => h hae.1), if_neg (fun hae => h hae.1), none_or]

lemma contents_flatMap {engines : List ℕ} {f : ℕ → List UwordWrite}
    (hf : ∀ ae ae', ae ≠ ae' → ∀ addr, contents (f ae) ae' addr = none) (hnodup : engines.Nodup)
    (hae : ae ∈ engines) (addr : U32) : contents (engines.flatMap f) ae addr = contents (f ae) ae addr := by
  have hothers {engines : List ℕ} (hnot : ae ∉ engines) : contents (engines.flatMap f) ae addr = none := by
    induction engines with
    | nil => rfl
    | cons ae' engines ih =>
      rw [mem_cons, not_or] at hnot
      rw [flatMap_cons, contents_append, ih hnot.2, hf ae' ae (Ne.symm hnot.1), none_or]
  obtain ⟨before, after, rfl⟩ := append_of_mem hae
  have hnot := nodup_middle.mp hnodup
  rw [nodup_cons, mem_append, not_or] at hnot
  rw [flatMap_append, flatMap_cons, contents_append, contents_append, hothers hnot.1.1,
    hothers hnot.1.2, none_or, or_none]

/-- The image is for an engine that there is. -/
def Encapme.Assigned (image : Encapme) (aeMask : U32) (ae : ℕ) : Prop :=
  aeMask.getLsbD ae = true ∧ image.aeAssigned.getLsbD ae = true

lemma contents_initUstore {aeMask : U32} {effUstoreSize : ℕ → U32} (h : image.Assigned aeMask ae) (addr : U32) :
    contents (qatUcloInitUstore image beyond aeMask effUstoreSize) ae addr =
      contents (fillEngine image beyond (effUstoreSize ae) ae) ae addr := by
  refine contents_flatMap (fun ae' ae'' hne => contents_fillEngine_of_ne hne) (nodup_range.filter _) ?_ addr
  rw [mem_filter, mem_range]
  exact ⟨BitVec.lt_of_getLsbD h.1, by rw [h.1, h.2]; rfl⟩

/-- The stores of the engines are filled outside of the page. -/
def Encapme.Filled (image : Encapme) (aeMask : U32) (effUstoreSize : ℕ → U32) (writes : List UwordWrite) : Prop :=
  ∀ ae, image.Assigned aeMask ae → ∀ addr : U32, addr.toNat < (effUstoreSize ae).toNat →
    ¬ (image.page.begAddrP.toNat ≤ addr.toNat ∧
      addr.toNat < image.page.begAddrP.toNat + image.page.microWordsNum.toNat) →
    contents writes ae addr = some (qatHalSetUwordEcc image.fillPattern)

/-- Nothing is written beyond the sizes of the stores, or read beyond the array. -/
def Encapme.Bounded (image : Encapme) (aeMask : U32) (effUstoreSize : ℕ → U32) (writes : List UwordWrite) : Prop :=
  (∀ ae, image.Assigned aeMask ae → ∀ addr : U32, (effUstoreSize ae).toNat ≤ addr.toNat →
    contents writes ae addr = none) ∧ ∀ w ∈ writes, w.index < maxUstore

end Fill

/-- **The stores are filled, but never without a word too many.** -/
theorem initUstore_fills_iff (image : Encapme) (beyond : ℕ → U64) (aeMask : U32)
    (effUstoreSize : ℕ → U32) (hfits : ∀ ae, image.Assigned aeMask ae → (effUstoreSize ae).toNat ≤ maxUstore ∧
      image.page.begAddrP.toNat + image.page.microWordsNum.toNat ≤ (effUstoreSize ae).toNat) :
    image.Filled aeMask effUstoreSize (qatUcloInitUstore image beyond aeMask effUstoreSize) ∧
      (image.Bounded aeMask effUstoreSize (qatUcloInitUstore image beyond aeMask effUstoreSize) ↔
        ∀ ae, ¬ image.Assigned aeMask ae) := by
  refine ⟨fun ae hae addr haddr hout => ?_, fun hbounded ae hae => ?_, fun hnone => ?_⟩
  · obtain ⟨hsize, hpage⟩ := hfits ae hae
    rw [contents_initUstore hae, contents_fillEngine hpage hsize]
    have hfill : fillData image beyond (addr.toNat - image.page.microWordsNum.toNat) = image.fillPattern :=
      if_pos (by omega)
    split
    · rfl
    · rw [if_pos (by omega), hfill]
  · obtain ⟨hsize, hpage⟩ := hfits ae hae
    have hlast := hbounded.1 ae hae (effUstoreSize ae) le_rfl
    rw [contents_initUstore hae, contents_fillEngine hpage hsize, if_neg (by omega), if_pos ⟨hpage, le_rfl⟩] at hlast
    exact absurd hlast (some_ne_none _)
  · refine ⟨fun ae hae => absurd hae (hnone ae), fun w hw => ?_⟩
    obtain ⟨ae, hae, -⟩ := mem_flatMap.mp hw
    have hassigned := (mem_filter.mp hae).2
    rw [Bool.and_eq_true] at hassigned
    exact absurd hassigned (hnone ae)

/-- An image for the first engine. -/
def firstEngine : Encapme := ⟨0, 1, threeBlocks⟩

theorem firstEngine_filled :
    firstEngine.Filled 1 (fun _ => 0x4000) (qatUcloInitUstore firstEngine (fun _ => 0) 1 fun _ => 0x4000) :=
  (initUstore_fills_iff firstEngine (fun _ => 0) 1 (fun _ => 0x4000) fun _ _ => by decide).1

theorem firstEngine_filled_too_far : firstEngine.Assigned 1 0 ∧
    contents (qatUcloInitUstore firstEngine (fun _ => 0) 1 fun _ => 0x4000) 0 0x4000 =
      some (qatHalSetUwordEcc firstEngine.fillPattern) := by
  have hassigned : firstEngine.Assigned 1 0 := ⟨rfl, rfl⟩
  refine ⟨hassigned, ?_⟩
  rw [contents_initUstore hassigned, contents_fillEngine (by decide) (by decide)]
  decide

end QuickAssist.Firmware
