import QuickAssist.Lib.Radix
import QuickAssist.Usdm.Heap

/-!
# The page table

The library translates the addresses of a slab without a system call: `store_mmap_range` puts an entry for every page
of a slab into a table of tables, and `load_addr` walks it. There are two kinds of it, with four levels above the last
one for pages of 4 KB, and with three for huge pages of 2 MB. The low bits of an entry, which belong to the offset in
the page, hold the key of the hash that the slab is in. Seen as one map from page numbers to entries, the table is the
one of the model of the heap (`flat_storeMmapRange`).

**The defect.** A table that is missing makes `load_addr` return 0, but an entry that was never stored does not: the
offset is put on it like on any other. `offset_of_neighbour` is the smallest case of it.
-/

namespace QuickAssist.Usdm

open Lib Function List Nat
open BitVec (ofNat)

namespace PageTable

/-! ## The table -/

structure Paging where
  shift : ℕ
  levels : ℕ
  total : shift + 9 * (levels + 1) = 57
  keyFits : 12 ≤ shift

/-- Pages of 4 KB. Source: `page_entry_t`. -/
def pageEntry : Paging := ⟨12, 4, rfl, by decide⟩

/-- Pages of 2 MB. Source: `hugepage_entry_t`. -/
def hugepageEntry : Paging := ⟨21, 3, rfl, by decide⟩

def paging : Bool → Paging
  | false => pageEntry
  | true => hugepageEntry

namespace Paging

variable (k : Paging)

/-- The table, whose first level is always there. Source: `page_table_t`. -/
structure Table where
  level : Radix (Fin 512) U64 k.levels
  there : level ≠ .missing

/-- The bits of an address that a level uses, where level 0 is the last. Source: `page_index_t`. -/
def idxl (virt i : ℕ) : Fin 512 := Fin.ofNat 512 (virt / 2 ^ (k.shift + 9 * i))

def offset (virt : ℕ) : U64 := ofNat 64 (virt % 2 ^ k.shift)

/-- Store the entry of a page, where `make` says at which levels tables can be made. -/
def store (make : ℕ → Bool) (table : k.Table) (virt : ℕ) (phys : U64) : k.Table where
  level := Radix.store 0 make (k.idxl virt) phys k.levels table.level
  there := Radix.store_ne_missing 0 make (k.idxl virt) phys table.there

def load (table : k.Table) (virt : ℕ) (f : U64 → U64) : U64 :=
  match Radix.load (k.idxl virt) k.levels table.level with
  | none => 0
  | some phyAddr => f phyAddr

def loadAddr (table : k.Table) (virt : ℕ) : U64 :=
  k.load table virt fun phyAddr => (phyAddr &&& ~~~ lowMask k.shift) ||| k.offset virt

def loadKey (table : k.Table) (virt : ℕ) : U64 := k.load table virt fun phyAddr => phyAddr &&& lowMask 12

def emptyTable : k.Table where
  level := Radix.empty 0 k.levels
  there := Radix.empty_ne_missing 0 k.levels

end Paging

def storeAddr := pageEntry.store

def storeAddrHpg := hugepageEntry.store

def loadAddr := pageEntry.loadAddr

def loadAddrHpg := hugepageEntry.loadAddr

def loadKey := pageEntry.loadKey

def loadKeyHpg := hugepageEntry.loadKey

def storeAddrPtr : (hpEn : Bool) → (ℕ → Bool) → (paging hpEn).Table → ℕ → U64 → (paging hpEn).Table
  | false => storeAddr
  | true => storeAddrHpg

def loadAddrFptr : (hpEn : Bool) → (paging hpEn).Table → ℕ → U64
  | false => loadAddr
  | true => loadAddrHpg

def loadKeyFptr : (hpEn : Bool) → (paging hpEn).Table → ℕ → U64
  | false => loadKey
  | true => loadKeyHpg

/-- Store the entries of some pages. Source: the loop of `store_mmap_range`. -/
def storeLoop (hpEn : Bool) (make : ℕ → ℕ → Bool) (virt : ℕ) (phys : U64) :
    ℕ → ℕ → (paging hpEn).Table → (paging hpEn).Table
  | 0, _, table => table
  | pages + 1, offset, table =>
    storeLoop hpEn make virt phys pages (offset + pageSize hpEn)
      (storeAddrPtr hpEn (make (virt + offset)) table (virt + offset)
        (phys + ofNat 64 offset))

/-- Store the entries of a range, where `make` says for which addresses and at which levels tables can
be made. -/
def storeMmapRange (hpEn : Bool) (make : ℕ → ℕ → Bool) (table : (paging hpEn).Table) (virt : ℕ)
    (phys : U64) (size : ℕ) : (paging hpEn).Table :=
  let phys := (phys &&& ~~~ ofNat 64 (pageSize hpEn - 1)) ||| getKey phys
  storeLoop hpEn make virt phys ((size + pageSize hpEn - 1) / pageSize hpEn) 0 table

/-! ## Pages and paths -/

variable {virt : ℕ}

namespace Paging

variable (k : Paging)

def page (virt : ℕ) : ℕ := virt / 2 ^ k.shift

lemma idxl_eq (virt i : ℕ) : k.idxl virt i = Fin.ofNat 512 (k.page virt / 512 ^ i) := by
  unfold idxl page
  rw [Nat.pow_add, Nat.pow_mul, Nat.div_div_eq_div_mul]

lemma path_eq_iff_mod (u v : ℕ) : (∀ i, i < k.levels + 1 → k.idxl u i = k.idxl v i) ↔
      k.page u % 512 ^ (k.levels + 1) = k.page v % 512 ^ (k.levels + 1) := by
  rw [← digits_eq_iff]
  refine forall₂_congr fun i _ => ?_
  rw [idxl_eq, idxl_eq, Fin.ext_iff]
  rfl

lemma page_lt (hvirt : virt < 2 ^ 57) : k.page virt < 512 ^ (k.levels + 1) := by
  apply Nat.div_lt_of_lt_mul
  rwa [show 512 = 2 ^ 9 from rfl, ← Nat.pow_mul, ← Nat.pow_add, k.total]

variable {u v : ℕ} (hu : u < 2 ^ 57) (hv : v < 2 ^ 57)

include hu hv

lemma lastTable_eq_iff :
    (∀ i, i < k.levels → k.idxl u (i + 1) = k.idxl v (i + 1)) ↔ k.page u / 512 = k.page v / 512 := by
  have hlt : ∀ {w}, w < 2 ^ 57 → k.page w / 512 < 512 ^ k.levels := fun hw =>
    Nat.div_lt_of_lt_mul (by rw [Nat.mul_comm, ← Nat.pow_succ]; exact k.page_lt hw)
  have hdigits := digits_eq_iff 512 (k.page u / 512) (k.page v / 512) k.levels
  rw [mod_eq_of_lt (hlt hu), mod_eq_of_lt (hlt hv)] at hdigits
  rw [← hdigits]
  refine forall₂_congr fun i _ => ?_
  rw [idxl_eq, idxl_eq, Fin.ext_iff, Nat.div_div_eq_div_mul, Nat.div_div_eq_div_mul, Nat.mul_comm]
  rfl

end Paging

/-! ## What storing does -/

namespace Paging

variable {k : Paging} {table : k.Table}

/-- The entry of an address; one in a missing table was never stored. -/
def Table.entry (table : k.Table) (virt : ℕ) : U64 := Radix.entry 0 (k.idxl virt) k.levels table.level

def Table.HasLast (table : k.Table) (virt : ℕ) : Prop := (Radix.load (k.idxl virt) k.levels table.level).isSome = true

lemma load_of_hasLast (h : table.HasLast virt) (f : U64 → U64) : k.load table virt f = f (table.entry virt) := by
  obtain ⟨pa, hpa⟩ := Option.isSome_iff_exists.mp h
  rw [load, Table.entry, Radix.entry, hpa]
  rfl

lemma load_of_not_hasLast (h : ¬ table.HasLast virt)
    (f : U64 → U64) : k.load table virt f = 0 ∧ table.entry virt = 0 := by
  have hnone := Option.not_isSome_iff_eq_none.mp h
  rw [load, Table.entry, Radix.entry, hnone]
  exact ⟨rfl, rfl⟩

variable {u v : ℕ}

lemma hasLast_store (table : k.Table) (phys : U64) (hu : u < 2 ^ 57) (hv : v < 2 ^ 57) :
    (k.store (fun _ => true) table u phys).HasLast v ↔ table.HasLast v ∨ k.page u / 512 = k.page v / 512 := by
  have hstore := Radix.isSome_load_store 0 (k.idxl u) (k.idxl v) phys k.levels table.level
  rwa [Radix.next_of_ne_missing 0 true table.there, k.lastTable_eq_iff hu hv] at hstore

end Paging

lemma pageSize_eq (hpEn : Bool) : pageSize hpEn = 2 ^ (paging hpEn).shift := by
  cases hpEn <;> rfl

lemma pageSize_pos (hpEn : Bool) : 0 < pageSize hpEn := by
  rw [pageSize_eq]
  exact Nat.two_pow_pos _

lemma page_mul (hpEn : Bool) (m : ℕ) : (paging hpEn).page (pageSize hpEn * m) = m := by
  rw [Paging.page, pageSize_eq, Nat.mul_div_cancel_left m (Nat.two_pow_pos _)]

lemma storeAddrPtr_eq (hpEn : Bool) : storeAddrPtr hpEn = (paging hpEn).store := by
  cases hpEn <;> rfl

lemma loadAddrFptr_eq (hpEn : Bool) : loadAddrFptr hpEn = (paging hpEn).loadAddr := by
  cases hpEn <;> rfl

lemma loadKeyFptr_eq (hpEn : Bool) : loadKeyFptr hpEn = (paging hpEn).loadKey := by
  cases hpEn <;> rfl

/-! ## The table as one map -/

section Flat

variable {hpEn : Bool} {table : (paging hpEn).Table} {flat : ℕ → U64}

def Represents (hpEn : Bool) (table : (paging hpEn).Table) (flat : ℕ → U64) : Prop :=
  ∀ v, table.entry v = flat (pageIndex hpEn v)

lemma pageIndex_eq (hpEn : Bool) (v : ℕ) :
    pageIndex hpEn v = (paging hpEn).page v % 512 ^ ((paging hpEn).levels + 1) := by
  cases hpEn <;> rfl

lemma Represents.store (h : Represents hpEn table flat) (make : ℕ → Bool) (u : ℕ)
    (phys : U64) : Represents hpEn ((paging hpEn).store make table u phys)
      (if Radix.reaches 0 make ((paging hpEn).idxl u) (paging hpEn).levels table.level then
        update flat (pageIndex hpEn u) phys
      else flat) := by
  intro v
  unfold Paging.Table.entry Paging.store
  rw [Radix.entry_store]
  by_cases hreaches : Radix.reaches 0 make ((paging hpEn).idxl u) (paging hpEn).levels table.level = true
  · rw [if_pos hreaches, update_apply]
    refine if_congr ?_ rfl (h v)
    rw [and_iff_right hreaches, Paging.path_eq_iff_mod, ← pageIndex_eq, ← pageIndex_eq]
    exact eq_comm
  · rw [if_neg hreaches, if_neg fun hand => hreaches hand.1]
    exact h v

lemma storeLoop_congr {f g : ℕ → Bool} (virt : ℕ) (phys : U64) (pages offset : ℕ)
    (flat : ℕ → U64) (hfg : ∀ addr, virt + offset ≤ addr → f addr = g addr) :
    Usdm.storeLoop hpEn f virt phys pages offset flat = Usdm.storeLoop hpEn g virt phys pages offset flat := by
  induction pages generalizing offset flat with
  | zero => rfl
  | succ pages ih =>
    rw [Usdm.storeLoop, hfg _ (Nat.le_refl _)]
    apply ih
    intro addr haddr
    exact hfg addr (by omega)

lemma Represents.storeLoop (h : Represents hpEn table flat) (make : ℕ → ℕ → Bool) (virt : ℕ)
    (phys : U64) (pages offset : ℕ) : ∃ nextLevel : ℕ → Bool, ((make = fun _ _ => true) → nextLevel = fun _ => true) ∧
      Represents hpEn (storeLoop hpEn make virt phys pages offset table)
        (Usdm.storeLoop hpEn nextLevel virt phys pages offset flat) := by
  induction pages generalizing offset table flat with
  | zero => exact ⟨fun _ => true, fun _ => rfl, h⟩
  | succ pages ih =>
    have hstore := h.store (make (virt + offset)) (virt + offset) (phys + ofNat 64 offset)
    obtain ⟨nextLevel, hmade, hrest⟩ := ih hstore (offset + pageSize hpEn)
    -- the answer for this page is not asked for again
    refine ⟨update nextLevel (virt + offset)
      (Radix.reaches 0 (make (virt + offset)) ((paging hpEn).idxl (virt + offset))
        (paging hpEn).levels table.level), ?_, ?_⟩
    · intro hmake
      rw [hmade hmake, hmake, Radix.reaches_of_make 0 _ table.there, update_eq_self]
    rw [Usdm.storeLoop, update_self, PageTable.storeLoop, storeAddrPtr_eq]
    rw [storeLoop_congr (g := nextLevel)]
    · exact hrest
    · intro addr haddr
      apply update_of_ne
      have hpos := pageSize_pos hpEn
      omega

lemma exists_represents (table : (paging hpEn).Table) : ∃ flat, Represents hpEn table flat := by
  refine ⟨fun n => table.entry (pageSize hpEn * n), ?_⟩
  intro v
  have hpath := ((paging hpEn).path_eq_iff_mod v (pageSize hpEn * pageIndex hpEn v)).mpr (by
    rw [page_mul, pageIndex_eq, mod_mod])
  unfold Paging.Table.entry Radix.entry
  rw [Radix.load_congr _ hpath]

/-- **The heap's map is the table.** Whatever levels can be made, storing a range in the table is
storing it in the map, for some answers. -/
theorem flat_storeMmapRange {h : Heap} {table : (paging h.hugepagesEnabled).Table}
    (hh : Represents h.hugepagesEnabled table h.pageTable)
    (make : ℕ → ℕ → Bool) (a : Answers) (virt : ℕ) (phys : U64) (size : ℕ) : ∃ nextLevel : ℕ → Bool,
      Represents h.hugepagesEnabled (storeMmapRange h.hugepagesEnabled make table virt phys size)
        (Usdm.storeMmapRange h { a with nextLevel := nextLevel } virt phys size).pageTable :=
  (hh.storeLoop make virt _ _ 0).imp fun _ hnext => hnext.2

lemma Represents.loadKey {h : Heap} {table : (paging h.loadKeyHpg).Table}
    (hh : Represents h.loadKeyHpg table h.pageTable) (virt : ℕ) :
    loadKeyFptr h.loadKeyHpg table virt = Usdm.loadKey h virt := by
  rw [loadKeyFptr_eq, Paging.loadKey, Usdm.loadKey, ← hh virt]
  by_cases hlast : table.HasLast virt
  · rw [Paging.load_of_hasLast hlast]
    rfl
  · obtain ⟨hload, hentry⟩ := Paging.load_of_not_hasLast hlast fun phyAddr => phyAddr &&& lowMask 12
    rw [hload, hentry]
    rfl

end Flat

/-! ## What storing a range does -/

section Loop

variable {hpEn : Bool} {v : ℕ} (hv : v < 2 ^ 57)

lemma mul_lt_of_end {n pages : ℕ} (hend : pageSize hpEn * (n + (pages + 1)) ≤ 2 ^ 57) :
    pageSize hpEn * n < 2 ^ 57 := by
  refine Nat.lt_of_lt_of_le ?_ hend
  exact Nat.mul_lt_mul_of_pos_left (by omega) (pageSize_pos hpEn)

include hv

/-- **The entries after the loop.** From page `m + j` on, as many pages as there are have new ones. -/
theorem flat_storeLoop (m : ℕ) (phys : U64) (pages j : ℕ) (flat : ℕ → U64)
    (hend : pageSize hpEn * (m + j + pages) ≤ 2 ^ 57) :
    Usdm.storeLoop hpEn (fun _ => true) (pageSize hpEn * m) phys pages (pageSize hpEn * j) flat
        (pageIndex hpEn v) =
      if m + j ≤ (paging hpEn).page v ∧ (paging hpEn).page v < m + j + pages then
        phys + ofNat 64 (pageSize hpEn * ((paging hpEn).page v - m))
      else flat (pageIndex hpEn v) := by
  induction pages generalizing j flat with
  | zero =>
    rw [Usdm.storeLoop, if_neg]
    omega
  | succ pages ih =>
    have hindex : pageIndex hpEn v = pageIndex hpEn (pageSize hpEn * (m + j)) ↔ m + j = (paging hpEn).page v := by
      rw [pageIndex_eq, pageIndex_eq, mod_eq_of_lt ((paging hpEn).page_lt hv),
        mod_eq_of_lt ((paging hpEn).page_lt (mul_lt_of_end hend)), page_mul]
      exact eq_comm
    rw [Usdm.storeLoop, if_pos rfl, ← mul_succ, ← Nat.mul_add, ih (j + 1) _ (by
      rw [show m + (j + 1) + pages = m + j + (pages + 1) by omega]; exact hend),
      update_apply]
    by_cases heq : m + j = (paging hpEn).page v
    · rw [if_neg (by omega), if_pos (hindex.mpr heq), if_pos (by omega), ← heq, Nat.add_sub_cancel_left]
    · rw [if_neg fun h => heq (hindex.mp h)]
      exact if_congr (by omega) rfl rfl

/-- **The last tables after the loop.** -/
theorem hasLast_storeLoop (m : ℕ) (phys : U64) (pages j : ℕ) (table : (paging hpEn).Table)
    (hend : pageSize hpEn * (m + j + pages) ≤ 2 ^ 57) :
    (storeLoop hpEn (fun _ _ => true) (pageSize hpEn * m) phys pages (pageSize hpEn * j) table).HasLast v ↔
      table.HasLast v ∨ ∃ n, m + j ≤ n ∧ n < m + j + pages ∧ n / 512 = (paging hpEn).page v / 512 := by
  induction pages generalizing j table with
  | zero =>
    refine (or_iff_left ?_).symm
    rintro ⟨n, hle, hlt, -⟩
    omega
  | succ pages ih =>
    rw [storeLoop, ← mul_succ, ← Nat.mul_add, ih (j + 1) _ (by
      rw [show m + (j + 1) + pages = m + j + (pages + 1) by omega]; exact hend),
      storeAddrPtr_eq, Paging.hasLast_store _ _ (mul_lt_of_end hend) hv, page_mul, or_assoc]
    refine or_congr_right ?_
    constructor
    · rintro (hfirst | ⟨n, hle, hn, hgroup⟩)
      · exact ⟨m + j, Nat.le_refl _, by omega, hfirst⟩
      · exact ⟨n, by omega, by omega, hgroup⟩
    · rintro ⟨n, hle, hn, hgroup⟩
      rcases Nat.eq_or_lt_of_le hle with rfl | hgt
      · exact Or.inl hgroup
      · exact Or.inr ⟨n, by omega, by omega, hgroup⟩

end Loop

/-! ## Ranges -/

structure MmapRange where
  virt : ℕ
  phys : U64
  size : ℕ

structure MmapRange.Placed (hpEn : Bool) (r : MmapRange) : Prop where
  virt_aligned : pageSize hpEn ∣ r.virt
  below : r.virt + r.size ≤ 2 ^ 57

structure MmapRange.Ok (hpEn : Bool) (r : MmapRange) : Prop extends r.Placed hpEn where
  phys_aligned : pageSize hpEn ∣ r.phys.toNat

def MmapRange.Covers (hpEn : Bool) (r : MmapRange) (v : ℕ) : Prop :=
  r.virt ≤ v ∧ v - v % pageSize hpEn < r.virt + r.size
  deriving Decidable

def tableOf (hpEn : Bool) : List MmapRange → (paging hpEn).Table
  | [] => (paging hpEn).emptyTable
  | r :: earlier => storeMmapRange hpEn (fun _ _ => true) (tableOf hpEn earlier) r.virt r.phys r.size

/-- An address is translated as the latest range that has its page says, and to 0 if there is none. -/
def Translates (hpEn : Bool) (ranges : List MmapRange) (v : ℕ) : Prop :=
  match ranges.find? fun r => r.Covers hpEn v with
  | some r =>
    loadAddrFptr hpEn (tableOf hpEn ranges) v = r.phys + ofNat 64 (v - r.virt) ∧
      loadKeyFptr hpEn (tableOf hpEn ranges) v = getKey r.phys
  | none => loadAddrFptr hpEn (tableOf hpEn ranges) v = 0

def SameTable (hpEn : Bool) (u v : ℕ) : Prop := u / (pageSize hpEn * 512) = v / (pageSize hpEn * 512)

section Ranges

variable {hpEn : Bool} {r : MmapRange} {v : ℕ} {table : (paging hpEn).Table} {ranges : List MmapRange}

abbrev MmapRange.pages (hpEn : Bool) (r : MmapRange) : ℕ := (r.size + pageSize hpEn - 1) / pageSize hpEn

section

variable (hr : r.Placed hpEn)

include hr

lemma MmapRange.Placed.covers_iff : r.Covers hpEn v ↔ (paging hpEn).page r.virt ≤ (paging hpEn).page v ∧
        (paging hpEn).page v < (paging hpEn).page r.virt + r.pages hpEn := by
  obtain ⟨m, hm⟩ := hr.virt_aligned
  have hpos := pageSize_pos hpEn
  unfold MmapRange.Covers MmapRange.pages
  rw [hm, page_mul, Paging.page, ← pageSize_eq]
  generalize pageSize hpEn = q at *
  rw [← mul_div_self_eq_mod_sub_self]
  have hle : q * m ≤ v ↔ m ≤ v / q := by
    rw [Nat.le_div_iff_mul_le hpos, Nat.mul_comm]
  rw [hle]
  refine and_congr_right fun hmv => ?_
  obtain ⟨c, hc⟩ := Nat.exists_eq_add_of_le hmv
  rw [hc, Nat.mul_add, Nat.add_lt_add_iff_left, Nat.add_lt_add_iff_left, ← succ_le_iff (m := c),
    Nat.le_div_iff_mul_le hpos, succ_mul, Nat.mul_comm c]
  omega

lemma MmapRange.Placed.pages_le : pageSize hpEn * ((paging hpEn).page r.virt + r.pages hpEn) ≤ 2 ^ 57 := by
  have hbelow := hr.below
  unfold MmapRange.pages
  rw [Paging.page, ← pageSize_eq]
  cases hpEn with
  | false =>
    rw [show pageSize false = 4096 from rfl] at *
    omega
  | true =>
    rw [show pageSize true = 2097152 from rfl] at *
    omega

/-- What `store_mmap_range` puts into the entry of the first page. -/
abbrev MmapRange.keyed (hpEn : Bool) (r : MmapRange) : U64 :=
  (r.phys &&& ~~~ ofNat 64 (pageSize hpEn - 1)) ||| getKey r.phys

def MmapRange.entry (hpEn : Bool) (r : MmapRange) (v : ℕ) : U64 :=
  ((r.phys &&& ~~~ ofNat 64 (pageSize hpEn - 1)) ||| getKey r.phys) +
    ofNat 64 (v - v % pageSize hpEn - r.virt)

/-- **The entries after a range has been stored.** Those of its pages are new. -/
theorem flat_pageTable (hv : v < 2 ^ 57) (flat : ℕ → U64) :
    Usdm.storeLoop hpEn (fun _ => true) r.virt (r.keyed hpEn) (r.pages hpEn) 0 flat (pageIndex hpEn v) =
      if r.Covers hpEn v then r.entry hpEn v else flat (pageIndex hpEn v) := by
  have hloop := flat_storeLoop hv ((paging hpEn).page r.virt) (r.keyed hpEn) (r.pages hpEn) 0 flat
    (by rw [Nat.add_zero]; exact hr.pages_le)
  obtain ⟨m, hm⟩ := hr.virt_aligned
  have hoffset : pageSize hpEn * ((paging hpEn).page v - m) = v - v % pageSize hpEn - pageSize hpEn * m := by
    rw [Paging.page, ← pageSize_eq, Nat.mul_sub, mul_div_self_eq_mod_sub_self]
  unfold MmapRange.entry
  rw [Nat.mul_zero, Nat.add_zero, hm, page_mul, hoffset] at hloop
  rw [hm, hloop]
  refine if_congr ?_ rfl rfl
  rw [hr.covers_iff, hm, page_mul]

lemma entry_storeMmapRange (hv : v < 2 ^ 57) (table : (paging hpEn).Table) :
    (storeMmapRange hpEn (fun _ _ => true) table r.virt r.phys r.size).entry v =
      if r.Covers hpEn v then r.entry hpEn v else table.entry v := by
  obtain ⟨flat, hflat⟩ := exists_represents table
  obtain ⟨nextLevel, hmade, hstored⟩ := hflat.storeLoop (fun _ _ => true) r.virt (r.keyed hpEn) (r.pages hpEn) 0
  have hentry := hstored v
  rw [hmade rfl, flat_pageTable hr hv, ← hflat v] at hentry
  exact hentry

lemma hasLast_storeMmapRange (hv : v < 2 ^ 57) (table : (paging hpEn).Table) :
    (storeMmapRange hpEn (fun _ _ => true) table r.virt r.phys r.size).HasLast v ↔
      table.HasLast v ∨ ∃ u, r.Covers hpEn u ∧ SameTable hpEn u v := by
  have hloop := hasLast_storeLoop hv ((paging hpEn).page r.virt) (r.keyed hpEn) (r.pages hpEn) 0 table
    (by rw [Nat.add_zero]; exact hr.pages_le)
  rw [Nat.mul_zero] at hloop
  have hsame : ∀ u, SameTable hpEn u v ↔ (paging hpEn).page u / 512 = (paging hpEn).page v / 512 := by
    intro u
    rw [SameTable, Paging.page, Paging.page, ← pageSize_eq, Nat.div_div_eq_div_mul, Nat.div_div_eq_div_mul]
  obtain ⟨m, hm⟩ := hr.virt_aligned
  unfold storeMmapRange
  rw [hm, page_mul] at hloop
  rw [hm, hloop]
  refine or_congr_right ?_
  constructor
  · rintro ⟨n, hle, hlt, hgroup⟩
    refine ⟨pageSize hpEn * n, ?_, ?_⟩
    · rw [hr.covers_iff, hm, page_mul, page_mul]
      exact ⟨hle, hlt⟩
    · rwa [hsame, page_mul]
  · rintro ⟨u, hcovers, hgroup⟩
    rw [hr.covers_iff, hm, page_mul] at hcovers
    exact ⟨(paging hpEn).page u, hcovers.1, hcovers.2, (hsame u).mp hgroup⟩

end

/-! ## Translation -/

lemma getKey_lt (phys : U64) : (getKey phys).toNat < 2 ^ 12 := by
  have hmask := toNat_and_lowMask (phys >>> 20) (n := 12) (by decide)
  rw [getKey, show (0xFFF : U64) = lowMask 12 from rfl, hmask]
  exact mod_lt _ (by decide)

lemma shift_le (hpEn : Bool) : (paging hpEn).shift ≤ 64 := by
  have htotal := (paging hpEn).total
  omega

lemma getKey_lt_shift (hpEn : Bool) (phys : U64) : (getKey phys).toNat < 2 ^ (paging hpEn).shift :=
  Nat.lt_of_lt_of_le (getKey_lt phys) (Nat.pow_le_pow_right (by decide) (paging hpEn).keyFits)

def MmapRange.base (hpEn : Bool) (r : MmapRange) (v : ℕ) : U64 :=
  (r.phys &&& ~~~ lowMask (paging hpEn).shift) + ofNat 64 (v - v % pageSize hpEn - r.virt)

lemma MmapRange.Placed.dvd_base (hr : r.Placed hpEn) (v : ℕ) : 2 ^ (paging hpEn).shift ∣ (r.base hpEn v).toNat := by
  obtain ⟨m, hm⟩ := hr.virt_aligned
  apply dvd_toNat_add (shift_le hpEn)
  · rw [toNat_and_not_lowMask _ (shift_le hpEn)]
    exact Nat.dvd_mul_right _ _
  · rw [← mul_div_self_eq_mod_sub_self, hm, ← Nat.mul_sub, pageSize_eq]
    exact (dvd_mod_iff (Nat.pow_dvd_pow 2 (shift_le hpEn))).mpr (Nat.dvd_mul_right _ _)

/-- **What an entry holds**: the key stays in the low bits while the offset of the page is added. -/
theorem MmapRange.Placed.entry_eq (hr : r.Placed hpEn) (v : ℕ) : r.entry hpEn v = r.base hpEn v ||| getKey r.phys := by
  have hphys : 2 ^ (paging hpEn).shift ∣ (r.phys &&& ~~~ lowMask (paging hpEn).shift).toNat := by
    rw [toNat_and_not_lowMask _ (shift_le hpEn)]
    exact Nat.dvd_mul_right _ _
  unfold MmapRange.entry
  rw [← add_eq_or_of_low (hr.dvd_base v) (getKey_lt_shift hpEn r.phys), MmapRange.base, pageSize_eq,
    ← lowMask, ← add_eq_or_of_low hphys (getKey_lt_shift hpEn r.phys), BitVec.add_assoc,
    BitVec.add_assoc, BitVec.add_comm (getKey r.phys)]

lemma MmapRange.Placed.entry_key (hr : r.Placed hpEn) (v : ℕ) : r.entry hpEn v &&& lowMask 12 = getKey r.phys := by
  rw [hr.entry_eq v]
  exact or_and_lowMask (paging hpEn).keyFits (shift_le hpEn) (hr.dvd_base v) (getKey_lt r.phys)

lemma MmapRange.Ok.base_add_offset (hr : r.Ok hpEn) (hcovers : r.Covers hpEn v) :
    r.base hpEn v + (paging hpEn).offset v = r.phys + ofNat 64 (v - r.virt) := by
  have hhigh : r.phys &&& ~~~ lowMask (paging hpEn).shift = r.phys := by
    apply BitVec.eq_of_toNat_eq
    rw [toNat_and_not_lowMask _ (shift_le hpEn), Nat.mul_div_cancel' (pageSize_eq hpEn ▸ hr.phys_aligned)]
  obtain ⟨m, hm⟩ := hr.virt_aligned
  have hle := hcovers.1
  have hmle : pageSize hpEn * m ≤ v - v % pageSize hpEn := by
    rw [← mul_div_self_eq_mod_sub_self]
    apply Nat.mul_le_mul_left
    rwa [Nat.le_div_iff_mul_le (pageSize_pos hpEn), Nat.mul_comm, ← hm]
  have hmod : v % pageSize hpEn ≤ v := mod_le v _
  rw [MmapRange.base, Paging.offset, ← pageSize_eq, BitVec.add_assoc, ← BitVec.ofNat_add]
  congr 2
  omega

lemma entry_tableOf (hranges : ∀ r ∈ ranges, r.Ok hpEn) (hv : v < 2 ^ 57) : (tableOf hpEn ranges).entry v =
      match ranges.find? fun r => r.Covers hpEn v with
      | some r => r.entry hpEn v
      | none => 0 := by
  induction ranges with
  | nil => exact Radix.entry_empty 0 _ _
  | cons r earlier ih =>
    rw [tableOf, entry_storeMmapRange (hranges r mem_cons_self).toPlaced hv,
      ih fun r hr => hranges r (mem_cons_of_mem _ hr)]
    by_cases hcovers : r.Covers hpEn v
    · rw [if_pos hcovers, List.find?_cons, decide_eq_true hcovers]
    · rw [if_neg hcovers, List.find?_cons, decide_eq_false hcovers]

lemma hasLast_tableOf (hranges : ∀ r ∈ ranges, r.Ok hpEn) (hv : v < 2 ^ 57) :
    (tableOf hpEn ranges).HasLast v ↔ ∃ r ∈ ranges, ∃ u, r.Covers hpEn u ∧ SameTable hpEn u v := by
  induction ranges with
  | nil =>
    refine iff_of_false ?_ ?_
    · cases hpEn <;> exact Bool.false_ne_true
    · rintro ⟨r, hr, -⟩
      cases hr
  | cons r earlier ih =>
    rw [tableOf, hasLast_storeMmapRange (hranges r mem_cons_self).toPlaced hv,
      ih fun r hr => hranges r (mem_cons_of_mem _ hr), exists_mem_cons_iff, or_comm]

lemma offset_toNat (hpEn : Bool) (v : ℕ) : ((paging hpEn).offset v).toNat = v % pageSize hpEn ∧
      ((paging hpEn).offset v).toNat < 2 ^ (paging hpEn).shift := by
  have hlt : v % pageSize hpEn < 2 ^ (paging hpEn).shift := by
    rw [pageSize_eq]
    exact mod_lt v (Nat.two_pow_pos _)
  have hle : 2 ^ (paging hpEn).shift ≤ 2 ^ 64 := by
    have htotal := (paging hpEn).total
    exact Nat.pow_le_pow_right (by decide) (by omega)
  have heq : ((paging hpEn).offset v).toNat = v % pageSize hpEn := by
    rw [Paging.offset, BitVec.toNat_ofNat, ← pageSize_eq, mod_eq_of_lt (by omega)]
  exact ⟨heq, heq ▸ hlt⟩

lemma load_of_covers (hr : r.Ok hpEn) (hcovers : r.Covers hpEn v)
    (hlast : table.HasLast v) (hentry : table.entry v = r.entry hpEn v) :
    loadAddrFptr hpEn table v = r.phys + ofNat 64 (v - r.virt) ∧ loadKeyFptr hpEn table v = getKey r.phys := by
  rw [loadAddrFptr_eq, loadKeyFptr_eq, Paging.loadAddr, Paging.loadKey, Paging.load_of_hasLast hlast,
    Paging.load_of_hasLast hlast, hentry]
  constructor
  · rw [hr.entry_eq v, or_and_not_lowMask (shift_le hpEn) (hr.dvd_base v)
      (getKey_lt_shift hpEn r.phys), ← hr.base_add_offset hcovers,
      add_eq_or_of_low (hr.dvd_base v) (offset_toNat hpEn v).2]
  · exact hr.entry_key v

/-- An address whose entry was never stored is translated to its offset, unless its last table is
missing. -/
lemma loadAddr_eq_zero_iff (hentry : table.entry v = 0) :
    loadAddrFptr hpEn table v = 0 ↔ v % pageSize hpEn = 0 ∨ ¬ table.HasLast v := by
  rw [loadAddrFptr_eq, Paging.loadAddr]
  by_cases hlast : table.HasLast v
  · rw [Paging.load_of_hasLast hlast, hentry, or_iff_left (not_not_intro hlast),
      ← (offset_toNat hpEn v).1, ← BitVec.toNat_inj]
    simp
  · exact iff_of_true (Paging.load_of_not_hasLast hlast _).1 (Or.inr hlast)

/-- **Translation.** An address is translated as the latest range that has its page says, except in pages that
only the last table knows to be missing. -/
theorem translates_iff (hpEn : Bool) (ranges : List MmapRange) (hranges : ∀ r ∈ ranges, r.Ok hpEn)
    (v : ℕ) (hv : v < 2 ^ 57) : Translates hpEn ranges v ↔ (∃ r ∈ ranges, r.Covers hpEn v) ∨ v % pageSize hpEn = 0 ∨
        ¬ ∃ r ∈ ranges, ∃ u, r.Covers hpEn u ∧ SameTable hpEn u v := by
  have hentry := entry_tableOf hranges hv
  have hlast := hasLast_tableOf hranges hv
  unfold Translates
  cases hfind : ranges.find? fun r => r.Covers hpEn v with
  | some r =>
    have hmem := mem_of_find?_eq_some hfind
    have hcovers : r.Covers hpEn v := by
      have htrue := List.find?_some hfind
      exact of_decide_eq_true htrue
    rw [hfind] at hentry
    exact iff_of_true (load_of_covers (hranges r hmem) hcovers
      (hlast.mpr ⟨r, hmem, v, hcovers, rfl⟩) hentry) (Or.inl ⟨r, hmem, hcovers⟩)
  | none =>
    have hnone : ¬ ∃ r ∈ ranges, r.Covers hpEn v := by
      rintro ⟨r, hr, hcovers⟩
      exact List.find?_eq_none.mp hfind r hr (decide_eq_true hcovers)
    rw [hfind] at hentry
    rw [loadAddr_eq_zero_iff hentry, or_iff_right hnone, hlast]

/-- The second of two slabs of huge pages has taken the address of the first. -/
theorem translates_latest :
    Translates true [⟨0x400000, 0x600000, 0x400000⟩, ⟨0x200000, 0xA00000, 0x400000⟩] 0x7FFFFF := by
  refine (translates_iff true _ ?_ _ (by decide)).mpr (Or.inl ⟨_, mem_cons_self, by decide⟩)
  intro r hr
  rcases mem_pair.mp hr with rfl | rfl <;> exact ⟨⟨by decide, by decide⟩, by decide⟩

/-- **The page next to a slab.** A slab of one page is stored, and an address in the page behind it,
which was never stored, is translated to its offset. -/
theorem offset_of_neighbour : (∀ r ∈ [MmapRange.mk 0x200000 0x5000 0x1000], r.Ok false ∧ ¬ r.Covers false 0x201004) ∧
      loadAddr (tableOf false [⟨0x200000, 0x5000, 0x1000⟩]) 0x201004 = 4 := by
  refine ⟨?_, by decide⟩
  intro r hr
  obtain rfl := mem_singleton.mp hr
  exact ⟨⟨⟨by decide, by decide⟩, by decide⟩, by decide⟩

end Ranges

end PageTable

end QuickAssist.Usdm
