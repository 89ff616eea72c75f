import QuickAssist.Firmware.Ustore

/-!
# Values for the memory of an engine

What a firmware file has for the local memory of an engine is collected in a list, record by record, with
`qat_uclo_create_batch_init_list`. Its header has the length of the program that `qat_hal_batch_wr_lm` then makes of
the list, for the engine to run. A list is here the nodes that a walk from its header meets.

**The defects.** After an allocation failed, the last node that was there before is freed along with the new ones and
a new header is freed twice: `createBatchInitList_unwound_iff`. The program of an engine without values is not made,
a header that is not there is read, and the array for a program is never longer than the control store:
`batchProgram_complete_iff`.
-/

namespace QuickAssist.Firmware

open List Option

/-! ## The list of an engine -/

/-- A node of a list, `struct icp_qat_uof_batch_init`, at an address. -/
structure BatchInit where
  ptr : ℕ
  ae : U32
  addr : U32
  value : U32
  size : U32

/-- A record of a file: an address, and its values with their offsets. -/
structure InitMem where
  addr : U32
  attrs : List (U32 × U32)

/-- A list: its header, with `size`, and the nodes behind it. -/
structure InitTab where
  header : ℕ
  size : U32
  nodes : List BatchInit

/-- The instructions for one value. -/
def inst4b : List U64 :=
  [0x0F0400C0000, 0x0F4400C0000, 0x0F040000300, 0x0F440000300, 0x0FC066C0000, 0x0F0000C0300, 0x0F0000C0300,
    0x0F0000C0300, 0x0A021000000]

def qatHalGetInsNum : ℕ := inst4b.length

/-- Source: the loop of `qat_uclo_create_batch_init_list`, with what the allocations return. Whether it came to its
end is returned with the nodes. -/
def newNodes (ae addr : U32) : List (U32 × U32) → List (Option ℕ) → List BatchInit × Bool
  | [], _ => ([], true)
  | (offset, value) :: attrs, some p :: allocs =>
    (⟨p, ae, addr + offset, value, 4⟩ :: (newNodes ae addr attrs allocs).1, (newNodes ae addr attrs allocs).2)
  | _ :: _, _ => ([], false)

/-- How a call ended: the list that the engine has, the nodes that were allocated and those that were freed. -/
structure Created where
  ok : Bool
  tab : Option InitTab
  allocated : List ℕ
  freed : List ℕ

/-- The last node of a list, or its header. -/
def InitTab.tail (tab : InitTab) : ℕ := (tab.nodes.getLast?.map BatchInit.ptr).getD tab.header

/-- The part of `qat_uclo_create_batch_init_list` after there is a header, which is new if `flag`. -/
def extend (ae : U32) (mem : InitMem) (tab : InitTab) (flag : Bool) (allocs : List (Option ℕ)) : Created :=
  let r := newNodes ae mem.addr mem.attrs allocs
  let own := if flag then [tab.header] else []
  { ok := r.2
    tab := some ⟨tab.header, tab.size + .ofNat 32 (qatHalGetInsNum * r.1.length), tab.nodes ++ r.1⟩
    allocated := own ++ r.1.map BatchInit.ptr
    freed := if r.2 then [] else tab.tail :: (r.1.map BatchInit.ptr ++ own) }

def qatUcloCreateBatchInitList (ae : U32) (mem : InitMem) : Option InitTab → List (Option ℕ) → Created
  | some tab, allocs => extend ae mem tab false allocs
  | none, some p :: allocs => extend ae mem ⟨p, 1, []⟩ true allocs
  | none, _ => ⟨false, none, [], []⟩

/-- The list is what it was, and what was allocated was freed once and nothing else. -/
def Created.Unwound (c : Created) (tab : Option InitTab) : Prop := c.tab = tab ∧ c.freed.Perm c.allocated

variable {allocs : List (Option ℕ)} {ae : U32} {mem : InitMem} {tab : InitTab} {flag : Bool}

/-- One node too many is freed. -/
lemma not_unwound_extend (h : (extend ae mem tab flag allocs).ok = false) (tab' : Option InitTab) :
    ¬ (extend ae mem tab flag allocs).Unwound tab' := by
  rintro ⟨-, hperm⟩
  have hlen := hperm.length_eq
  dsimp only [extend] at h hlen
  rw [if_neg (by simp [h])] at hlen
  simp only [length_cons, length_append] at hlen
  omega

/-- **A call that fails leaves the list as it was and frees what it allocated iff there was no list and it is the
header that there was no memory for.** -/
theorem createBatchInitList_unwound_iff {ae : U32} {mem : InitMem} {tab : Option InitTab}
    {allocs : List (Option ℕ)} (h : (qatUcloCreateBatchInitList ae mem tab allocs).ok = false) :
    (qatUcloCreateBatchInitList ae mem tab allocs).Unwound tab ↔ tab = none ∧ allocs.head?.join = none := by
  cases tab with
  | some tab => exact iff_of_false (not_unwound_extend h _) (by simp)
  | none =>
    rcases allocs with _ | ⟨_ | p, allocs⟩
    · exact iff_of_true ⟨rfl, .nil⟩ ⟨rfl, rfl⟩
    · exact iff_of_true ⟨rfl, .nil⟩ ⟨rfl, rfl⟩
    · exact iff_of_false (not_unwound_extend h _) (by simp)

theorem no_header_unwound : (qatUcloCreateBatchInitList 0 ⟨0, [(0, 7)]⟩ none [none]).Unwound none :=
  (createBatchInitList_unwound_iff rfl).mpr ⟨rfl, rfl⟩

/-- A new header is freed twice, and is the header of the engine all the same. -/
theorem new_header_not_unwound : (qatUcloCreateBatchInitList 0 ⟨0, [(0, 7)]⟩ none [some 0x1000, none]).ok = false ∧
    (qatUcloCreateBatchInitList 0 ⟨0, [(0, 7)]⟩ none [some 0x1000, none]).freed = [0x1000, 0x1000] ∧
    ¬ (qatUcloCreateBatchInitList 0 ⟨0, [(0, 7)]⟩ none [some 0x1000, none]).Unwound none :=
  ⟨rfl, rfl, fun h => some_ne_none _ h.1⟩

/-! ## The program of an engine -/

def insertImmedGpraConst (inst constVal : U64) : U64 :=
  inst &&& 0xFFFF00C03FF ||| (constVal <<< 12 &&& 0x0FF00000 ||| constVal <<< 10 &&& 0x0003FC00)

def insertImmedGprbConst (inst constVal : U64) : U64 :=
  inst &&& 0xFFFF00FFF00 ||| (constVal <<< 12 &&& 0x0FF00000 ||| constVal &&& 0x000000FF)

/-- Source: `qat_hal_concat_micro_code`. -/
def qatHalConcatMicroCode (addr value : U32) : List U64 :=
  (((inst4b.modify 0 (insertImmedGpraConst · (addr.setWidth 64))).modify 1 (insertImmedGpraConst · 0)).modify 2
    (insertImmedGprbConst · (value.setWidth 64))).modify 3 (insertImmedGprbConst · ((value >>> 16).setWidth 64))

def terminator : U64 := 0x0E000010000

/-- A program and the length of the array it is in. -/
structure BatchProgram where
  allocInstSize : ℕ
  microInst : List U64

/-- Source: `qat_hal_batch_wr_lm` up to the execution, if there is memory for the array. Without a header it reads at
a null pointer. -/
def qatHalBatchWrLm : Option InitTab → Option BatchProgram
  | none => none
  | some tab =>
    let code := tab.nodes.flatMap fun node => qatHalConcatMicroCode node.addr node.value
    some ⟨min tab.size.toNat maxUstore, if code.length > 0 then code ++ [terminator] else code⟩

/-- The list of an engine after records, if there was memory for all of them. -/
def initLmem (ae : U32) : List (InitMem × List (Option ℕ)) → Option InitTab → Option (Option InitTab)
  | [], tab => some tab
  | (mem, allocs) :: rest, tab =>
    let c := qatUcloCreateBatchInitList ae mem tab allocs
    if c.ok then initLmem ae rest c.tab else none

/-- The addresses and values of a record. -/
def InitMem.values (mem : InitMem) : List (U32 × U32) := mem.attrs.map fun a => (mem.addr + a.1, a.2)

/-- The addresses and values of a list. -/
def tabValues (tab : Option InitTab) : List (U32 × U32) :=
  tab.elim [] fun t => t.nodes.map fun node => (node.addr, node.value)

/-- The header has the length of the program. -/
def Sized (tab : Option InitTab) : Prop := ∀ t ∈ tab, t.size = .ofNat 32 (qatHalGetInsNum * t.nodes.length + 1)

lemma newNodes_values {addr : U32} {attrs : List (U32 × U32)} (h : (newNodes ae addr attrs allocs).2 = true) :
    (newNodes ae addr attrs allocs).1.map (fun node => (node.addr, node.value)) =
      attrs.map fun a => (addr + a.1, a.2) := by
  fun_induction newNodes ae addr attrs allocs with
  | case1 => rfl
  | case2 offset value attrs p allocs ih => rw [map_cons, map_cons, ih h]
  | case3 => cases h

lemma extend_sized (h : Sized (some tab)) : Sized (extend ae mem tab flag allocs).tab := by
  rintro t ⟨⟩
  rw [h tab rfl, ← BitVec.ofNat_add, length_append, Nat.mul_add, Nat.add_right_comm]

lemma createBatchInitList_spec {tab : Option InitTab}
    (hsized : Sized tab) (h : (qatUcloCreateBatchInitList ae mem tab allocs).ok = true) :
    Sized (qatUcloCreateBatchInitList ae mem tab allocs).tab ∧
      tabValues (qatUcloCreateBatchInitList ae mem tab allocs).tab = tabValues tab ++ mem.values := by
  fun_cases qatUcloCreateBatchInitList ae mem tab allocs with
  | case1 tab allocs =>
    refine ⟨extend_sized hsized, ?_⟩
    exact map_append.trans (congrArg _ (newNodes_values h))
  | case2 p allocs => refine ⟨extend_sized (by rintro t ⟨⟩; rfl), newNodes_values h⟩
  | case3 => simp [qatUcloCreateBatchInitList] at h

lemma initLmem_spec {records : List (InitMem × List (Option ℕ))} {tab tab' : Option InitTab}
    (hsized : Sized tab) (h : initLmem ae records tab = some tab') :
    Sized tab' ∧ tabValues tab' = tabValues tab ++ records.flatMap (·.1.values) := by
  induction records generalizing tab with
  | nil =>
    cases h
    exact ⟨hsized, by simp⟩
  | cons r rest ih =>
    rw [initLmem] at h
    split_ifs at h with hok
    obtain ⟨hsized', hvalues⟩ := createBatchInitList_spec hsized hok
    rw [flatMap_cons, ← append_assoc, ← hvalues]
    exact ih hsized' h

/-- There is a program with the instructions for each value and then the terminator, as long as the header says and
no longer than its array. -/
def Complete (values : List (U32 × U32)) (tab : Option InitTab) : Prop :=
  ∃ t ∈ tab, ∃ program ∈ qatHalBatchWrLm tab,
    program.microInst = values.flatMap (fun v => qatHalConcatMicroCode v.1 v.2) ++ [terminator] ∧
      program.microInst.length = t.size.toNat ∧ program.microInst.length ≤ program.allocInstSize

lemma length_flatMap_concat (values : List (U32 × U32)) :
    (values.flatMap fun v => qatHalConcatMicroCode v.1 v.2).length = 9 * values.length := by
  induction values with
  | nil => rfl
  | cons v values ih =>
    rw [flatMap_cons, length_append, ih, length_cons]
    simp only [qatHalConcatMicroCode, length_modify, inst4b, length_cons, length_nil]
    omega

lemma complete_some_iff {t : InitTab} (hsized : Sized (some t)) :
    Complete (tabValues (some t)) (some t) ↔ 0 < t.nodes.length ∧ t.nodes.length ≤ 1820 := by
  have hcode : t.nodes.flatMap (fun node => qatHalConcatMicroCode node.addr node.value) =
      (tabValues (some t)).flatMap fun v => qatHalConcatMicroCode v.1 v.2 := by
    rw [tabValues, elim_some, flatMap_map]
  have hlen := length_flatMap_concat (tabValues (some t))
  rw [show (tabValues (some t)).length = t.nodes.length from length_map _] at hlen
  have hsize : t.size.toNat = (9 * t.nodes.length + 1) % 2 ^ 32 := by
    rw [hsized t rfl]
    rfl
  simp only [Complete, qatHalBatchWrLm, mem_some_iff, exists_eq_left', hcode, hsize, maxUstore]
  by_cases hpos : 0 < t.nodes.length
  · rw [if_pos (by omega), and_iff_right rfl, length_append, hlen, length_singleton]
    omega
  · rw [if_neg (by omega)]
    refine iff_of_false ?_ (by omega)
    rintro ⟨heq, -⟩
    simp at heq

/-- **The program for the records of an engine is complete iff they have from 1 to 1820 values.** -/
theorem batchProgram_complete_iff {ae : U32} {records : List (InitMem × List (Option ℕ))} {tab : Option InitTab}
    (h : initLmem ae records none = some tab) : Complete (records.flatMap (·.1.values)) tab ↔
      0 < (records.flatMap (·.1.values)).length ∧ (records.flatMap (·.1.values)).length ≤ 1820 := by
  obtain ⟨hsized, hvalues⟩ := initLmem_spec (by simp [Sized]) h
  rw [show records.flatMap (·.1.values) = tabValues tab from hvalues.symm]
  cases tab with
  | none => simp [Complete, tabValues]
  | some t =>
    rw [show (tabValues (some t)).length = t.nodes.length from length_map _]
    exact complete_some_iff hsized

theorem one_value_complete :
    ∃ tab, initLmem 0 [(⟨0, [(4, 7)]⟩, [some 1, some 2])] none = some tab ∧ Complete [(4, 7)] tab := by
  obtain ⟨tab, h⟩ : ∃ tab, initLmem 0 [(⟨0, [(4, 7)]⟩, [some 1, some 2])] none = some tab := ⟨_, rfl⟩
  exact ⟨tab, h, (batchProgram_complete_iff h).mpr ⟨by decide, by decide⟩⟩

/-- A record without values: the header says that the program has an instruction, and there is none. -/
theorem no_value_not_complete : ∃ tab, initLmem 0 [(⟨0, []⟩, [some 1])] none = some tab ∧
    qatHalBatchWrLm tab = some ⟨1, []⟩ ∧ ¬ Complete [] tab := by
  refine ⟨_, rfl, rfl, ?_⟩
  rintro ⟨_, _, _, ⟨⟩, heq, _⟩
  exact absurd heq (by decide)

end QuickAssist.Firmware
