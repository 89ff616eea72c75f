import QuickAssist.Usdm.Frame

/-!
# The allocator of a process, from one opening of the file to the next

The static variables of the allocator outlive the file: `qaeMemDestroy` gives all slabs back and closes it, and a later
call opens it again; a child process finds the variables as its parent left them, sees that its process identifier is
a new one and opens the file for itself. Each time the kernel is asked for the number of huge pages, and there may be
another answer. Four variables say which pages are used: `g_hugepages_enabled`, which `store_mmap_range` is called
with, and the pointers to the functions that read an address, that read a key and that free the table.

**The defect.** `init_hugepages` sets the three pointers if there are huge pages. If there are none it only clears
`g_hugepages_enabled`: the pointers stay those for huge pages, while 4 KB pages are stored (`walkers_do_not_match`).

**Outside.** Slabs are not handed down to a child process (`MADV_DONTFORK`), so it holds nothing, and a
`qaeMemDestroy` before its first other call would read memory that it does not have. A descriptor of 0, which
`qaeMemDestroy` does not close, is left out.
-/

namespace QuickAssist.Usdm

open Lib

/-! ## The state -/

structure Process where
  heap : Heap
  /-- The process identifier of the last call. Source: `pid` in `check_pid`. -/
  pid : ℕ
  /-- `load_addr_fptr` is the walker for huge pages. -/
  loadAddrHpg : Bool
  /-- `free_page_table_fptr` is the walker for huge pages. -/
  freePageTableHpg : Bool

def processInit : Process := ⟨heapInit, 0, false, false⟩

/-- The heap as `qaeOpenFd` takes it: a child process closes the file that it has from its parent, and
has none of its slabs. Source: `check_pid`. -/
def Process.seen (s : Process) (getpid : ℕ) : Heap :=
  if s.pid = getpid then s.heap else { s.heap with fd := false, live := [], granted := [] }

def Process.qaeOpenFd (s : Process) (getpid : ℕ) (a : Answers) : Process × Bool :=
  let h := s.seen getpid
  -- `init_hugepages` is called, and there are some
  let hpg := !h.fd && a.openFd && decide (0 < a.getNumHpt.getD 0)
  ({ heap := (Usdm.qaeOpenFd h a).1
     pid := getpid
     loadAddrHpg := s.loadAddrHpg || hpg
     freePageTableHpg := s.freePageTableHpg || hpg }, (Usdm.qaeOpenFd h a).2)

/-! ## The calls -/

def Process.qaeMemInit (s : Process) (getpid : ℕ) (a : Answers) : Process :=
  if a.lock then (s.qaeOpenFd getpid a).1 else s

def Process.qaeMemAllocNUMA (s : Process) (getpid : ℕ) (a : Answers) (size : U64) (node : ℤ)
    (physAlignmentByte : U64) : Process :=
  if Accepted size physAlignmentByte ∧ a.lock then
    match s.qaeOpenFd getpid a with
    | (s, false) => s
    | (s, true) => { s with heap := Usdm.qaeMemAllocNUMA s.heap a size node physAlignmentByte }
  else s

def Process.qaeMemFreeNUMA (s : Process) (getpid : ℕ) (a : Answers) (va : ℕ) : Process :=
  if a.lock then
    match s.qaeOpenFd getpid a with
    | (s, false) => s
    | (s, true) => { s with heap := Usdm.qaeMemFreeNUMA s.heap a va }
  else { s with heap := s.heap.forget va }

def resetCache : ℕ → Heap → Heap
  | 0, h => h
  | rounds + 1, h =>
    match popSlab h (-1) with
    | none => h
    | some (p, h) => resetCache rounds (freeSlab h p)

def destroyList (h : Heap) (slabs : List ℕ) : Heap := slabs.foldl freeSlab h

/-- Give all slabs back. Every round of the first loop takes a slab out of the cache.
Source: `qaeMemDestroy`. -/
def Heap.giveBackAll (h : Heap) : Heap :=
  let h := resetCache h.userCache.length h
  let h := destroyList h h.userMemList
  destroyList h h.userLargeMemList

def Heap.destroy (h : Heap) : Heap :=
  let h := Heap.giveBackAll { h with pageTable := fun _ => 0, stored := [] }
  { h with userCache := [], userMemList := [], userLargeMemList := [], fd := false, live := [] }

def Process.qaeMemDestroy (s : Process) (a : Answers) : Process :=
  if a.lock then { s with heap := s.heap.destroy } else s

inductive Operation
  | init
  /-- `qaeMemAllocNUMA(size, node, phys_alignment_byte)`. -/
  | alloc (size : U64) (node : ℤ) (physAlignmentByte : U64)
  | free (va : ℕ)
  | destroy

structure ProcessEvent where
  operation : Operation
  /-- The process identifier, which is another one after a `fork`. -/
  getpid : ℕ
  answers : Answers

def Process.call (s : Process) (e : ProcessEvent) : Process :=
  match e.operation with
  | .init => s.qaeMemInit e.getpid e.answers
  | .alloc size node align => s.qaeMemAllocNUMA e.getpid e.answers size node align
  | .free va => s.qaeMemFreeNUMA e.getpid e.answers va
  | .destroy => s.qaeMemDestroy e.answers

/-- What the kernel grants is possible when it is asked, only blocks that the caller holds are freed, and
no child process destroys the slabs of its parent. -/
def Process.Possible (s : Process) (e : ProcessEvent) : Prop :=
  match e.operation with
  | .init => True
  | .alloc size node align => ∀ s', s.qaeOpenFd e.getpid e.answers = (s', true) →
      Event.Possible ⟨.alloc size node align, e.answers⟩ s'.heap
  | .free va => ∃ b ∈ s.heap.live, b.addr = va
  | .destroy => s.pid = e.getpid ∨ s.heap.slabs = []

def processStep (s : Process) (e : ProcessEvent) (s' : Process) : Prop := s.Possible e ∧ s' = s.call e

/-! ## The walkers -/

/-- The functions that read and free the table are those for the pages that are stored, and it has
entries for no other pages. -/
structure Process.Matches (s : Process) : Prop where
  loadAddr : s.loadAddrHpg = s.heap.hugepagesEnabled
  loadKey : s.heap.loadKeyHpg = s.heap.hugepagesEnabled
  freePageTable : s.freePageTableHpg = s.heap.hugepagesEnabled
  stored : ∀ hpEn ∈ s.heap.stored, hpEn = s.heap.hugepagesEnabled

/-- The call goes as far as `qaeOpenFd`. -/
def Operation.ReachesOpen (a : Answers) : Operation → Prop
  | .init => a.lock = true
  | .alloc size _ align => Accepted size align ∧ a.lock = true
  | .free _ => a.lock = true
  | .destroy => False

/-- If the call opens the file, and the walkers are those for huge pages, the kernel has huge pages. -/
def Process.KeepsHugepages (s : Process) (e : ProcessEvent) : Prop :=
  e.operation.ReachesOpen e.answers → (s.seen e.getpid).fd = false → e.answers.openFd = true →
    s.heap.loadKeyHpg = true → 0 < e.answers.getNumHpt.getD 0

namespace Process.Matches

variable {s : Process} {a : Answers} {getpid : ℕ}

lemma keep (hmatches : s.Matches) {h : Heap} (hkept : Kept s.heap h) : Matches { s with heap := h } := by
  refine ⟨?_, ?_, ?_, ?_⟩
  · exact hmatches.loadAddr.trans hkept.hugepagesEnabled.symm
  · exact hkept.loadKeyHpg.trans (hmatches.loadKey.trans hkept.hugepagesEnabled.symm)
  · exact hmatches.freePageTable.trans hkept.hugepagesEnabled.symm
  · intro hpEn hmem
    rcases hkept.stored hpEn hmem with hmem | heq
    · exact (hmatches.stored hpEn hmem).trans hkept.hugepagesEnabled.symm
    · exact heq.trans hkept.hugepagesEnabled.symm

lemma withLive (hmatches : s.Matches) (live : List Block) : Matches { s with heap := { s.heap with live := live } } :=
  { hmatches with }

/-- **Opening the file.** If it was open nothing happens. If it cannot be opened the table is empty, and
if it can, it is empty and the kernel says which pages there are. -/
theorem qaeOpenFd (hmatches : s.Matches)
    (hkeeps : (s.seen getpid).fd = false → a.openFd = true → s.heap.loadKeyHpg = true →
      0 < a.getNumHpt.getD 0) : (s.qaeOpenFd getpid a).1.Matches := by
  have hhpg : (s.seen getpid).hugepagesEnabled = s.heap.hugepagesEnabled := by
    unfold Process.seen
    split <;> rfl
  have hkey : (s.seen getpid).loadKeyHpg = s.heap.loadKeyHpg := by
    unfold Process.seen
    split <;> rfl
  have hstored : (s.seen getpid).stored = s.heap.stored := by
    unfold Process.seen
    split <;> rfl
  unfold Process.qaeOpenFd Usdm.qaeOpenFd
  dsimp only
  cases hfd : (s.seen getpid).fd with
  | true =>
    refine ⟨?_, ?_, ?_, ?_⟩
    · exact (Bool.or_false _).trans (hmatches.loadAddr.trans hhpg.symm)
    · exact hkey.trans (hmatches.loadKey.trans hhpg.symm)
    · exact (Bool.or_false _).trans (hmatches.freePageTable.trans hhpg.symm)
    · intro hpEn hmem
      exact (hmatches.stored hpEn (hstored ▸ hmem)).trans hhpg.symm
  | false =>
    cases hopen : a.openFd with
    | false =>
      refine ⟨?_, ?_, ?_, nofun⟩
      · exact (Bool.or_false _).trans (hmatches.loadAddr.trans hhpg.symm)
      · exact hkey.trans (hmatches.loadKey.trans hhpg.symm)
      · exact (Bool.or_false _).trans (hmatches.freePageTable.trans hhpg.symm)
    | true =>
      have hor : ∀ walker, walker = s.heap.hugepagesEnabled →
          (walker || decide (0 < a.getNumHpt.getD 0)) = decide (0 < a.getNumHpt.getD 0) := by
        rintro walker rfl
        rw [← hmatches.loadKey]
        cases hwalker : s.heap.loadKeyHpg with
        | false => rfl
        | true => rw [decide_eq_true (hkeeps hfd hopen hwalker), Bool.or_true]
      refine ⟨?_, ?_, ?_, nofun⟩
      · exact hor _ hmatches.loadAddr
      · exact hor _ (hkey.trans hmatches.loadKey)
      · exact hor _ hmatches.freePageTable

end Process.Matches

/-! ## Destroying -/

section Destroy

variable (h : Heap)

lemma kept_resetCache (rounds : ℕ) : Kept h (resetCache rounds h) := by
  induction rounds generalizing h with
  | zero => exact Kept.refl h
  | succ rounds ih =>
    unfold resetCache
    cases hpop : popSlab h (-1) with
    | none => exact Kept.refl h
    | some popped =>
      obtain ⟨p, h₁⟩ := popped
      obtain ⟨-, rfl⟩ := popSlab_eq_some hpop
      have hpopped : Kept h (h.uncache p) := Kept.of_eq rfl rfl rfl rfl rfl
      exact (hpopped.trans (kept_freeSlab _ p)).trans (ih _)

lemma kept_destroyList (slabs : List ℕ) : Kept h (destroyList h slabs) := by
  induction slabs generalizing h with
  | nil => exact Kept.refl h
  | cons p rest ih => exact (kept_freeSlab h p).trans (ih (freeSlab h p))

lemma kept_giveBackAll : Kept h h.giveBackAll :=
  ((kept_resetCache h _).trans (kept_destroyList _ _)).trans (kept_destroyList _ _)

end Destroy

lemma Process.Matches.destroy {s : Process} (hmatches : s.Matches) :
    Process.Matches { s with heap := s.heap.destroy } := by
  have hempty : Process.Matches { s with heap := { s.heap with pageTable := fun _ => 0, stored := [] } } :=
    { hmatches with stored := nofun }
  have hgiven := hempty.keep (kept_giveBackAll _)
  exact { hgiven with }

/-! ## Whole runs -/

lemma Process.fd_of_qaeOpenFd {s s' : Process} {getpid : ℕ} {a : Answers}
    (hopen : s.qaeOpenFd getpid a = (s', true)) : s'.heap.fd = true := by
  obtain ⟨rfl, hok⟩ := Prod.mk.inj hopen
  exact Usdm.fd_qaeOpenFd _ a hok

/-- **What one call does to the walkers.** -/
theorem processStep_matches {s s' : Process} {e : ProcessEvent} (hmatches : s.Matches)
    (hstep : guarded Process.KeepsHugepages processStep s e s') : s'.Matches := by
  obtain ⟨hkeeps, -, rfl⟩ := hstep
  obtain ⟨operation, getpid, a⟩ := e
  cases operation with
  | init =>
    show (s.qaeMemInit getpid a).Matches
    unfold Process.qaeMemInit
    split
    · exact hmatches.qaeOpenFd (hkeeps (by assumption))
    · exact hmatches
  | alloc size node align =>
    show (s.qaeMemAllocNUMA getpid a size node align).Matches
    unfold Process.qaeMemAllocNUMA
    split
    · have hopened := hmatches.qaeOpenFd (hkeeps (by assumption))
      cases hopen : s.qaeOpenFd getpid a with
      | mk s₁ ok =>
        rw [hopen] at hopened
        cases ok with
        | false => exact hopened
        | true =>
          exact (hopened.keep (kept_qaeMemAllocNUMA (Process.fd_of_qaeOpenFd hopen) a size node align)).withLive _
    · exact hmatches
  | free va =>
    show (s.qaeMemFreeNUMA getpid a va).Matches
    unfold Process.qaeMemFreeNUMA
    split
    · have hopened := hmatches.qaeOpenFd (hkeeps (by assumption))
      cases hopen : s.qaeOpenFd getpid a with
      | mk s₁ ok =>
        rw [hopen] at hopened
        cases ok with
        | false => exact hopened
        | true => exact (hopened.keep (kept_qaeMemFreeNUMA (Process.fd_of_qaeOpenFd hopen) a va)).withLive _
    · exact hmatches.withLive _
  | destroy =>
    show (s.qaeMemDestroy a).Matches
    unfold Process.qaeMemDestroy
    split
    · exact hmatches.destroy
    · exact hmatches

/-- **The walkers match the pages that are stored**, in every state that is reached by calls none of which
opens the file without huge pages after there were some. -/
theorem walkers_match {es : List ProcessEvent} {s : Process}
    (hrun : Run (guarded Process.KeepsHugepages processStep) processInit es s) : s.Matches := by
  refine hrun.invariant (I := Process.Matches) (fun _ _ _ hm hstep => processStep_matches hm hstep) ?_
  exact ⟨rfl, rfl, rfl, nofun⟩

/-- A kernel with huge pages, which grants one at `0x200000`. -/
def hugepages : Answers :=
  { refusing with
    getNumHpt := some 8
    hugepageMmap := fun len => if len = slabSize then some 0x200000 else none
    hugepageVirt2phy := fun _ => 0x40000000 }

lemma hugepages_possible {h : Heap} (hslabs : h.slabs = []) : hugepages.Possible h := by
  refine ⟨?_, ?_, ?_, ?_, ?_, ?_⟩
  · exact fun _ _ _ hsome => nomatch hsome
  · exact fun _ _ _ _ _ hsome => nomatch hsome
  · exact fun _ _ _ _ hsome => nomatch hsome
  · exact fun _ _ _ _ hsome => nomatch hsome
  · intro len v hsome
    obtain ⟨rfl, heq⟩ := Option.ite_none_right_eq_some.mp hsome
    cases heq
    refine ⟨by decide, by decide, by decide, ?_⟩
    rw [hslabs]
    exact nofun
  · intro len v hsome
    exact ⟨512, rfl⟩

/-- A huge page is used, everything is given back, and a child process uses a huge page as well. -/
theorem child_walkers_match : ∃ s, Run (guarded Process.KeepsHugepages processStep) processInit
        [⟨.alloc 1000 0 64, 7, hugepages⟩, ⟨.destroy, 7, refusing⟩, ⟨.alloc 3000 0 64, 8, hugepages⟩] s ∧
      s.heap.stored = [true] ∧ s.Matches := by
  have hpossible {s : Process} {getpid : ℕ} {size : U64} (hslabs : (allocLookup
      (s.qaeOpenFd getpid hugepages).1.heap hugepages size.toNat 0 64).1.slabs = []) :
      s.Possible ⟨.alloc size 0 64, getpid, hugepages⟩ := by
    intro s' hopen
    obtain ⟨rfl, -⟩ := Prod.mk.inj hopen
    exact alloc_possible (fun _ => hugepages_possible) hslabs
  apply Run.exists_and
  · exact .cons ⟨fun _ _ _ _ => by decide, hpossible (by decide +kernel), rfl⟩ <|
      .cons ⟨fun hopens => hopens.elim, Or.inl rfl, rfl⟩ <|
      .single ⟨fun _ _ _ _ => by decide, hpossible (by decide +kernel), rfl⟩
  · exact fun hrun => ⟨by decide +kernel, walkers_match hrun⟩

/-- **The walkers need not match**, after the file was opened with huge pages and again without. -/
theorem walkers_do_not_match : ∃ s, Run processStep processInit
        [⟨.init, 7, hugepages⟩, ⟨.destroy, 7, refusing⟩, ⟨.alloc 1000 0 64, 7, granting⟩] s ∧
      s.heap.stored = [false] ∧ (s.loadAddrHpg, s.heap.loadKeyHpg, s.freePageTableHpg) = (true, true, true) ∧
      s.heap.live = [⟨0x201400, 1000, 64⟩] ∧ findSlabInHash s.heap 0x201400 = none ∧ ¬ s.Matches := by
  have hpossible {s : Process} (hslabs : (allocLookup (s.qaeOpenFd 7 granting).1.heap granting 1000 0
      64).1.slabs = []) : s.Possible ⟨.alloc 1000 0 64, 7, granting⟩ := by
    intro s' hopen
    obtain ⟨rfl, -⟩ := Prod.mk.inj hopen
    exact alloc_possible (fun _ => granting_possible) hslabs
  refine ⟨_, .cons ⟨trivial, rfl⟩ (.cons ⟨Or.inl rfl, rfl⟩ (.single ⟨hpossible (by decide +kernel), rfl⟩)),
    by decide +kernel, by decide +kernel, by decide +kernel, by decide +kernel, ?_⟩
  intro hmatches
  exact absurd hmatches.loadAddr (by decide +kernel)

end QuickAssist.Usdm
