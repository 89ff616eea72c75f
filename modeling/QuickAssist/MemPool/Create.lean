import Mathlib.Data.BitVec
import QuickAssist.Lib.Alloc
import QuickAssist.Lib.Run
import QuickAssist.Lib.Words

/-!
# Creating a memory pool, and what a create that fails leaves behind

`Lac_MemPoolCreate` takes a slot of the array of pools, allocates a header for it, if asked to a table that tracks the
elements, and the elements, one by one. It can fail at any of these. Up to the table it undoes by hand what it has
done; from the first element on it leaves that to `Lac_MemPoolCleanUpInternal`, as `Lac_MemPoolDestroy` does. The
functions have no result where the code reads or writes memory that it may not: an entry of the table that was not
written, an address that is not in use. The size of the table is cut off at 32 bits (`addElements_overrun`).

**Outside.** Addresses are chosen by an `Allocator`. Which allocations succeed, and what the field
`numElementsInPool` holds before it is written, is part of the call.
-/

namespace QuickAssist.MemPool

open Lib Lib.Alloc Function Option List

/-! ## Pools -/

def lacMemPoolsNumSupported : ℕ := 32000

/-- The errors of `Lac_MemPoolCreate`. -/
inductive PoolError
  | invalidParam
  | fail
  | resource

/-- The block that precedes the data of an element. Source: `lac_mem_blk_t`. -/
structure MemBlk (α : Type*) where
  /-- `pMemAllocPtr`, what was allocated for the element. -/
  pMemAllocPtr : α
  pPoolID : α
  isInUse : Bool

/-- The array that `trackBlks` points to. -/
structure TrackTable (α : Type*) where
  addr : α
  capacity : ℕ
  /-- The entries. `none` is one that was not written. -/
  entry : ℕ → Option (MemBlk α)

/-- The header of a pool. Source: `lac_mem_pool_hdr_t`. -/
structure PoolHdr (α : Type*) where
  addr : α
  /-- `stack`. No other thread has the pool while it is created or destroyed, so it is the list that it
  linearizes to. -/
  stack : List (MemBlk α)
  numElementsInPool : U32
  trackBlks : Option (TrackTable α)
  availBlks : ℕ

structure Pools (α : Type*) where
  lacMemPools : ℕ → Option (PoolHdr α)
  live : Finset α

/-- A call of `Lac_MemPoolCreate`, and what the operating system answers during it. -/
structure CreateCall where
  poolIdNull : Bool
  poolNameNull : Bool
  numElementsInPool : U32
  trackMemory : Bool
  hdrOk : Bool
  /-- What `numElementsInPool` of the header holds when it was allocated. -/
  hdrNum : U32
  trackOk : Bool
  elemOk : ℕ → Bool

def CreateCall.trackCapacity (c : CreateCall) : ℕ := 8 * c.numElementsInPool.toNat % 2 ^ 32 / 8

variable {α : Type*} [DecidableEq α] (A : Allocator α)

/-! ## Giving a pool back -/

/-- Pop the blocks and free them. Source: `Lac_MemPoolCleanUpInternal`, first loop. -/
def drain : Finset α → List (MemBlk α) → Option (Finset α)
  | live, [] => some live
  | live, b :: stack => (free live b.pMemAllocPtr).bind (drain · stack)

/-- Free the blocks of the entries from `count` on. Source: `Lac_MemPoolCleanUpInternal`, second loop. -/
def freeTracked (t : TrackTable α) : ℕ → ℕ → Finset α → Option (Finset α)
  | 0, _, live => some live
  | left + 1, count, live =>
    (t.entry count).bind fun b => (free live b.pMemAllocPtr).bind (freeTracked t left (count + 1))

def cleanUpInternal (live : Finset α) (hdr : PoolHdr α) : Option (Finset α) :=
  match hdr.trackBlks with
  | none => (drain live hdr.stack).bind (free · hdr.addr)
  | some t =>
    (freeTracked t hdr.numElementsInPool.toNat 0 live).bind fun live => (free live t.addr).bind (free · hdr.addr)

def Pools.release (s : Pools α) (poolSearch : ℕ) (live : Finset α) : Pools α :=
  ⟨update s.lacMemPools poolSearch none, live⟩

/-! ## Creating a pool -/

/-- The first slot that is free. Source: `Lac_MemPoolCreate`, search. -/
def findPool (pools : ℕ → Option (PoolHdr α)) : ℕ → ℕ → Option ℕ
  | 0, _ => none
  | left + 1, poolSearch =>
    match pools poolSearch with
    | some _ => findPool pools left (poolSearch + 1)
    | none => some poolSearch

def newBlk (hdr a : α) : MemBlk α := ⟨a, hdr, false⟩

def newHdr (addr : α) (num : U32) (trackBlks : Option (TrackTable α)) : PoolHdr α := ⟨addr, [], num, trackBlks, 0⟩

def newTable (c : CreateCall) (live : Finset α) : TrackTable α := ⟨A.choose live, c.trackCapacity, fun _ => none⟩

def PoolHdr.addBlock (hdr : PoolHdr α) (counter : ℕ) (b : MemBlk α) : Option (PoolHdr α) :=
  match hdr.trackBlks with
  | none => some { hdr with stack := b :: hdr.stack, availBlks := hdr.availBlks + 1 }
  | some t =>
    if counter < t.capacity then
      some { hdr with
        stack := b :: hdr.stack
        trackBlks := some { t with entry := update t.entry counter (some b) }
        availBlks := hdr.availBlks + 1 }
    else none

/-- The loop over the elements: what is in use at its end, the header, and whether all were allocated. -/
def addElements (elemOk : ℕ → Bool) : ℕ → ℕ → Finset α → PoolHdr α → Option (Finset α × PoolHdr α × Bool)
  | 0, _, live, hdr => some (live, hdr, true)
  | left + 1, counter, live, hdr =>
    if elemOk counter then
      (hdr.addBlock counter (newBlk hdr.addr (A.choose live))).bind
        (addElements elemOk left (counter + 1) (insert (A.choose live) live))
    else some (live, hdr, false)

def createElements (s : Pools α) (c : CreateCall) (poolSearch : ℕ) (live : Finset α)
    (hdr : PoolHdr α) : Option (Pools α × Except PoolError α) :=
  (addElements A c.elemOk c.numElementsInPool.toNat 0 live hdr).bind fun r =>
    match r with
    | (live, hdr, true) =>
      let hdr := { hdr with numElementsInPool := c.numElementsInPool }
      some (⟨update s.lacMemPools poolSearch (some hdr), live⟩, .ok hdr.addr)
    | (live, hdr, false) => (cleanUpInternal live hdr).map fun live => (s.release poolSearch live, .error .resource)

def createIn (s : Pools α) (c : CreateCall) (poolSearch : ℕ) : Option (Pools α × Except PoolError α) :=
  let hdr := A.choose s.live
  let live := insert hdr s.live
  if !c.hdrOk then some (s.release poolSearch s.live, .error .resource)
  else if c.poolNameNull then
    (free live hdr).map fun live => (s.release poolSearch live, .error .invalidParam)
  else if c.trackMemory then
    if !c.trackOk then
      (free live hdr).map fun live => (s.release poolSearch live, .error .resource)
    else
      let table := newTable A c live
      createElements A s c poolSearch (insert table.addr live) (newHdr hdr c.hdrNum (some table))
  else createElements A s c poolSearch live (newHdr hdr c.hdrNum none)

def memPoolCreate (s : Pools α) (c : CreateCall) : Option (Pools α × Except PoolError α) :=
  if c.poolIdNull then some (s, .error .invalidParam)
  else
    match findPool s.lacMemPools lacMemPoolsNumSupported 0 with
    | none => some (s, .error .fail)
    | some poolSearch => createIn A s c poolSearch

/-- The slot of a pool. Source: `Lac_MemPoolDestroy`, search. -/
def findId (pools : ℕ → Option (PoolHdr α)) (poolID : α) : ℕ → ℕ → Option (ℕ × PoolHdr α)
  | 0, _ => none
  | left + 1, poolSearch =>
    match (pools poolSearch).filter (fun hdr => hdr.addr = poolID) with
    | some hdr => some (poolSearch, hdr)
    | none => findId pools poolID left (poolSearch + 1)

/-- Destroy a pool; `NULL` is none. -/
def memPoolDestroy (s : Pools α) : Option α → Option (Pools α)
  | none => some s
  | some poolID =>
    match findId s.lacMemPools poolID lacMemPoolsNumSupported 0 with
    | none => some s
    | some (poolSearch, hdr) => (cleanUpInternal s.live hdr).map (s.release poolSearch)

/-! ## The search for a slot -/

variable {A} {pools : ℕ → Option (PoolHdr α)} {s : Pools α} {c : CreateCall}

variable {k left slot : ℕ} {poolID addr : α} {s' : Pools α}

omit [DecidableEq α] in
lemma findPool_of_full (h : ∀ j, k ≤ j → j < k + left → pools j ≠ none) : findPool pools left k = none := by
  induction left generalizing k with
  | zero => rfl
  | succ left ih =>
    obtain ⟨hdr, hk⟩ := ne_none_iff_exists'.mp (h k le_rfl (by omega))
    rw [findPool, hk]
    exact ih fun j hj hlt => h j (by omega) (by omega)

omit [DecidableEq α] in
lemma findPool_of_free {left k j : ℕ} (hk : k ≤ j) (hlt : j < k + left) (hj : pools j = none) :
    ∃ slot, findPool pools left k = some slot := by
  induction left generalizing k with
  | zero => omega
  | succ left ih =>
    rw [findPool]
    split
    · next hdr hpool =>
        have hne : j ≠ k := by
          rintro rfl
          simp [hj] at hpool
        exact ih (by omega) (by omega)
    · exact ⟨k, rfl⟩

omit [DecidableEq α] in
lemma findPool_eq_some (h : findPool pools left k = some slot) : slot < k + left ∧ pools slot = none := by
  induction left generalizing k with
  | zero => cases h
  | succ left ih =>
    rw [findPool] at h
    split at h
    · obtain ⟨hlt, hnone⟩ := ih h
      exact ⟨by omega, hnone⟩
    · next hpool =>
        cases h
        exact ⟨by omega, hpool⟩

omit [DecidableEq α] in
lemma Pools.release_self (h : s.lacMemPools slot = none) : s.release slot s.live = s := by
  have hpools : update s.lacMemPools slot none = s.lacMemPools := by
    rw [← h, update_eq_self]
  rw [release, hpools]

/-! ## The loop over the elements -/

section loop

variable (A) (live : Finset α) (hdr : PoolHdr α)

/-- What is in use after `k` elements. -/
def liveAfter (k : ℕ) : Finset α := live ∪ (allocs A live k).toFinset

/-- The header after `k` elements. -/
def filled (k : ℕ) : PoolHdr α :=
  { hdr with
    stack := ((allocs A live k).map (newBlk hdr.addr)).reverse
    trackBlks := hdr.trackBlks.map fun t => { t with entry := fun j => ((allocs A live k)[j]?).map (newBlk hdr.addr) }
    availBlks := k }

lemma liveAfter_zero : liveAfter A live 0 = live := by
  simp [liveAfter, allocs]

/-- There is room for `i` elements: there is no table, or it is large enough. -/
def Room (i : ℕ) : Prop := ∀ t, hdr.trackBlks = some t → i ≤ t.capacity

lemma update_entry (k : ℕ) (addr : α) : update (fun j => ((allocs A live k)[j]?).map (newBlk addr)) k
        (some (newBlk addr (A.choose (liveAfter A live k)))) =
      fun j => ((allocs A live (k + 1))[j]?).map (newBlk addr) := by
  funext j
  rcases Nat.lt_trichotomy j k with hlt | rfl | hgt
  · rw [update_of_ne (by omega), allocs, List.getElem?_append_left (by simpa using hlt)]
  · rw [update_self, allocs, List.getElem?_append_right (by simp)]
    simp [liveAfter]
  · rw [update_of_ne (by omega), List.getElem?_eq_none (by simp; omega), List.getElem?_eq_none (by simp; omega)]

/-- **One element.** -/
theorem addBlock_filled (hroom : Room hdr (k + 1)) :
    (filled A live hdr k).addBlock k (newBlk hdr.addr (A.choose (liveAfter A live k))) =
      some (filled A live hdr (k + 1)) := by
  have hstack : newBlk hdr.addr (A.choose (liveAfter A live k)) :: ((allocs A live k).map (newBlk hdr.addr)).reverse =
        ((allocs A live (k + 1)).map (newBlk hdr.addr)).reverse := by
    simp [allocs, liveAfter]
  rcases ht : hdr.trackBlks with _ | t
  · simp [PoolHdr.addBlock, filled, ht, hstack]
  · have hlt : k < t.capacity := hroom t ht
    simp [PoolHdr.addBlock, filled, ht, hlt, hstack, update_entry]

variable {t : TrackTable α}

lemma addBlock_overrun (ht : hdr.trackBlks = some t)
    (hk : t.capacity ≤ k) (b : MemBlk α) : (filled A live hdr k).addBlock k b = none := by
  have hlt : ¬ k < t.capacity := by omega
  simp [PoolHdr.addBlock, filled, ht, hlt]

variable {elemOk : ℕ → Bool}

lemma addElements_next (hk : elemOk k) (hroom : Room hdr (k + 1)) :
    addElements A elemOk (left + 1) k (liveAfter A live k) (filled A live hdr k) =
      addElements A elemOk left (k + 1) (liveAfter A live (k + 1)) (filled A live hdr (k + 1)) := by
  have hlive : insert (A.choose (liveAfter A live k)) (liveAfter A live k) =
      liveAfter A live (k + 1) := insert_choose_allocs A live k
  have hblock := addBlock_filled A live hdr hroom
  rw [addElements, if_pos hk, hlive]
  exact congrArg (Option.bind · _) hblock

/-- **The loop stops at the first element that cannot be allocated, or at the end.** -/
theorem addElements_eq {left k i : ℕ} (hki : k ≤ i) (hil : i ≤ k + left) (hroom : Room hdr i)
    (hok : ∀ j, k ≤ j → j < i → elemOk j) (hstop : i < k + left → elemOk i = false) :
    addElements A elemOk left k (liveAfter A live k) (filled A live hdr k) =
      some (liveAfter A live i, filled A live hdr i, decide (i = k + left)) := by
  induction left generalizing k with
  | zero =>
    obtain rfl : k = i := by omega
    simp [addElements]
  | succ left ih =>
    rcases Nat.eq_or_lt_of_le hki with rfl | hlt
    · simp [addElements, hstop (by omega)]
    · have hnext : Room hdr (k + 1) := fun t ht => le_trans (by omega) (hroom t ht)
      rw [addElements_next A live hdr (hok k le_rfl hlt) hnext,
        ih (by omega) (by omega) (fun j hj => hok j (by omega)) (fun h => hstop (by omega))]
      rw [Nat.add_assoc k, Nat.add_comm 1]

/-- **The loop writes outside of the table** if there are elements for more entries than it has. -/
theorem addElements_overrun (ht : hdr.trackBlks = some t)
    (hk : k ≤ t.capacity) (hlt : t.capacity < k + left) (hok : ∀ j, k ≤ j → j ≤ t.capacity → elemOk j) :
    addElements A elemOk left k (liveAfter A live k) (filled A live hdr k) = none := by
  induction left generalizing k with
  | zero => omega
  | succ left ih =>
    rcases Nat.eq_or_lt_of_le hk with heq | hklt
    · have hblock := fun b => addBlock_overrun A live hdr ht heq.ge b
      rw [addElements, if_pos (hok k le_rfl hk), hblock, bind_none]
    · have hroom : Room hdr (k + 1) := by
        intro t' ht'
        cases ht.symm.trans ht'
        exact hklt
      rw [addElements_next A live hdr (hok k le_rfl hk) hroom]
      exact ih (by omega) (by omega) fun j hj => hok j (by omega)

/-! ## What the cleanup frees -/

lemma filled_zero (addr : α) (num : U32) (table : Option (TrackTable α))
    (hempty : ∀ t ∈ table, t.entry = fun _ => none) :
    filled A live (newHdr addr num table) 0 = newHdr addr num table := by
  rcases table with _ | t
  · rfl
  · have ht : t.entry = fun _ => none := hempty t rfl
    simp [filled, newHdr, allocs, ← ht]

lemma drain_eq_freeAll (live : Finset α) (stack : List (MemBlk α)) :
    drain live stack = freeAll live (stack.map MemBlk.pMemAllocPtr) := by
  induction stack generalizing live with
  | nil => rfl
  | cons b stack ih => exact congrArg _ (funext ih)

lemma freeTracked_eq {l : List α} (hentry : ∀ j, t.entry j = (l[j]?).map (newBlk addr)) (left k : ℕ) :
    freeTracked t left k live = if k + left ≤ max k l.length then freeAll live ((l.drop k).take left) else none := by
  induction left generalizing k live with
  | zero => simp [freeTracked, freeAll]
  | succ left ih =>
    rw [freeTracked, hentry]
    by_cases hk : k < l.length
    · have hmax : max k l.length = l.length := max_eq_right hk.le
      have hmax' : max (k + 1) l.length = l.length := max_eq_right hk
      have hsum : k + 1 + left = k + (left + 1) := by omega
      rw [List.getElem?_eq_getElem hk, drop_eq_getElem_cons hk, take_succ_cons, freeAll, hmax]
      simp only [map_some, bind_some, newBlk, ih, hmax', hsum]
      split
      · rfl
      · exact bind_fun_none _
    · have hlt : ¬ k + (left + 1) ≤ max k l.length := by omega
      rw [List.getElem?_eq_none (by omega), if_neg hlt, map_none, bind_none]

/-- **Without a table** the cleanup frees every element, and the header. -/
theorem cleanUpInternal_untracked (ht : hdr.trackBlks = none) (i : ℕ) :
    cleanUpInternal (liveAfter A live i) (filled A live hdr i) = free live hdr.addr := by
  have hptrs : ((filled A live hdr i).stack.map MemBlk.pMemAllocPtr).Perm (allocs A live i) := by
    have hmap : ((allocs A live i).map (newBlk hdr.addr)).map MemBlk.pMemAllocPtr = allocs A live i := by
      simp [newBlk, Function.comp_def]
    rw [filled, map_reverse, hmap]
    exact reverse_perm _
  have hnone : (filled A live hdr i).trackBlks = none := by simp [filled, ht]
  unfold cleanUpInternal
  rw [hnone, drain_eq_freeAll]
  unfold liveAfter
  rw [freeAll_of_perm_allocs A hptrs]
  rfl

/-- **With a table** the cleanup frees as many elements as the header says that there are. -/
theorem cleanUpInternal_tracked (ht : hdr.trackBlks = some t) (i : ℕ) :
    cleanUpInternal (liveAfter A live i) (filled A live hdr i) = if hdr.numElementsInPool.toNat ≤ i then
        (free (liveAfter A live i \ ((allocs A live i).take hdr.numElementsInPool.toNat).toFinset)
          t.addr).bind (free · hdr.addr)
      else none := by
  have hsome : (filled A live hdr i).trackBlks =
      some { t with entry := fun j => ((allocs A live i)[j]?).map (newBlk hdr.addr) } := by
    simp [filled, ht]
  unfold cleanUpInternal
  rw [hsome]
  change (freeTracked _ hdr.numElementsInPool.toNat 0 _).bind _ = _
  rw [freeTracked_eq (liveAfter A live i) (fun _ => rfl), Nat.zero_add, Nat.zero_max, length_allocs, drop_zero]
  split
  · unfold liveAfter
    rw [freeAll_take_allocs]
    rfl
  · rfl

end loop

/-! ## What the cleanup leaves -/

lemma free_header (s : Pools α) : free (insert (A.choose s.live) s.live) (A.choose s.live) = some s.live :=
  free_insert (A.fresh s.live)

lemma cleanUp_untracked (s : Pools α) (num : U32) (i : ℕ) :
    cleanUpInternal (liveAfter A (insert (A.choose s.live) s.live) i)
      (filled A (insert (A.choose s.live) s.live) (newHdr (A.choose s.live) num none) i) = some s.live := by
  rw [cleanUpInternal_untracked A _ (newHdr _ num none) rfl]
  exact free_header s

section tracked

variable {hdr : α} {live : Finset α} {table : TrackTable α} {num : U32} {i : ℕ}

lemma cleanUp_tracked_of_eq (hhdr : hdr ∉ live) (htable : table.addr ∉ insert hdr live) (h : num.toNat = i) :
    cleanUpInternal (liveAfter A (insert table.addr (insert hdr live)) i)
      (filled A (insert table.addr (insert hdr live)) (newHdr hdr num (some table)) i) = some live := by
  have hfree := freeAll_take_allocs A (insert table.addr (insert hdr live)) i i
  have htake : (allocs A (insert table.addr (insert hdr live)) i).take i =
      allocs A (insert table.addr (insert hdr live)) i := take_of_length_le (length_allocs A _ i).le
  rw [htake, freeAll_of_perm_allocs A (List.Perm.refl _)] at hfree
  have hrest := Option.some.inj hfree
  rw [cleanUpInternal_tracked A _ (newHdr hdr num (some table)) rfl]
  change (if num.toNat ≤ i then (free (liveAfter A _ i \ ((allocs A _ i).take num.toNat).toFinset)
    table.addr).bind (free · hdr) else none) = _
  rw [if_pos h.le, h, htake, liveAfter, ← hrest, free_insert htable, bind_some, free_insert hhdr]

/-- With a table, an element stays in use if the header has another number, or what is freed was never
allocated. -/
lemma cleanUp_tracked_of_ne (hne : num.toNat ≠ i) :
    cleanUpInternal (liveAfter A (insert table.addr (insert hdr live)) i)
      (filled A (insert table.addr (insert hdr live)) (newHdr hdr num (some table)) i) ≠ some live := by
  rw [cleanUpInternal_tracked A _ (newHdr hdr num (some table)) rfl]
  split
  · next hle =>
      intro h
      -- the element after those that are freed
      obtain ⟨a, ha, hleft⟩ := @exists_mem_sdiff_take α _ (insert table.addr (insert hdr live)) A i
        num.toNat (lt_of_le_of_ne hle hne)
      have hfresh := notMem_of_mem_allocs A ha
      simp only [Finset.mem_insert, not_or] at hfresh
      obtain ⟨live', htable, hhdr⟩ := bind_eq_some_iff.mp h
      have hstays := mem_of_free htable hleft hfresh.1
      exact hfresh.2.2 (mem_of_free hhdr hstays hfresh.2.1)
  · simp

end tracked

/-! ## A pool that was created is destroyed -/

variable {live : Finset α} {hdr hdr' : PoolHdr α} {table : Option (TrackTable α)}

lemma room_of_addBlock {b : MemBlk α} (h : (filled A live hdr k).addBlock k b = some hdr') : Room hdr (k + 1) := by
  intro t ht
  by_contra hlt
  rw [addBlock_overrun A live hdr ht (by omega)] at h
  cases h

lemma addElements_eq_true {live' : Finset α} {elemOk : ℕ → Bool}
    (h : addElements A elemOk left k (liveAfter A live k) (filled A live hdr k) =
      some (live', hdr', true)) : live' = liveAfter A live (k + left) ∧ hdr' = filled A live hdr (k + left) := by
  induction left generalizing k with
  | zero =>
    cases h
    exact ⟨rfl, rfl⟩
  | succ left ih =>
    have hok : elemOk k = true := by
      by_contra hno
      simp [addElements, hno] at h
    have hroom : Room hdr (k + 1) := by
      rw [addElements, if_pos hok] at h
      obtain ⟨hdr₁, hblock, -⟩ := bind_eq_some_iff.mp h
      exact room_of_addBlock hblock
    rw [addElements_next A live hdr hok hroom] at h
    rw [Nat.add_comm left, ← Nat.add_assoc]
    exact ih h

lemma findId_eq_some (hk : k ≤ slot) (hlt : slot < k + left) (hslot : pools slot = some hdr) (haddr : hdr.addr = poolID)
    (hother : ∀ j hdr', j ≠ slot → pools j = some hdr' → hdr'.addr ≠ poolID) :
    findId pools poolID left k = some (slot, hdr) := by
  induction left generalizing k with
  | zero => omega
  | succ left ih =>
    rcases Nat.eq_or_lt_of_le hk with rfl | hklt
    · have hsome : (pools k).filter (fun hdr' => hdr'.addr = poolID) = some hdr := by
        simp [hslot, haddr, Option.filter]
      rw [findId, hsome]
    · have hnone : (pools k).filter (fun hdr' => hdr'.addr = poolID) = none := by
        rw [filter_eq_none_iff]
        intro hdr' hpool
        simpa using hother k hdr' (by omega) hpool
      rw [findId, hnone]
      exact ih (by omega) (by omega)

def created (A : Allocator α) (s : Pools α) (c : CreateCall) (slot : ℕ) (live : Finset α) (addr : α)
    (table : Option (TrackTable α)) : Pools α :=
  ⟨update s.lacMemPools slot (some (filled A live (newHdr addr c.numElementsInPool table) c.numElementsInPool.toNat)),
    liveAfter A live c.numElementsInPool.toNat⟩

lemma createElements_ok (hempty : ∀ t ∈ table, t.entry = fun _ => none)
    (h : createElements A s c slot live (newHdr addr c.hdrNum table) = some (s', .ok poolID)) :
    poolID = addr ∧ s' = created A s c slot live addr table := by
  obtain ⟨⟨live₁, hdr₁, b⟩, hloop, hend⟩ := bind_eq_some_iff.mp h
  rcases b with _ | _
  · obtain ⟨live₂, -, heq⟩ := map_eq_some_iff.mp hend
    cases heq
  · have hzero := filled_zero A live addr c.hdrNum table hempty
    rw [← hzero] at hloop
    nth_rewrite 1 [← liveAfter_zero A live] at hloop
    obtain ⟨rfl, rfl⟩ := addElements_eq_true hloop
    cases hend
    rw [Nat.zero_add]
    exact ⟨rfl, rfl⟩

lemma memPoolDestroy_created (hslot : slot < lacMemPoolsNumSupported) (hnone : s.lacMemPools slot = none)
    (haddr : ∀ j hdr, s.lacMemPools j = some hdr → hdr.addr ≠ addr)
    (hclean : cleanUpInternal (liveAfter A live c.numElementsInPool.toNat)
      (filled A live (newHdr addr c.numElementsInPool table) c.numElementsInPool.toNat) = some s.live) :
    memPoolDestroy (created A s c slot live addr table) (some addr) = some s := by
  have hfind : findId (created A s c slot live addr table).lacMemPools addr lacMemPoolsNumSupported 0 =
      some (slot, filled A live (newHdr addr c.numElementsInPool table) c.numElementsInPool.toNat) := by
    refine findId_eq_some (Nat.zero_le slot) (by omega) ?_ rfl ?_
    · exact update_self _ _ _
    · intro j hdr' hne hpool
      simp only [created, update_of_ne hne] at hpool
      exact haddr j hdr' hpool
  have hrelease : (created A s c slot live addr table).release slot s.live = s := by
    rw [Pools.release, created, update_idem]
    exact Pools.release_self hnone
  rw [memPoolDestroy, hfind]
  change (cleanUpInternal (liveAfter A live _) _).map _ = _
  rw [hclean, map_some, hrelease]

/-- **A pool that was created is destroyed with nothing left**, whether it has a table or not, if no element
has been taken from it. The pools that there are have headers in use. -/
theorem create_destroy (hlive : ∀ j hdr, s.lacMemPools j = some hdr → hdr.addr ∈ s.live)
    (h : memPoolCreate A s c = some (s', .ok poolID)) : memPoolDestroy s' (some poolID) = some s := by
  have haddr : ∀ j hdr, s.lacMemPools j = some hdr → hdr.addr ≠ A.choose s.live := by
    intro j hdr hpool heq
    exact A.fresh s.live (heq ▸ hlive j hdr hpool)
  unfold memPoolCreate at h
  split at h
  · cases h
  split at h
  · cases h
  next slot hfind =>
    obtain ⟨hlt, hnone⟩ := findPool_eq_some hfind
    have hslot : slot < lacMemPoolsNumSupported := by omega
    unfold createIn at h
    split_ifs at h
    · cases h
    · obtain ⟨live, -, heq⟩ := map_eq_some_iff.mp h
      cases heq
    · obtain ⟨live, -, heq⟩ := map_eq_some_iff.mp h
      cases heq
    · obtain ⟨rfl, rfl⟩ := createElements_ok (by simp [newTable]) h
      apply memPoolDestroy_created hslot hnone haddr
      exact cleanUp_tracked_of_eq (A.fresh s.live) (A.fresh _) rfl
    · obtain ⟨rfl, rfl⟩ := createElements_ok (by simp) h
      apply memPoolDestroy_created hslot hnone haddr
      exact cleanUp_untracked s c.numElementsInPool c.numElementsInPool.toNat

theorem tracked_pool_destroyed : ∃ s poolID,
    memPoolCreate .above (⟨fun _ => none, ∅⟩ : Pools ℕ) ⟨false, false, 2, true, true, 0, true, fun _ => true⟩ =
      some (s, .ok poolID) ∧ memPoolDestroy s (some poolID) = some ⟨fun _ => none, ∅⟩ :=
  Exists.imp (fun _ => Exists.imp fun _ h => ⟨h, create_destroy nofun h⟩) ⟨_, _, rfl⟩

end QuickAssist.MemPool
