import Mathlib.Data.BitVec
import QuickAssist.Lib.Agents
import QuickAssist.Lib.Linearize
import QuickAssist.Lib.NextChain

/-!
# The lock-free stack of a memory pool

The free blocks of a memory pool are a stack that threads pop and push without a lock. The stack is one word of 64
bits, the address of its first block in 48 of them and a counter in 16, and the blocks are linked through a field. A
pop reads the word, reads the field of the first block and swaps the word for the address it found there, if the word
is still what it was. A push swaps in its own block. Every swap raises the counter, so that a word that is the same is
one that has not been changed, unless the counter has gone round: `Timely` assumes that fewer than `2 ^ 16` swaps
succeed between the read of the word and the swap of a pop.

**The read of a block that is gone.** A pop may read the field of a block that another thread has popped meanwhile,
and writes to: `StackAction.write` lets owners write anything. What the pop has read is then wrong, and its swap fails.

**Who frees a block.** The thread that frees a block need not be the one that allocated it: the block of a request is
freed by the callback, in the thread that polls for responses. `StackAction.hand` gives a block to another thread.
-/

namespace QuickAssist.MemPool

open Lib

/-! ## Memory and threads -/

/-- Addresses of blocks. Virtual addresses have 48 bits; `NULL` is 0. -/
abbrev Addr := BitVec 48

@[ext]
structure PointerT where
  ctr : BitVec 16
  ptr : Addr
  deriving DecidableEq

inductive StackOp
  | push (val : Addr)
  | pop
  deriving DecidableEq

/-- **What a stack is**: the last block pushed is the first to be popped. -/
def lifo : List Addr → StackOp → List Addr × Option Addr
  | l, .push val => (val :: l, none)
  | [], .pop => ([], none)
  | b :: l, .pop => (l, some b)

variable {ι : Type*}

structure StackMem (ι : Type*) where
  top : PointerT
  pNext : Addr → Addr
  swaps : ℕ
  /-- The calls and returns. An operation is named by its thread and its number there. -/
  hist : List (HistEvent (ι × ℕ) StackOp (Option Addr))

/-- Where a thread is. `since` is the number of swaps that had succeeded when the word was read. -/
inductive Phase
  | idle
  /-- It is to read `stack->top`, in `pop`. -/
  | popLoad
  /-- It is to read `next->pNext`. -/
  | popNext (oldTop : PointerT) (since : ℕ)
  | popSwap (oldTop newTop : PointerT) (since : ℕ)
  /-- It is to read `stack->top`, in `push`. -/
  | pushLoad (val : Addr)
  /-- It is to write `val->pNext`. -/
  | pushNext (val : Addr) (oldTop : PointerT)
  | pushSwap (val : Addr) (oldTop newTop : PointerT)
  | done (op : StackOp) (res : Option Addr)
  deriving DecidableEq

structure Thread where
  phase : Phase
  owned : Finset Addr
  ops : ℕ

/-- What a thread does: call `pop` or `push`, take the next access of its call, write to the `pNext` of a block it
owns, or give such a block to another thread. -/
inductive StackAction (ι : Type*)
  | pop
  | push (val : Addr)
  | go
  | write (b v : Addr)
  | hand (b : Addr) (j : ι)

/-- The next access of a call, or its return. Source: `pop`, `push`. -/
def goOn (i : ι) (c : StackMem ι) (t : Thread) : Phase → Option (StackMem ι × Thread)
  | .idle => none
  | .popLoad =>
    if c.top.ptr = 0 then some (c, { t with phase := .done .pop none })
    else some (c, { t with phase := .popNext c.top c.swaps })
  | .popNext oldTop since => some (c, { t with phase := .popSwap oldTop ⟨oldTop.ctr + 1, c.pNext oldTop.ptr⟩ since })
  | .popSwap oldTop newTop _ =>
    if c.top = oldTop then
      some ({ c with top := newTop, swaps := c.swaps + 1 },
        { t with phase := .done .pop (some oldTop.ptr), owned := insert oldTop.ptr t.owned })
    else some (c, { t with phase := .popLoad })
  | .pushLoad val => some (c, { t with phase := .pushNext val c.top })
  | .pushNext val oldTop =>
    some ({ c with pNext := Function.update c.pNext val oldTop.ptr },
      { t with phase := .pushSwap val oldTop ⟨oldTop.ctr + 1, val⟩ })
  | .pushSwap val oldTop newTop =>
    if c.top = oldTop then
      some ({ c with top := newTop, swaps := c.swaps + 1 },
        { t with phase := .done (.push val) none, owned := t.owned.erase val })
    else some (c, { t with phase := .pushLoad val })
  | .done _ res =>
    some ({ c with hist := c.hist ++ [.ret (i, t.ops) res] },
      { t with phase := .idle, ops := t.ops + 1 })

/-- An action that concerns one thread only. -/
def stackAct (i : ι) (c : StackMem ι) (t : Thread) : StackAction ι → Option (StackMem ι × Thread)
  | .pop =>
    if t.phase = .idle then
      some ({ c with hist := c.hist ++ [.call (i, t.ops) .pop] }, { t with phase := .popLoad })
    else none
  | .push val =>
    if t.phase = .idle ∧ val ∈ t.owned then
      some ({ c with hist := c.hist ++ [.call (i, t.ops) (.push val)] },
        { t with phase := .pushLoad val })
    else none
  | .go => goOn i c t t.phase
  | .write b v =>
    if t.phase = .idle ∧ b ∈ t.owned then
      some ({ c with pNext := Function.update c.pNext b v }, t)
    else none
  | .hand _ _ => none

/-- A stack and the threads that use it. -/
abbrev Stack (ι : Type*) := Agents (StackMem ι) Thread ι

variable [DecidableEq ι]

/-- Thread `i`, which owns the block, gives it to thread `j`, whatever that one is doing. -/
def handOver (s : Stack ι) (i j : ι) (b : Addr) : Option (Stack ι) :=
  if (s.agent i).phase = .idle ∧ b ∈ (s.agent i).owned then
    some { s with agent := fun k => { s.agent k with
      owned := if k = j then insert b (s.agent k).owned
        else if k = i then (s.agent k).owned.erase b else (s.agent k).owned } }
  else none

def stackStep (s : Stack ι) (e : ι × StackAction ι) : Option (Stack ι) :=
  match e.2 with
  | .hand b j => handOver s e.1 j b
  | _ => Agents.step (stackAct e.1) s e

/-- The assumption: when a pop is about to swap, fewer than `2 ^ 16` swaps have succeeded since it has read
the word. -/
def Timely (s : Stack ι) (e : ι × StackAction ι) : Prop :=
  ∀ oldTop newTop since, (s.agent e.1).phase = .popSwap oldTop newTop since → s.shared.swaps < since + 2 ^ 16

/-! ## The invariant -/

omit [DecidableEq ι]

/-- A thread has read the word, when `since` swaps had succeeded. -/
structure Loaded (c : StackMem ι) (oldTop : PointerT) (since : ℕ) : Prop where
  le : since ≤ c.swaps
  ctr : c.top.ctr = oldTop.ctr + BitVec.ofNat 16 (c.swaps - since)
  top : c.swaps = since → c.top = oldTop

/-- Operations that have taken effect, with their results. -/
abbrev Order (ι : Type*) := List (Taken (ι × ℕ) StackOp (Option Addr))

def Pending (c : StackMem ι) (lin : Order ι) (k : ι × ℕ) (op : StackOp) : Prop :=
  HistEvent.call k op ∈ c.hist ∧ k ∉ lin.map Taken.id

def PhaseInv (i : ι) (c : StackMem ι) (lin : Order ι) (t : Thread) : Phase → Prop
  | .idle => True
  | .popLoad => Pending c lin (i, t.ops) .pop
  | .popNext oldTop since => Pending c lin (i, t.ops) .pop ∧ Loaded c oldTop since ∧ oldTop.ptr ≠ 0
  | .popSwap oldTop newTop since =>
    Pending c lin (i, t.ops) .pop ∧ Loaded c oldTop since ∧ oldTop.ptr ≠ 0 ∧
      newTop.ctr = oldTop.ctr + 1 ∧ (c.swaps = since → newTop.ptr = c.pNext oldTop.ptr)
  | .pushLoad val => Pending c lin (i, t.ops) (.push val) ∧ val ∈ t.owned
  | .pushNext val _ => Pending c lin (i, t.ops) (.push val) ∧ val ∈ t.owned
  | .pushSwap val oldTop newTop =>
    Pending c lin (i, t.ops) (.push val) ∧ val ∈ t.owned ∧ newTop = ⟨oldTop.ctr + 1, val⟩ ∧ c.pNext val = oldTop.ptr
  | .done op res => ⟨(i, t.ops), op, res⟩ ∈ lin

structure ThreadInv (i : ι) (c : StackMem ι) (lin : Order ι) (t : Thread) : Prop where
  phase : PhaseInv i c lin t t.phase
  fresh : ∀ n op, t.ops < n ∨ t.phase = .idle ∧ n = t.ops → HistEvent.call (i, n) op ∉ c.hist

/-- The stack holds the blocks `l`, and every other block has one owner. -/
structure Placed (s : Stack ι) (l : List Addr) : Prop where
  chain : NextChain s.shared.pNext 0 s.shared.top.ptr l
  nodup : l.Nodup
  apart : ∀ i, ∀ b ∈ (s.agent i).owned, b ∉ l
  exclusive : ∀ i j, ∀ b ∈ (s.agent i).owned, b ∈ (s.agent j).owned → i = j
  ne_null : ∀ i, ∀ b ∈ (s.agent i).owned, b ≠ 0

/-- **The invariant**: the operations `lin` have led from the blocks `l₀` to `l`, and every block has its place. -/
structure Settled (l₀ : List Addr) (s : Stack ι) (l : List Addr) (lin : Order ι) : Prop extends Placed s l where
  /-- The operations are carried out in the order `lin`. -/
  linearizes : Linearizes lifo l₀ s.shared.hist lin l
  thread : ∀ i, ThreadInv i s.shared lin (s.agent i)

end QuickAssist.MemPool
