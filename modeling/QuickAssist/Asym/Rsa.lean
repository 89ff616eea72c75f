import Mathlib.Data.List.Forall2
import QuickAssist.Asym.Operand
import QuickAssist.Lib.Run

/-!
# RSA

`qat_rsa_setkey` puts a key into a context, from which `qat_rsa_enc` and `qat_rsa_dec` take the operands of their
requests. Everything is in buffers of the size of the key, and of half of it for the components of the second form of
a private key, which are used if there are all of them. `rsaStep` is a transform over its life, with the last key that
was accepted and the buffers that were freed, which the driver does not know.
-/

namespace QuickAssist.Asym

open Lib Lib.BigEndian List
open BitVec (ofNat)

variable {zalloc priv : Bool} {value : List Byte} {half keySz : U32} {ctx old : RsaCtx} {key : RsaKey}
  {set : RsaCtx → Option Buffer → RsaCtx} {fail next : RsaCtx → RsaCtx} {parsed : Except Errno RsaKey}
  {n e d : Option Buffer} {op : RsaOp} {req : AkcipherRequest} {msg : PkeRequest} {es : List RsaEvent} {s : RsaTfm}

/-! ## Functions of the device -/

def qatRsaEncFnId : U32 → ℕ :=
  fnId [(512, 0x1c161b21), (1024, 0x35111bf7), (1536, 0x4d111cdc), (2048, 0x6e111dba),
    (3072, 0x7d111ea3), (4096, 0xa5101f7e)]

def qatRsaDecFnId : U32 → ℕ :=
  fnId [(512, 0x1c161b3c), (1024, 0x35111c12), (1536, 0x4d111cf7), (2048, 0x6e111dda),
    (3072, 0x7d111ebe), (4096, 0xa5101f98)]

def qatRsaDecFnIdCrt : U32 → ℕ :=
  fnId [(512, 0x1c131b57), (1024, 0x26131c2d), (1536, 0x45111d12), (2048, 0x59121dfa),
    (3072, 0x81121ed9), (4096, 0xb1111fb2)]

/-! ## Keys -/

structure RsaKey where
  blob : Blob
  n : Slice blob
  e : Slice blob
  d : Slice blob
  p : Slice blob
  q : Slice blob
  dp : Slice blob
  dq : Slice blob
  qinv : Slice blob

def RsaKey.size (key : RsaKey) : ℕ := (significant key.n.bytes).length

lemma RsaKey.toNat_size (key : RsaKey) : (ofNat 32 key.size).toNat = key.size :=
  toNat_ofNat_length ((length_significant_le key.n.bytes).trans_lt key.n.length_bytes_lt)

structure KeyMemory where
  n : Bool
  e : Bool
  d : Bool
  p : Bool
  q : Bool
  dp : Bool
  dq : Bool
  qinv : Bool

/-- The context of a transform, `struct qat_rsa_ctx`. -/
structure RsaCtx where
  n : Option Buffer
  e : Option Buffer
  d : Option Buffer
  p : Option Buffer
  q : Option Buffer
  dp : Option Buffer
  dq : Option Buffer
  qinv : Option Buffer
  keySz : U32
  crtMode : Bool
  freed : List Buffer

def RsaCtx.made (ctx : RsaCtx) : List Buffer :=
  ctx.n.toList ++ ctx.e.toList ++ ctx.d.toList ++ ctx.p.toList ++ ctx.q.toList ++ ctx.dp.toList ++
    ctx.dq.toList ++ ctx.qinv.toList ++ ctx.freed

def rsaCtxInit : RsaCtx := ⟨none, none, none, none, none, none, none, none, 0, false, []⟩

def qatRsaClearCtx (ctx : RsaCtx) : RsaCtx := { rsaCtxInit with freed := ctx.made }

@[simp] lemma made_qatRsaClearCtx (ctx : RsaCtx) : (qatRsaClearCtx ctx).made = ctx.made := by
  simp [qatRsaClearCtx, rsaCtxInit, RsaCtx.made]

/-- Source: `qat_rsa_drop_leading_zeros`, which is also the loop of `qat_rsa_set_n`, `qat_rsa_set_e` and
`qat_rsa_set_d`. -/
def qatRsaDropLeadingZeros : List Byte → List Byte
  | [] => []
  | b :: ptr => if b = 0 then qatRsaDropLeadingZeros ptr else b :: ptr

@[simp] lemma qatRsaDropLeadingZeros_eq (l : List Byte) : qatRsaDropLeadingZeros l = significant l := by
  induction l with
  | nil => rfl
  | cons b l ih => simp only [qatRsaDropLeadingZeros, ih, significant, dropWhile_cons, beq_iff_eq]

def qatRsaSetN (ctx : RsaCtx) (value : List Byte) (zalloc : Bool) : RsaCtx × Option Errno :=
  let ptr := qatRsaDropLeadingZeros value
  let keySz := ofNat 32 ptr.length
  if qatRsaEncFnId keySz = 0 then ({ ctx with keySz := 0, n := none }, some .einval)
  else if !zalloc then ({ ctx with keySz := 0, n := none }, some .enomem)
  else
    ({ ctx with keySz := keySz, n := some (place keySz.toNat 0 (ptr.take keySz.toNat)) }, none)

/-- The buffer for an exponent, which `qat_rsa_set_e` and `qat_rsa_set_d` fill alike. Lengths are of
type `size_t` here. -/
def exponent (keySz : U32) (value : List Byte) (zalloc : Bool) : Except Errno Buffer :=
  let ptr := qatRsaDropLeadingZeros value
  let vlen := ofNat 64 ptr.length
  if keySz = 0 ∨ vlen = 0 ∨ keySz.setWidth 64 < vlen then .error .einval
  else if !zalloc then .error .enomem
  else .ok (place keySz.toNat (keySz.setWidth 64 - vlen) ptr)

def qatRsaSetE (ctx : RsaCtx) (value : List Byte) (zalloc : Bool) : RsaCtx × Option Errno :=
  match exponent ctx.keySz value zalloc with
  | .error err => ({ ctx with e := none }, some err)
  | .ok m => ({ ctx with e := some m }, none)

def qatRsaSetD (ctx : RsaCtx) (value : List Byte) (zalloc : Bool) : RsaCtx × Option Errno :=
  match exponent ctx.keySz value zalloc with
  | .error err => ({ ctx with d := none }, some err)
  | .ok m => ({ ctx with d := some m }, none)

/-! ## The second form of a private key -/

/-- Source: the label `err` of `qat_rsa_setkey_crt`. -/
def crtErr (ctx : RsaCtx) : RsaCtx := { ctx with crtMode := false }

/-- Source: the label `free_p`. -/
def freeP (ctx : RsaCtx) : RsaCtx := crtErr { ctx with p := none, freed := ctx.freed ++ ctx.p.toList }

/-- Source: the label `free_q`. -/
def freeQ (ctx : RsaCtx) : RsaCtx := freeP { ctx with q := none, freed := ctx.freed ++ ctx.q.toList }

/-- Source: the label `free_dp`. -/
def freeDp (ctx : RsaCtx) : RsaCtx := freeQ { ctx with dp := none, freed := ctx.freed ++ ctx.dp.toList }

/-- Source: the label `free_dq`. -/
def freeDq (ctx : RsaCtx) : RsaCtx := freeDp { ctx with dq := none, freed := ctx.freed ++ ctx.dq.toList }

/-- The buffer for a component, where the length is an `unsigned int` and so is the difference. -/
def crtBuffer (halfKeySz : U32) (value : List Byte) : Buffer :=
  let ptr := qatRsaDropLeadingZeros value
  place halfKeySz.toNat (unsignedOff halfKeySz (.ofNat 32 ptr.length)) ptr

/-- One component: `set` is the field of the context that it goes to, and `fail` the label to go to if it
is zero or there is no memory. -/
def crtComponent (halfKeySz : U32) (value : List Byte) (zalloc : Bool)
    (set : RsaCtx → Option Buffer → RsaCtx) (fail next : RsaCtx → RsaCtx) (ctx : RsaCtx) : RsaCtx :=
  if (qatRsaDropLeadingZeros value).length = 0 then fail ctx
  else if !zalloc then fail (set ctx none)
  else next (set ctx (some (crtBuffer halfKeySz value)))

/-- A slice that is one byte, `0x30`. -/
def isPlaceholder {blob : Blob} (s : Slice blob) : Bool := s.isByte 0x30

def RsaKey.secondFormInvalid (key : RsaKey) : Bool :=
  isPlaceholder key.p && isPlaceholder key.q && isPlaceholder key.dp && isPlaceholder key.dq && isPlaceholder key.qinv

def qatRsaSetkeyCrt (ctx : RsaCtx) (key : RsaKey) (k : KeyMemory) : RsaCtx :=
  let half := ctx.keySz / 2
  if key.secondFormInvalid then crtErr ctx
  else
    ctx |> crtComponent half key.p.bytes k.p (fun c m => { c with p := m }) crtErr
      (crtComponent half key.q.bytes k.q (fun c m => { c with q := m }) freeP
      (crtComponent half key.dp.bytes k.dp (fun c m => { c with dp := m }) freeQ
      (crtComponent half key.dq.bytes k.dq (fun c m => { c with dq := m }) freeDp
      (crtComponent half key.qinv.bytes k.qinv (fun c m => { c with qinv := m }) freeDq
        fun c => { c with crtMode := true }))))

/-! ## Setting a key -/

/-- Go on, or clear the context and return the error. Source: the label `free` of `qat_rsa_setkey`. -/
def orFree (r : RsaCtx × Option Errno) (next : RsaCtx → RsaCtx × Option Errno) : RsaCtx × Option Errno :=
  match r.2 with
  | some err => (qatRsaClearCtx r.1, some err)
  | none => next r.1

@[simp] lemma orFree_none (ctx : RsaCtx) (next : RsaCtx → RsaCtx × Option Errno) :
    orFree (ctx, none) next = next ctx := rfl

/-- Source: `qat_rsa_setkey`. What the parser returns is an answer. -/
def qatRsaSetkey (ctx : RsaCtx) (parsed : Except Errno RsaKey) (priv : Bool) (k : KeyMemory) : RsaCtx × Option Errno :=
  let ctx := qatRsaClearCtx ctx
  match parsed with
  | .error err => (qatRsaClearCtx ctx, some err)
  | .ok key =>
    orFree (qatRsaSetN ctx key.n.bytes k.n) fun ctx =>
    orFree (qatRsaSetE ctx key.e.bytes k.e) fun ctx =>
    orFree (if priv then qatRsaSetD ctx key.d.bytes k.d else (ctx, none)) fun ctx =>
      let ctx := if priv then qatRsaSetkeyCrt ctx key k else ctx
      if ctx.n.isNone || ctx.e.isNone then (qatRsaClearCtx ctx, some .einval)
      else if priv && ctx.d.isNone then (qatRsaClearCtx ctx, some .einval)
      else (ctx, none)

/-! ## What the parts of a key come to -/

lemma qatRsaSetN_spec (ctx : RsaCtx) (zalloc : Bool) (hlen : value.length < 2 ^ 32) :
    (∃ err, qatRsaSetN ctx value zalloc = ({ ctx with keySz := 0, n := none }, some err)) ∨
      ∃ m : Buffer, m.Carries (significant value).length value ∧ qatRsaSetN ctx value zalloc =
          ({ ctx with keySz := .ofNat 32 (significant value).length, n := some m }, none) := by
  simp only [qatRsaSetN, qatRsaDropLeadingZeros_eq]
  split
  next => exact Or.inl ⟨_, rfl⟩
  next =>
    split
    next => exact Or.inl ⟨_, rfl⟩
    next =>
      refine Or.inr ⟨_, ?_, rfl⟩
      have hsize : (ofNat 32 (significant value).length).toNat = (significant value).length :=
        toNat_ofNat_length ((length_significant_le value).trans_lt hlen)
      have hcarries : (place (ofNat 32 (significant value).length).toNat 0
          (significant value) : Buffer).Carries _ value :=
        carries_whole hsize.symm (value_significant value)
      rw [hsize] at hcarries ⊢
      rwa [take_length]

section

variable (hlen : value.length < 2 ^ 32)

include hlen

lemma exponent_carries {m : Buffer} (h : exponent keySz value zalloc = .ok m) : m.Carries keySz.toNat value := by
  simp only [exponent, qatRsaDropLeadingZeros_eq] at h
  split at h
  next => cases h
  next hfits =>
    split_ifs at h
    cases h
    have hle := length_significant_le value
    have hvlen : (ofNat 64 (significant value).length).toNat = (significant value).length := by
      rw [BitVec.toNat_ofNat, Nat.mod_eq_of_lt (by omega)]
    have hkey : (keySz.setWidth 64).toNat = keySz.toNat := by
      rw [BitVec.toNat_setWidth, Nat.mod_eq_of_lt (by omega)]
    have hnot : (significant value).length ≤ keySz.toNat := by
      rw [← hvlen]
      exact BitVec.not_lt.mp fun hlt => hfits (Or.inr (Or.inr hlt))
    have hoff : (keySz.setWidth 64 - ofNat 64 (significant value).length).toNat =
        keySz.toNat - (significant value).length := by
      rw [BitVec.toNat_sub_of_le (BitVec.le_def.mpr (by omega)), hvlen, hkey]
    refine carries_place (by omega) (by omega) (value_significant value) (by omega) ?_
    rw [inside_place_iff (by omega)]
    omega

/-- The components of a key in the order in which they are copied, with whether there is memory. -/
def RsaKey.components (key : RsaKey) (k : KeyMemory) : List (List Byte × Bool) :=
  if key.secondFormInvalid then []
  else [(key.p.bytes, k.p), (key.q.bytes, k.q), (key.dp.bytes, k.dp), (key.dq.bytes, k.dq), (key.qinv.bytes, k.qinv)]

/-- The buffers that are filled: as many as there are before a component that is zero or for which there
is no memory. -/
def crtMade (half : U32) : List (List Byte × Bool) → List Buffer
  | [] => []
  | (value, zalloc) :: rest =>
    if significant value = [] ∨ zalloc = false then []
    else crtBuffer half value :: crtMade half rest

def CrtFits (half : ℕ) : List (List Byte × Bool) → Prop
  | [] => True
  | (value, zalloc) :: rest =>
    significant value = [] ∨ zalloc = false ∨ (significant value).length ≤ half ∧ CrtFits half rest

instance CrtFits.decidable (half : ℕ) : (cs : List (List Byte × Bool)) → Decidable (CrtFits half cs)
  | [] => inferInstanceAs (Decidable True)
  | (_, _) :: rest =>
    have := CrtFits.decidable half rest
    inferInstanceAs (Decidable (_ ∨ _ ∨ _ ∧ _))

lemma crtBuffer_inside_iff : (crtBuffer half value).Inside ↔ (significant value).length ≤ half.toNat := by
  simp only [crtBuffer, qatRsaDropLeadingZeros_eq]
  exact inside_unsigned_iff ((length_significant_le value).trans_lt hlen)

lemma crtBuffer_carries (h : (crtBuffer half value).Inside) : (crtBuffer half value).Carries half.toNat value := by
  rw [crtBuffer_inside_iff hlen] at h
  simp only [crtBuffer, qatRsaDropLeadingZeros_eq]
  exact carries_unsigned h (value_significant value)

end

lemma crtMade_inside_iff {cs : List (List Byte × Bool)} (hlen : ∀ c ∈ cs, c.1.length < 2 ^ 32) :
    (∀ m ∈ crtMade half cs, m.Inside) ↔ CrtFits half.toNat cs := by
  induction cs with
  | nil => simp [crtMade, CrtFits]
  | cons c rest ih =>
    have hvalue := hlen _ (mem_cons_self ..)
    specialize ih fun c hc => hlen c (mem_cons_of_mem _ hc)
    simp only [crtMade, CrtFits]
    split
    next hskip =>
      refine iff_of_true (by simp) ?_
      rw [← or_assoc]
      exact Or.inl hskip
    next hcopy =>
      rw [forall_mem_cons, crtBuffer_inside_iff hvalue, ih, ← or_assoc]
      exact (or_iff_right hcopy).symm

section Crt

variable {k : KeyMemory}

lemma RsaKey.length_components : ∀ c ∈ key.components k, c.1.length < 2 ^ 32 := by
  intro c hc
  unfold RsaKey.components at hc
  split at hc
  · cases hc
  · simp only [mem_cons, not_mem_nil, or_false] at hc
    rcases hc with rfl | rfl | rfl | rfl | rfl <;> exact Slice.length_bytes_lt _

/-- Between two contexts these buffers were filled, and the key that is in them is the same otherwise. -/
structure Adds (ctx ctx' : RsaCtx) (ms : List Buffer) : Prop where
  n_eq : ctx'.n = ctx.n
  e_eq : ctx'.e = ctx.e
  d_eq : ctx'.d = ctx.d
  keySz_eq : ctx'.keySz = ctx.keySz
  mem_made : ∀ m, m ∈ ctx'.made ↔ m ∈ ctx.made ∨ m ∈ ms

lemma Adds.trans {ctx' ctx'' : RsaCtx} {ms ms' : List Buffer} (h : Adds ctx ctx' ms)
    (h' : Adds ctx' ctx'' ms') : Adds ctx ctx'' (ms ++ ms') where
  n_eq := h'.n_eq.trans h.n_eq
  e_eq := h'.e_eq.trans h.e_eq
  d_eq := h'.d_eq.trans h.d_eq
  keySz_eq := h'.keySz_eq.trans h.keySz_eq
  mem_made m := by rw [h'.mem_made, h.mem_made, mem_append, or_assoc]

lemma label_adds (ctx : RsaCtx) : ∀ label ∈ [crtErr, freeP, freeQ, freeDp, freeDq], Adds ctx (label ctx) [] := by
  intro label hlabel
  simp only [mem_cons, not_mem_nil, or_false] at hlabel
  rcases hlabel with rfl | rfl | rfl | rfl | rfl <;> refine ⟨rfl, rfl, rfl, rfl, fun m => ?_⟩ <;>
    simp only [freeDq, freeDp, freeQ, freeP, crtErr, RsaCtx.made, mem_append, Option.toList_none,
      not_mem_nil, or_false] <;>
    grind

lemma label_crtMode (ctx : RsaCtx) :
    ∀ label ∈ [crtErr, freeP, freeQ, freeDp, freeDq], (label ctx).crtMode = false := by
  intro label hlabel
  simp only [mem_cons, not_mem_nil, or_false] at hlabel
  rcases hlabel with rfl | rfl | rfl | rfl | rfl <;> rfl

lemma crtComponent_rule {P : RsaCtx → Prop}
    (hzero : significant value = [] → P (fail ctx)) (hmemory : zalloc = false → P (fail (set ctx none)))
    (hnext : significant value ≠ [] → zalloc = true →
      P (next (set ctx (some (crtBuffer half value))))) : P (crtComponent half value zalloc set fail next ctx) := by
  simp only [crtComponent, qatRsaDropLeadingZeros_eq, length_eq_zero_iff]
  split
  next h => exact hzero h
  next h =>
    split
    next hz => exact hmemory (by simpa using hz)
    next hz => exact hnext h (by simpa using hz)

lemma crtComponent_adds {rest : List (List Byte × Bool)} (hset : ∀ o, Adds ctx (set ctx o) o.toList)
    (hfail : fail ∈ [crtErr, freeP, freeQ, freeDp, freeDq])
    (hnext : ∀ c, c = set ctx (some (crtBuffer half value)) → Adds c (next c) (crtMade half rest)) :
    Adds ctx (crtComponent half value zalloc set fail next ctx) (crtMade half ((value, zalloc) :: rest)) := by
  simp only [crtMade]
  apply crtComponent_rule (P := fun c => Adds ctx c _)
  · intro hzero
    rw [if_pos (Or.inl hzero)]
    exact label_adds ctx fail hfail
  · intro hmemory
    rw [if_pos (Or.inr hmemory)]
    exact (hset none).trans (label_adds _ fail hfail)
  · intro hne hz
    rw [if_neg (by simp [hne, hz])]
    exact (hset (some _)).trans (hnext _ rfl)

/-- **Which buffers are filled for the second form.** -/
theorem qatRsaSetkeyCrt_adds (hp : ctx.p = none) (hq : ctx.q = none) (hdp : ctx.dp = none)
    (hdq : ctx.dq = none) (hqinv : ctx.qinv = none) :
    Adds ctx (qatRsaSetkeyCrt ctx key k) (crtMade (ctx.keySz / 2) (key.components k)) := by
  unfold qatRsaSetkeyCrt RsaKey.components
  split
  next => exact label_adds ctx crtErr (by simp)
  next =>
    -- one component after the other, each into a field that was empty
    iterate 5
      refine crtComponent_adds (fun o => ⟨rfl, rfl, rfl, rfl, fun m => ?_⟩) (by simp) ?_
      · simp only [RsaCtx.made, hp, hq, hdp, hdq, hqinv, mem_append, Option.toList_none, not_mem_nil]
        grind
      rintro _ rfl
    exact ⟨rfl, rfl, rfl, rfl, by simp [crtMade, RsaCtx.made]⟩

def RsaCtx.HasSecondForm (ctx : RsaCtx) (half : U32) (key : RsaKey) : Prop :=
  ctx.p = some (crtBuffer half key.p.bytes) ∧ ctx.q = some (crtBuffer half key.q.bytes) ∧
    ctx.dp = some (crtBuffer half key.dp.bytes) ∧ ctx.dq = some (crtBuffer half key.dq.bytes) ∧
    ctx.qinv = some (crtBuffer half key.qinv.bytes)

lemma crtComponent_crtMode {Q : RsaCtx → Prop} (hfail : fail ∈ [crtErr, freeP, freeQ, freeDp, freeDq])
    (hnext : (next (set ctx (some (crtBuffer half value)))).crtMode = true →
      Q (next (set ctx (some (crtBuffer half value))))) :
    (crtComponent half value zalloc set fail next ctx).crtMode = true →
      Q (crtComponent half value zalloc set fail next ctx) := by
  have hoff : ∀ c, (fail c).crtMode = true → Q (fail c) := by
    intro c hon
    rw [label_crtMode c fail hfail] at hon
    cases hon
  apply crtComponent_rule (P := fun c => c.crtMode = true → Q c)
  · exact fun _ => hoff ctx
  · exact fun _ => hoff _
  · exact fun _ _ => hnext

lemma qatRsaSetkeyCrt_crtMode (h : (qatRsaSetkeyCrt ctx key k).crtMode = true) :
    (qatRsaSetkeyCrt ctx key k).HasSecondForm (ctx.keySz / 2) key := by
  revert h
  unfold qatRsaSetkeyCrt
  split
  next => exact nofun
  next =>
    iterate 5 apply crtComponent_crtMode (Q := fun c => c.HasSecondForm _ _) (by simp)
    exact fun _ => ⟨rfl, rfl, rfl, rfl, rfl⟩

end Crt

/-! ## What a key comes to -/

def RsaKey.nOperand (key : RsaKey) : Operand := ⟨key.size, key.n.bytes⟩

def RsaKey.eOperand (key : RsaKey) : Operand := ⟨key.size, key.e.bytes⟩

def RsaKey.dOperand (key : RsaKey) : Operand := ⟨key.size, key.d.bytes⟩

def RsaKey.crtOperands (key : RsaKey) : List Operand :=
  [⟨key.size / 2, key.p.bytes⟩, ⟨key.size / 2, key.q.bytes⟩, ⟨key.size / 2, key.dp.bytes⟩,
    ⟨key.size / 2, key.dq.bytes⟩, ⟨key.size / 2, key.qinv.bytes⟩]

def RsaCtx.crtFields (ctx : RsaCtx) : List (Option Buffer) := [ctx.p, ctx.q, ctx.dp, ctx.dq, ctx.qinv]

structure RsaCtx.Has (ctx : RsaCtx) (key : RsaKey) : Prop where
  keySz_eq : ctx.keySz.toNat = key.size
  n_held : key.nOperand.Held ctx.n
  e_held : key.eOperand.Held ctx.e
  d_held : ctx.d.isSome = true → key.dOperand.Held ctx.d
  crt_held : ctx.crtMode = true → List.Forall₂ Operand.Held key.crtOperands ctx.crtFields

structure FirstForm (old ctx : RsaCtx) (key : RsaKey) (priv : Bool) : Prop where
  has : ctx.Has key
  d_isSome : ctx.d.isSome = priv
  crtFields_eq : ctx.crtFields = [none, none, none, none, none]
  made : ∀ m ∈ ctx.made, m ∈ old.made ∨ m.Inside

section Setkey

variable {k : KeyMemory}

def keyed (old : RsaCtx) (keySz : U32) (n e d : Option Buffer) : RsaCtx :=
  { qatRsaClearCtx old with keySz := keySz, n := n, e := e, d := d }

lemma mem_made_keyed {old : RsaCtx} {n e d : Option Buffer} {m : Buffer} :
    m ∈ (keyed old keySz n e d).made ↔ (n = some m ∨ e = some m ∨ d = some m) ∨ m ∈ old.made := by
  simp [keyed, qatRsaClearCtx, rsaCtxInit, RsaCtx.made, or_assoc]

lemma keyed_made (hnew : ∀ m, n = some m ∨ e = some m ∨ d = some m → m.Inside) :
    ∀ m ∈ (keyed old keySz n e d).made, m ∈ old.made ∨ m.Inside := by
  intro m hm
  rcases mem_made_keyed.mp hm with h | h
  · exact Or.inr (hnew m h)
  · exact Or.inl h

lemma keyed_firstForm {n e : Buffer} (d : Option Buffer) (hn : n.Carries key.size key.n.bytes)
    (he : e.Carries key.size key.e.bytes) (hpriv : d.isSome = priv)
    (hd : ∀ m, d = some m → m.Carries key.size key.d.bytes) :
    FirstForm old (keyed old (.ofNat 32 key.size) (some n) (some e) d) key priv := by
  refine ⟨⟨?_, held_some.mpr hn, held_some.mpr he, ?_, ?_⟩, hpriv, rfl, keyed_made ?_⟩
  · exact key.toNat_size
  · intro hsome
    obtain ⟨m, hm⟩ := Option.isSome_iff_exists.mp hsome
    exact ⟨m, hm, hd m hm⟩
  · exact nofun
  · rintro m (h | h | h)
    · exact Option.some.inj h ▸ hn.inside
    · exact Option.some.inj h ▸ he.inside
    · exact (hd m h).inside

/-- **What `qat_rsa_setkey` can come to.** It fails with a context that is cleared, or it accepts the key;
then the second form is added last. -/
theorem qatRsaSetkey_spec (ctx : RsaCtx) (parsed : Except Errno RsaKey) (priv : Bool) (k : KeyMemory) :
    (∃ c err, qatRsaSetkey ctx parsed priv k = (qatRsaClearCtx c, some err) ∧ ∀ m ∈ c.made, m ∈ ctx.made ∨ m.Inside) ∨
    ∃ key c, parsed = .ok key ∧ FirstForm ctx c key priv ∧
      qatRsaSetkey ctx parsed priv k = (if priv then qatRsaSetkeyCrt c key k else c, none) := by
  cases parsed with
  | error err => exact Or.inl ⟨qatRsaClearCtx ctx, err, rfl, by simp +contextual⟩
  | ok key =>
    simp only [qatRsaSetkey, qatRsaSetE, qatRsaSetD]
    obtain ⟨err, hset⟩ | ⟨n, hn, hset⟩ := qatRsaSetN_spec (qatRsaClearCtx ctx) k.n key.n.length_bytes_lt
    · rw [hset]
      exact Or.inl ⟨keyed ctx 0 none none none, err, rfl, keyed_made (by simp)⟩
    simp only [hset, orFree_none]
    generalize hexp : exponent _ key.e.bytes k.e = e
    cases e with
    | error err => exact Or.inl ⟨keyed ctx _ (some n) none none, err, rfl, keyed_made (by simpa using hn.inside)⟩
    | ok e =>
      have he : e.Carries (ofNat 32 key.size).toNat _ := exponent_carries key.e.length_bytes_lt hexp
      rw [key.toNat_size] at he
      cases priv with
      | false => exact Or.inr ⟨key, keyed ctx _ _ _ none, rfl, keyed_firstForm none hn he rfl (by simp), rfl⟩
      | true =>
        simp only [orFree_none, if_true]
        generalize hexp : exponent _ key.d.bytes k.d = d
        cases d with
        | error err =>
          refine Or.inl ⟨keyed ctx _ (some n) (some e) none, err, rfl, keyed_made ?_⟩
          simpa [or_imp, forall_and] using ⟨hn.inside, he.inside⟩
        | ok d =>
          have hd : d.Carries (ofNat 32 key.size).toNat _ := exponent_carries key.d.length_bytes_lt hexp
          rw [key.toNat_size] at hd
          refine Or.inr ⟨key, _, rfl, keyed_firstForm (some d) hn he rfl (by simpa using hd), ?_⟩
          -- the second form leaves the first alone, so the last checks are passed
          have hadds := @qatRsaSetkeyCrt_adds
            (keyed ctx (.ofNat 32 key.size) (some n) (some e) (some d)) key k rfl rfl rfl rfl rfl
          simp only [keyed, RsaKey.size] at hadds
          simp [keyed, RsaKey.size, hadds.n_eq, hadds.e_eq, hadds.d_eq]

def RsaCtx.Contained (ctx : RsaCtx) : Prop := ∀ m ∈ ctx.made, m.Inside

def RsaKey.CrtTidy (key : RsaKey) (priv : Bool) (k : KeyMemory) : Prop :=
  priv = true → CrtFits (key.size / 2) (key.components k)
  deriving Decidable

lemma toNat_half (keySz : U32) : (keySz / 2).toNat = keySz.toNat / 2 := by
  rfl

lemma crt_held {c : RsaCtx} (hkeySz : c.keySz.toNat = key.size)
    (hcontained : (qatRsaSetkeyCrt c key k).Contained) (hon : (qatRsaSetkeyCrt c key k).crtMode = true) :
    List.Forall₂ Operand.Held key.crtOperands (qatRsaSetkeyCrt c key k).crtFields := by
  obtain ⟨hp, hq, hdp, hdq, hqinv⟩ := qatRsaSetkeyCrt_crtMode hon
  have hheld : ∀ s : Slice key.blob, crtBuffer (c.keySz / 2) s.bytes ∈ (qatRsaSetkeyCrt c key k).made →
      Operand.Held ⟨key.size / 2, s.bytes⟩ (some (crtBuffer (c.keySz / 2) s.bytes)) := by
    intro s hs
    have hcarries := crtBuffer_carries s.length_bytes_lt (hcontained _ hs)
    rw [toNat_half, hkeySz] at hcarries
    exact held_some.mpr hcarries
  simp only [RsaKey.crtOperands, RsaCtx.crtFields, hp, hq, hdp, hdq, hqinv, forall₂_cons]
  refine ⟨hheld key.p ?_, hheld key.q ?_, hheld key.dp ?_, hheld key.dq ?_, hheld key.qinv ?_, .nil⟩ <;>
    simp [RsaCtx.made, hp, hq, hdp, hdq, hqinv]

/-- **A key that is accepted is where it should be, and nothing else is written, iff its components fit.** -/
theorem qatRsaSetkey_sound_iff (hold : ctx.Contained) (hok : (qatRsaSetkey ctx (.ok key) priv k).2 = none) :
    (qatRsaSetkey ctx (.ok key) priv k).1.Contained ∧ (qatRsaSetkey ctx (.ok key) priv k).1.Has key ↔
      key.CrtTidy priv k := by
  rcases qatRsaSetkey_spec ctx (.ok key) priv k with ⟨c, err, h, -⟩ | ⟨key', c, hkey, hc, h⟩
  · rw [h] at hok
    exact absurd hok (Option.some_ne_none err)
  cases hkey
  have hcontained : c.Contained := by
    intro m hm
    exact (hc.made m hm).elim (hold m) id
  rw [h]
  cases priv with
  | false => exact iff_of_true ⟨hcontained, hc.has⟩ Bool.noConfusion
  | true =>
    obtain ⟨hp, hq, hdp, hdq, hqinv⟩ : c.p = none ∧ c.q = none ∧ c.dp = none ∧ c.dq = none ∧ c.qinv = none := by
      simpa [RsaCtx.crtFields] using hc.crtFields_eq
    have hadds := @qatRsaSetkeyCrt_adds c key k hp hq hdp hdq hqinv
    have hfits : (qatRsaSetkeyCrt c key k).Contained ↔ CrtFits (key.size / 2) (key.components k) := by
      rw [← hc.has.keySz_eq, ← toNat_half, ← crtMade_inside_iff RsaKey.length_components]
      constructor
      · intro hall m hm
        exact hall m ((hadds.mem_made m).mpr (Or.inr hm))
      · intro hnew m hm
        exact ((hadds.mem_made m).mp hm).elim (hcontained m) (hnew m)
    simp only [if_true, RsaKey.CrtTidy, true_imp_iff]
    rw [← hfits]
    refine ⟨And.left, fun hall => ⟨hall, ?_, ?_, ?_, ?_, crt_held hc.has.keySz_eq hall⟩⟩
    · rw [hadds.keySz_eq, hc.has.keySz_eq]
    · rw [hadds.n_eq]
      exact hc.has.n_held
    · rw [hadds.e_eq]
      exact hc.has.e_held
    · rw [hadds.d_eq]
      exact hc.has.d_held

end Setkey

/-! ## Requests -/

/-- A request, `struct akcipher_request`. -/
structure AkcipherRequest where
  src : Source
  dst : Destination

def qatRsaEnc (ctx : RsaCtx) (req : AkcipherRequest) (k : Answers) : Outcome :=
  if ctx.n.isNone || ctx.e.isNone then .failed .einval req.dst.len
  else if req.dst.len < ctx.keySz then .failed .eoverflow ctx.keySz
  else
    let funcId := qatRsaEncFnId ctx.keySz
    if funcId = 0 then .failed .einval req.dst.len
    else if !k.src then .failed .enomem req.dst.len
    else
      submit ctx.keySz req.dst k funcId 3 [some (srcBuffer req.src ctx.keySz req.src.len), ctx.e, ctx.n]

/-- Source: `qat_rsa_dec`. What is mapped of a source that is in one piece has the length of the
destination here. -/
def qatRsaDec (ctx : RsaCtx) (req : AkcipherRequest) (k : Answers) : Outcome :=
  if ctx.n.isNone || ctx.d.isNone then .failed .einval req.dst.len
  else if req.dst.len < ctx.keySz then .failed .eoverflow ctx.keySz
  else
    let funcId := if ctx.crtMode then qatRsaDecFnIdCrt ctx.keySz else qatRsaDecFnId ctx.keySz
    if funcId = 0 then .failed .einval req.dst.len
    else if !k.src then .failed .enomem req.dst.len
    else
      let src := some (srcBuffer req.src ctx.keySz req.dst.len)
      if ctx.crtMode then submit ctx.keySz req.dst k funcId 6 (src :: ctx.crtFields)
      else submit ctx.keySz req.dst k funcId 3 [src, ctx.d, ctx.n]

/-- The operations of a transform: encryption and verification are one function, and decryption and signing
the other. -/
inductive RsaOp
  | enc
  | dec
  deriving DecidableEq

def rsaRequest (op : RsaOp) (ctx : RsaCtx) (req : AkcipherRequest) (k : Answers) : Outcome :=
  match op with
  | .enc => qatRsaEnc ctx req k
  | .dec => qatRsaDec ctx req k

def RsaKey.srcOperand (key : RsaKey) (src : Source) : Operand := ⟨key.size, src.bytes⟩

def RsaKey.operands (key : RsaKey) (op : RsaOp) (crtMode : Bool) (src : Source) : List Operand :=
  match op, crtMode with
  | .enc, _ => [key.srcOperand src, key.eOperand, key.nOperand]
  | .dec, false => [key.srcOperand src, key.dOperand, key.nOperand]
  | .dec, true => key.srcOperand src :: key.crtOperands

def RsaCtx.fields (ctx : RsaCtx) (op : RsaOp) : List (Option Buffer) :=
  match op, ctx.crtMode with
  | .enc, _ => [ctx.e, ctx.n]
  | .dec, false => [ctx.d, ctx.n]
  | .dec, true => ctx.crtFields

def AkcipherRequest.mapLen (req : AkcipherRequest) (op : RsaOp) : U32 :=
  match op with
  | .enc => req.src.len
  | .dec => req.dst.len

section Requests

variable {k : Answers}

lemma rsaRequest_sent (h : rsaRequest op ctx req k = .sent msg) :
    ctx.n.isSome = true ∧ (op = .dec → ctx.d.isSome = true) ∧
      msg.inTab = some (srcBuffer req.src ctx.keySz (req.mapLen op)) :: ctx.fields op ∧
      msg.inputParamCount = msg.inTab.length ∧ msg.outSize = ctx.keySz.toNat := by
  cases op with
  | enc =>
    simp only [rsaRequest, qatRsaEnc, ite_failed_eq_sent] at h
    obtain ⟨hkey, -, -, -, h⟩ := h
    obtain rfl := submit_sent h
    refine ⟨?_, ?_, rfl, rfl, rfl⟩
    · cases hn : ctx.n <;> simp_all
    · exact fun hop => nomatch hop
  | dec =>
    simp only [rsaRequest, qatRsaDec, ite_failed_eq_sent] at h
    obtain ⟨hkey, -, -, -, h⟩ := h
    have hsome : ctx.n.isSome = true ∧ ctx.d.isSome = true := by
      cases hn : ctx.n <;> cases hd : ctx.d <;> simp_all
    split at h
    next hcrt =>
      obtain rfl := submit_sent h
      exact ⟨hsome.1, fun _ => hsome.2, by simp [RsaCtx.fields, hcrt, AkcipherRequest.mapLen], rfl, rfl⟩
    next hcrt =>
      obtain rfl := submit_sent h
      exact ⟨hsome.1, fun _ => hsome.2, by simp [RsaCtx.fields, hcrt, AkcipherRequest.mapLen], rfl, rfl⟩

/-- The source of a request fits, and if it is mapped to be decrypted then the destination is as long as
the key. -/
def RsaCtx.RequestTidy (ctx : RsaCtx) (op : RsaOp) (req : AkcipherRequest) : Prop :=
  SignedFits ctx.keySz.toNat req.src.len.toNat ∧
    (op = .dec → req.src.whole ctx.keySz = true → req.dst.len = ctx.keySz)
  deriving Decidable

lemma RsaKey.operands_eq (key : RsaKey) (op : RsaOp) (crtMode : Bool) (src : Source) :
    key.operands op crtMode src = key.srcOperand src :: (key.operands op crtMode src).tail := by
  cases op <;> cases crtMode <;> rfl

lemma RsaCtx.Has.fields_held (hctx : ctx.Has key) (hd : op = .dec → ctx.d.isSome = true) (src : Source) :
    List.Forall₂ Operand.Held (key.operands op ctx.crtMode src).tail (ctx.fields op) := by
  cases op with
  | enc => exact .cons hctx.e_held (.cons hctx.n_held .nil)
  | dec =>
    simp only [RsaCtx.fields, RsaKey.operands]
    split
    next => contradiction
    next => exact .cons (hctx.d_held (hd rfl)) (.cons hctx.n_held .nil)
    next hcrt => exact hctx.crt_held ‹_›

/-- **A request of a context with the key has the operands that its caller means iff it is tidy.** -/
theorem rsaRequest_sound_iff (hctx : ctx.Has key) (h : rsaRequest op ctx req k = .sent msg) :
    msg.Gives key.size (key.operands op ctx.crtMode req.src) ↔ ctx.RequestTidy op req := by
  obtain ⟨-, hd, htab, hcount, hroom⟩ := rsaRequest_sent h
  have hfields := hctx.fields_held hd req.src
  have hsrc : (key.srcOperand req.src).Held (some (srcBuffer req.src ctx.keySz (req.mapLen op))) ↔
      ctx.RequestTidy op req := by
    rw [held_some, RsaKey.srcOperand, ← hctx.keySz_eq, srcBuffer_carries_iff]
    refine and_congr_right fun _ => ?_
    cases op with
    | enc =>
      -- the length of a source that is mapped is the size already
      refine iff_of_true (fun hwhole => ?_) (fun hop => nomatch hop)
      exact eq_of_beq (Bool.and_eq_true_iff.mp hwhole).2
    | dec => exact ⟨fun hmap _ => hmap, fun hmap => hmap rfl⟩
  rw [← hsrc]
  constructor
  · intro hgives
    have hheld := hgives.held
    rw [htab, RsaKey.operands_eq, forall₂_cons] at hheld
    exact hheld.1
  · intro hheld
    refine ⟨?_, ?_, hroom.trans hctx.keySz_eq⟩
    · rw [htab, RsaKey.operands_eq, forall₂_cons]
      exact ⟨hheld, hfields⟩
    · rw [hcount, htab, RsaKey.operands_eq, length_cons, length_cons, hfields.length_eq]

end Requests

/-! ## A transform over its life -/

structure RsaTfm where
  ctx : RsaCtx
  /-- The key that was accepted last, unless another one was refused since. The driver does not keep it. -/
  key : Option RsaKey

inductive RsaEvent
  | setkey (parsed : Except Errno RsaKey) (priv : Bool) (k : KeyMemory)
  | request (op : RsaOp) (req : AkcipherRequest) (k : Answers)

def rsaStep (s : RsaTfm) : RsaEvent → Option RsaTfm
  | .setkey parsed priv k =>
    let r := qatRsaSetkey s.ctx parsed priv k
    some ⟨r.1, if r.2 = none then parsed.toOption else none⟩
  | .request _ _ _ => some s

/-- Before anything was done. Source: `qat_rsa_init_tfm`. -/
def rsaInit : RsaTfm := ⟨rsaCtxInit, none⟩

def RsaEvent.Served (s : RsaTfm) : RsaEvent → Prop
  | .setkey parsed priv k => (qatRsaSetkey s.ctx parsed priv k).2 = none
  | .request op req k => ∃ msg, rsaRequest op s.ctx req k = .sent msg

/-- What should hold then: the key and the operands are where the device looks for them, and nothing was written
outside. -/
def RsaEvent.Sound (s : RsaTfm) : RsaEvent → Prop
  | .setkey parsed priv k =>
    ∃ key, parsed = .ok key ∧ (qatRsaSetkey s.ctx parsed priv k).1.Contained ∧
      (qatRsaSetkey s.ctx parsed priv k).1.Has key
  | .request op req k =>
    ∃ key, s.key = some key ∧ ∀ msg, rsaRequest op s.ctx req k = .sent msg →
      msg.Gives key.size (key.operands op s.ctx.crtMode req.src)

def RsaEvent.Tidy (s : RsaTfm) : RsaEvent → Prop
  | .setkey parsed priv k => ∀ key, parsed = .ok key → key.CrtTidy priv k
  | .request op req _ => s.ctx.RequestTidy op req

/-- In every state of a tidy life nothing was written outside of a buffer, and the context has the key that
was accepted last; without one it has no modulus, and nothing is sent. -/
structure RsaTfm.Inv (s : RsaTfm) : Prop where
  contained : s.ctx.Contained
  has : ∀ key, s.key = some key → s.ctx.Has key
  none : s.key = none → s.ctx.n = none

lemma rsaStep_inv {s t : RsaTfm} {e : RsaEvent} (hs : s.Inv) (htidy : e.Tidy s)
    (h : rsaStep s e = some t) : t.Inv := by
  cases e with
  | request op req k =>
    cases h
    exact hs
  | setkey parsed priv k =>
    cases h
    rcases qatRsaSetkey_spec s.ctx parsed priv k with ⟨c, err, heq, hmade⟩ | ⟨key, c, rfl, -, heq⟩
    · simp only [heq]
      refine ⟨?_, fun key hkey => (nomatch hkey), fun _ => rfl⟩
      intro m hm
      exact (hmade m hm).elim (hs.contained m) id
    · have hok : (qatRsaSetkey s.ctx (.ok key) priv k).2 = none := by rw [heq]
      obtain ⟨hcontained, hhas⟩ := (qatRsaSetkey_sound_iff hs.contained hok).mpr (htidy key rfl)
      simp only [hok, if_true]
      refine ⟨hcontained, fun key' hkey => ?_, fun hnone => nomatch hnone⟩
      cases hkey
      exact hhas

section

variable (h : Run (guarded (fun s e => e.Tidy s) (ofFun rsaStep)) rsaInit es s)

include h

lemma rsaInv_of_run : s.Inv := by
  refine h.invariant (fun s e t hs hstep => rsaStep_inv hs hstep.1 hstep.2) ⟨?_, ?_, fun _ => rfl⟩
  · intro m hm
    cases hm
  · exact fun key hkey => nomatch hkey

/-- **What is served is sound exactly if it is tidy**, after a life in which everything was. -/
theorem rsa_sound_iff {e : RsaEvent} (hserved : e.Served s) : e.Sound s ↔ e.Tidy s := by
  have hinv := rsaInv_of_run h
  cases e with
  | setkey parsed priv k =>
    obtain ⟨c, err, heq, -⟩ | ⟨key, -, rfl, -, -⟩ := qatRsaSetkey_spec s.ctx parsed priv k
    · simp only [RsaEvent.Served, heq] at hserved
      exact absurd hserved (Option.some_ne_none err)
    · simp only [RsaEvent.Sound, RsaEvent.Tidy, Except.ok.injEq, exists_eq_left', forall_eq']
      exact qatRsaSetkey_sound_iff hinv.contained hserved
  | request op req k =>
    obtain ⟨msg, hmsg⟩ := hserved
    have hn := (rsaRequest_sent hmsg).1
    obtain ⟨key, hkey⟩ : ∃ key, s.key = some key := by
      apply Option.ne_none_iff_exists'.mp
      intro hnone
      rw [hinv.none hnone] at hn
      cases hn
    simp only [RsaEvent.Sound, RsaEvent.Tidy, hkey, Option.some.injEq, exists_eq_left', hmsg,
      Outcome.sent.injEq, forall_eq']
    exact rsaRequest_sound_iff (hinv.has key hkey) hmsg

end

end QuickAssist.Asym
