import Mathlib.Data.List.Forall2
import QuickAssist.Asym.Operand
import QuickAssist.Lib.Run

/-!
# Diffie-Hellman

`qat_dh_set_secret` puts the parameters and the secret into a context, from which `qat_dh_compute_value` takes the
operands of its requests, all in buffers of the size of `p`. Without a source a request uses the generator, which has
no buffer if it is 2 since the device has functions for this. Unlike in RSA neither the generator nor the secret loses
its leading zeros, so it is the length of the strings that counts.
-/

namespace QuickAssist.Asym

open Lib Lib.BigEndian List Option

/-! ## Functions of the device -/

def qatDhFnId (len : U32) (g2 : Bool) : ℕ :=
  if g2 then fnId [(1536, 0x2e0b1a3e), (2048, 0x3e0b1a55), (3072, 0x3a0b1a6c), (4096, 0x4a0b1a83)] len
  else fnId [(1536, 0x390c1a49), (2048, 0x4d0c1a60), (3072, 0x510c1a77), (4096, 0x690c1a8e)] len

def qatDhCheckParamsLength (pLen : U32) : Option Errno :=
  if pLen.toNat ∈ [1536, 2048, 3072, 4096] then none else some .einval

/-! ## Secrets -/

/-- What is in a secret, `struct dh`. -/
structure DhParams where
  blob : Blob
  key : Slice blob
  p : Option (Slice blob)
  g : Option (Slice blob)

structure DhMemory where
  p : Bool
  g : Bool
  xa : Bool

/-- The context of a transform, `struct qat_dh_ctx`. -/
structure DhCtx where
  g : Option Buffer
  xa : Option Buffer
  p : Option Buffer
  pSize : U32
  g2 : Bool
  freed : List Buffer

def DhCtx.made (ctx : DhCtx) : List Buffer := ctx.g.toList ++ ctx.xa.toList ++ ctx.p.toList ++ ctx.freed

def dhCtxInit : DhCtx := ⟨none, none, none, 0, false, []⟩

def qatDhClearCtx (ctx : DhCtx) : DhCtx := { dhCtxInit with freed := ctx.made }

@[simp] lemma made_qatDhClearCtx (ctx : DhCtx) : (qatDhClearCtx ctx).made = ctx.made := by
  simp [qatDhClearCtx, dhCtxInit, DhCtx.made]

def dhModulus (pSize : U32) (p : List Byte) : Buffer := place pSize.toNat 0 (p.take pSize.toNat)

def dhNumber (pSize : U32) (l : List Byte) : Buffer := place pSize.toNat (unsignedOff pSize (.ofNat 32 l.length)) l

def qatDhSetParams (ctx : DhCtx) (params : DhParams) (k : DhMemory) : DhCtx × Option Errno :=
  match params.p, params.g with
  | some p, some g =>
    let pSize := BitVec.ofNat 32 p.size
    match qatDhCheckParamsLength (pSize <<< 3) with
    | some err => (ctx, some err)
    | none =>
      let ctx := { ctx with pSize := pSize }
      if !k.p then ({ ctx with p := none }, some .enomem)
      else
        let ctx := { ctx with p := some (dhModulus pSize p.bytes) }
        if g.isByte 0x02 then ({ ctx with g2 := true }, none)
        else if !k.g then
          ({ ctx with g := none, p := none, freed := ctx.freed ++ ctx.p.toList }, some .enomem)
        else ({ ctx with g := some (dhNumber pSize g.bytes) }, none)
  | _, _ => (ctx, some .einval)

/-- Source: `qat_dh_set_secret`. What `crypto_dh_decode_key` finds is an answer. If it fails then the secret
stays as it is. -/
def qatDhSetSecret (ctx : DhCtx) (parsed : Option DhParams) (k : DhMemory) : DhCtx × Option Errno :=
  match parsed with
  | none => (ctx, some .einval)
  | some params =>
    match qatDhSetParams (qatDhClearCtx ctx) params k with
    | (ctx, some err) => (ctx, some err)
    | (ctx, none) =>
      if !k.xa then (qatDhClearCtx { ctx with xa := none }, some .enomem)
      else ({ ctx with xa := some (dhNumber ctx.pSize params.key.bytes) }, none)

/-! ## What a secret comes to -/

namespace DhParams

variable (params : DhParams)

def pBytes : List Byte := (params.p.map Slice.bytes).getD []

def gBytes : List Byte := (params.g.map Slice.bytes).getD []

def size : ℕ := params.pBytes.length

def two : Bool := params.g.any fun g => g.isByte 0x02

def present : Bool := params.p.isSome && params.g.isSome

def Tidy : Prop :=
  params.present = true → (params.two = false → params.gBytes.length ≤ params.size) ∧ params.key.size ≤ params.size
  deriving Decidable

def pOperand : Operand := ⟨params.size, params.pBytes⟩

def gOperand : Operand := ⟨params.size, params.gBytes⟩

def xaOperand : Operand := ⟨params.size, params.key.bytes⟩

def srcOperand (src : Source) : Operand := ⟨params.size, src.bytes⟩

def buffers : List Buffer :=
  dhModulus (.ofNat 32 params.size) params.pBytes ::
    if params.two then [] else [dhNumber (.ofNat 32 params.size) params.gBytes]

lemma length_bytes_lt {blob : Blob} (s : Option (Slice blob)) : ((s.map Slice.bytes).getD []).length < 2 ^ 32 := by
  cases s with
  | none => simp
  | some s => exact s.length_bytes_lt

lemma gBytes_eq_two (htwo : params.two = true) : params.gBytes = [2] := by
  obtain ⟨g, hg, hbyte⟩ : ∃ g, params.g = some g ∧ g.isByte 2 = true := by
    simpa [two, Option.any_eq_true] using htwo
  simp only [Slice.isByte, Bool.and_eq_true, beq_iff_eq] at hbyte
  obtain ⟨hsize, hhead⟩ := hbyte
  rw [← g.length_bytes, length_eq_one_iff] at hsize
  obtain ⟨x, hx⟩ := hsize
  simp_all [gBytes]

lemma toNat_size : (BitVec.ofNat 32 params.size).toNat = params.size := toNat_ofNat_length (length_bytes_lt params.p)

end DhParams

def dhKeyed (old : DhCtx) (params : DhParams) : DhCtx where
  g := if params.two then none else some (dhNumber (.ofNat 32 params.size) params.gBytes)
  xa := some (dhNumber (.ofNat 32 params.size) params.key.bytes)
  p := some (dhModulus (.ofNat 32 params.size) params.pBytes)
  pSize := .ofNat 32 params.size
  g2 := params.two
  freed := old.made

lemma mem_made_dhKeyed {old : DhCtx} {params : DhParams} {xa : Option Buffer} {m : Buffer} :
    m ∈ DhCtx.made { dhKeyed old params with xa := xa } ↔ m ∈ params.buffers ∨ xa = some m ∨ m ∈ old.made := by
  cases htwo : params.two with
  | true =>
    simp only [DhCtx.made, dhKeyed, DhParams.buffers, htwo, if_true, mem_append, mem_cons,
      mem_toList, not_mem_nil, Option.some.injEq, or_false, reduceCtorEq]
    grind
  | false =>
    simp only [DhCtx.made, dhKeyed, DhParams.buffers, htwo, Bool.false_eq_true, if_false,
      mem_append, mem_cons, mem_toList, not_mem_nil, Option.some.injEq, or_false]
    grind

lemma qatDhSetParams_spec (old : DhCtx) (params : DhParams) (k : DhMemory) :
    (∃ c err, qatDhSetParams (qatDhClearCtx old) params k = (c, some err) ∧ c.xa = none ∧
      ∀ m ∈ c.made, m ∈ old.made ∨ params.present = true ∧ m ∈ params.buffers) ∨ params.present = true ∧
      qatDhSetParams (qatDhClearCtx old) params k = ({ dhKeyed old params with xa := none }, none) := by
  have hclear : ∀ m ∈ (qatDhClearCtx old).made, m ∈ old.made := by simp
  obtain ⟨blob, key, p, g⟩ := params
  cases p with
  | none => exact Or.inl ⟨_, _, rfl, rfl, fun m hm => Or.inl (hclear m hm)⟩
  | some p =>
    cases g with
    | none => exact Or.inl ⟨_, _, rfl, rfl, fun m hm => Or.inl (hclear m hm)⟩
    | some g =>
      have hsize : DhParams.size ⟨blob, key, some p, some g⟩ = p.size := p.length_bytes
      simp only [qatDhSetParams]
      split
      next => exact Or.inl ⟨_, _, rfl, rfl, fun m hm => Or.inl (hclear m hm)⟩
      next =>
        split
        next => exact Or.inl ⟨_, _, rfl, rfl, fun m hm => Or.inl (hclear m hm)⟩
        next =>
          split
          next htwo =>
            have htwo : DhParams.two ⟨blob, key, some p, some g⟩ = true := htwo
            refine Or.inr ⟨rfl, ?_⟩
            simp [dhKeyed, hsize, htwo, DhParams.pBytes, qatDhClearCtx, dhCtxInit]
          next htwo =>
            have htwo : DhParams.two ⟨blob, key, some p, some g⟩ = false := Bool.eq_false_of_not_eq_true htwo
            split
            next =>
              refine Or.inl ⟨_, _, rfl, rfl, fun m hm => ?_⟩
              have hm : m ∈ old.made ++ [dhModulus (.ofNat 32 p.size) p.bytes] := hm
              rcases mem_append.mp hm with hold | hp
              · exact Or.inl hold
              · rw [mem_singleton, ← hsize] at hp
                exact Or.inr ⟨rfl, mem_cons.mpr (Or.inl hp)⟩
            next =>
              refine Or.inr ⟨rfl, ?_⟩
              simp [dhKeyed, hsize, htwo, DhParams.pBytes, DhParams.gBytes, qatDhClearCtx, dhCtxInit]

lemma qatDhSetSecret_spec (ctx : DhCtx) (parsed : Option DhParams) (k : DhMemory) :
    (parsed = none ∧ qatDhSetSecret ctx parsed k = (ctx, some .einval)) ∨
    ∃ params, parsed = some params ∧ ((∃ c err, qatDhSetSecret ctx parsed k = (c, some err) ∧ c.xa = none ∧
        ∀ m ∈ c.made, m ∈ ctx.made ∨ params.present = true ∧ m ∈ params.buffers) ∨
      params.present = true ∧ qatDhSetSecret ctx parsed k = (dhKeyed ctx params, none)) := by
  cases parsed with
  | none => exact Or.inl ⟨rfl, rfl⟩
  | some params =>
    refine Or.inr ⟨params, rfl, ?_⟩
    simp only [qatDhSetSecret]
    rcases qatDhSetParams_spec ctx params k with ⟨c, err, heq, hxa, hmade⟩ | ⟨hpresent, heq⟩
    · rw [heq]
      exact Or.inl ⟨c, err, rfl, hxa, hmade⟩
    · rw [heq]
      dsimp only
      split
      next =>
        refine Or.inl ⟨_, _, rfl, rfl, fun m hm => ?_⟩
        rcases mem_made_dhKeyed.mp hm with hnew | hxa | hold
        · exact Or.inr ⟨hpresent, hnew⟩
        · exact absurd hxa (some_ne_none m).symm
        · exact Or.inl hold
      next => exact Or.inr ⟨hpresent, rfl⟩

def DhCtx.Contained (ctx : DhCtx) : Prop := ∀ m ∈ ctx.made, m.Inside

/-- A context has a secret: everything that can be given to the device is in its buffer, or the generator
is 2. -/
structure DhCtx.Has (ctx : DhCtx) (params : DhParams) : Prop where
  pSize_eq : ctx.pSize.toNat = params.size
  p_held : params.pOperand.Held ctx.p
  xa_held : params.xaOperand.Held ctx.xa
  g_held : ctx.g2 = false → params.gOperand.Held ctx.g
  g_eq_two : ctx.g2 = true → params.gBytes = [2]

section Secret

variable {ctx : DhCtx} {params : DhParams} {k : DhMemory} {l : List Byte}

lemma dhModulus_carries (params : DhParams) :
    (dhModulus (.ofNat 32 params.size) params.pBytes).Carries params.size params.pBytes := by
  have hcarries := @carries_whole (.ofNat 32 params.size) params.pBytes params.pBytes params.toNat_size.symm rfl
  rw [dhModulus]
  rw [params.toNat_size] at hcarries ⊢
  rwa [show params.pBytes.take params.size = params.pBytes from take_length]

lemma dhNumber_inside_iff (hl : l.length < 2 ^ 32) :
    (dhNumber (.ofNat 32 params.size) l).Inside ↔ l.length ≤ params.size := by
  rw [dhNumber, inside_unsigned_iff hl, params.toNat_size]

lemma dhNumber_carries (hl : l.length ≤ params.size) : (dhNumber (.ofNat 32 params.size) l).Carries params.size l := by
  rw [← params.toNat_size] at hl
  have hcarries := carries_unsigned hl (rfl : value l = value l)
  rw [dhNumber]
  rwa [params.toNat_size] at hcarries ⊢

lemma DhParams.Tidy.inside (h : params.Tidy) (hpresent : params.present = true) : ∀ m ∈ params.buffers, m.Inside := by
  intro m hm
  rcases mem_cons.mp hm with rfl | hg
  · exact (dhModulus_carries params).inside
  · cases htwo : params.two with
    | true => simp [htwo] at hg
    | false =>
      simp only [htwo, Bool.false_eq_true, if_false, mem_singleton] at hg
      subst hg
      exact (dhNumber_inside_iff (DhParams.length_bytes_lt _)).mpr ((h hpresent).1 htwo)

/-- **When a secret that is accepted is where it should be.** -/
theorem dhKeyed_sound_iff (hold : ctx.Contained) (hpresent : params.present = true) :
    (dhKeyed ctx params).Contained ∧ (dhKeyed ctx params).Has params ↔ params.Tidy := by
  constructor
  · rintro ⟨hcontained, -⟩ -
    refine ⟨fun htwo => ?_, ?_⟩
    · apply (dhNumber_inside_iff (DhParams.length_bytes_lt params.g)).mp
      apply hcontained
      simp [DhCtx.made, dhKeyed, htwo, DhParams.gBytes]
    · rw [← params.key.length_bytes]
      apply (dhNumber_inside_iff params.key.length_bytes_lt).mp
      apply hcontained
      simp [DhCtx.made, dhKeyed]
  · intro htidy
    have hkey : params.key.bytes.length ≤ params.size := by
      rw [Slice.length_bytes]
      exact (htidy hpresent).2
    have hxa := dhNumber_carries hkey
    refine ⟨?_, params.toNat_size, held_some.mpr (dhModulus_carries params), held_some.mpr hxa, ?_, ?_⟩
    · intro m hm
      rcases (@mem_made_dhKeyed ctx params (some _) m).mp hm with hnew | hm | hm
      · exact htidy.inside hpresent m hnew
      · exact Option.some.inj hm ▸ hxa.inside
      · exact hold m hm
    · intro htwo
      have htwo : params.two = false := htwo
      simp only [dhKeyed, htwo, Bool.false_eq_true, if_false, held_some]
      exact dhNumber_carries ((htidy hpresent).1 htwo)
    · intro htwo
      exact params.gBytes_eq_two htwo

end Secret

/-! ## Requests -/

/-- A request, `struct kpp_request`. -/
structure KppRequest where
  src : Option Source
  dst : Destination

def qatDhComputeValue (ctx : DhCtx) (req : KppRequest) (k : Answers) : Outcome :=
  if ctx.xa.isNone then .failed .einval req.dst.len
  else if req.dst.len < ctx.pSize then .failed .eoverflow ctx.pSize
  else
    let funcId := qatDhFnId ctx.pSize (req.src.isNone && ctx.g2)
    if funcId = 0 then .failed .einval req.dst.len
    else
      match req.src with
      | some src =>
        if !k.src then .failed .enomem req.dst.len
        else
          submit ctx.pSize req.dst k funcId 3 [some (srcBuffer src ctx.pSize src.len), ctx.xa, ctx.p]
      | none =>
        if ctx.g2 then submit ctx.pSize req.dst k funcId 2 [ctx.xa, ctx.p]
        else submit ctx.pSize req.dst k funcId 3 [ctx.g, ctx.xa, ctx.p]

/-- The operands that a request means: the source or the generator, the secret and the modulus. The device
knows a generator that is 2. -/
def DhParams.operands (params : DhParams) (g2 : Bool) (src : Option Source) : List Operand :=
  match src, g2 with
  | some src, _ => [params.srcOperand src, params.xaOperand, params.pOperand]
  | none, true => [params.xaOperand, params.pOperand]
  | none, false => [params.gOperand, params.xaOperand, params.pOperand]

def DhCtx.RequestTidy (ctx : DhCtx) (req : KppRequest) : Prop :=
  ∀ src, req.src = some src → SignedFits ctx.pSize.toNat src.len.toNat

section Requests

variable {ctx : DhCtx} {req : KppRequest} {k : Answers} {msg : PkeRequest} {params : DhParams}

lemma qatDhComputeValue_sent (h : qatDhComputeValue ctx req k = .sent msg) :
    ctx.xa.isSome = true ∧ msg.outSize = ctx.pSize.toNat ∧ msg.inputParamCount = msg.inTab.length ∧ msg.inTab =
        match req.src, ctx.g2 with
        | some src, _ => [some (srcBuffer src ctx.pSize src.len), ctx.xa, ctx.p]
        | none, true => [ctx.xa, ctx.p]
        | none, false => [ctx.g, ctx.xa, ctx.p] := by
  simp only [qatDhComputeValue, ite_failed_eq_sent] at h
  obtain ⟨hkey, -, -, h⟩ := h
  have hxa : ctx.xa.isSome = true := by
    cases hxa : ctx.xa <;> simp_all
  cases hsrc : req.src with
  | some src =>
    simp only [hsrc, ite_failed_eq_sent] at h
    obtain rfl := submit_sent h.2
    exact ⟨hxa, rfl, rfl, rfl⟩
  | none =>
    simp only [hsrc] at h
    split at h
    next hg2 =>
      obtain rfl := submit_sent h
      exact ⟨hxa, rfl, rfl, by rw [hg2]⟩
    next hg2 =>
      obtain rfl := submit_sent h
      exact ⟨hxa, rfl, rfl, by rw [Bool.eq_false_of_not_eq_true hg2]⟩

/-- **A request of a context with the secret has the operands that its caller means iff the source fits.** -/
theorem qatDhComputeValue_sound_iff (hctx : ctx.Has params) (h : qatDhComputeValue ctx req k = .sent msg) :
    msg.Gives params.size (params.operands ctx.g2 req.src) ↔ ctx.RequestTidy req := by
  obtain ⟨-, hroom, hcount, htab⟩ := qatDhComputeValue_sent h
  rw [hctx.pSize_eq] at hroom
  have hkey : List.Forall₂ Operand.Held [params.xaOperand, params.pOperand] [ctx.xa, ctx.p] :=
    .cons hctx.xa_held (.cons hctx.p_held .nil)
  cases hsrc : req.src with
  | some src =>
    simp only [hsrc] at htab
    have hheld : (params.srcOperand src).Held (some (srcBuffer src ctx.pSize src.len)) ↔ ctx.RequestTidy req := by
      rw [held_some, DhParams.srcOperand, ← hctx.pSize_eq, srcBuffer_carries_iff]
      simp only [DhCtx.RequestTidy, hsrc, Option.some.injEq, forall_eq']
      -- the length of a source that is mapped is the size already
      refine and_iff_left fun hwhole => ?_
      exact eq_of_beq (Bool.and_eq_true_iff.mp hwhole).2
    rw [← hheld]
    constructor
    · intro hgives
      have hall := hgives.held
      rw [htab] at hall
      exact (forall₂_cons.mp hall).1
    · intro hall
      refine ⟨?_, ?_, hroom⟩
      · rw [htab]
        exact .cons hall hkey
      · rw [hcount, htab]
        rfl
  | none =>
    refine iff_of_true ?_ fun src h => by simp [hsrc] at h
    cases hg2 : ctx.g2 with
    | true =>
      simp only [hsrc, hg2] at htab
      exact ⟨htab ▸ hkey, by rw [hcount, htab]; rfl, hroom⟩
    | false =>
      simp only [hsrc, hg2] at htab
      exact ⟨htab ▸ .cons (hctx.g_held hg2) hkey, by rw [hcount, htab]; rfl, hroom⟩

end Requests

/-! ## A transform over its life -/

structure DhTfm where
  ctx : DhCtx
  /-- The secret that is in it. The driver does not keep what it was made of. -/
  secret : Option DhParams

inductive DhEvent
  /-- A secret is set, where it is as `crypto_dh_decode_key` finds it. -/
  | setSecret (parsed : Option DhParams) (k : DhMemory)
  | compute (req : KppRequest) (k : Answers)

def dhStep (s : DhTfm) : DhEvent → Option DhTfm
  | .setSecret parsed k =>
    let r := qatDhSetSecret s.ctx parsed k
    some ⟨r.1, if parsed.isNone then s.secret else if r.2 = none then parsed else none⟩
  | .compute _ _ => some s

/-- Before anything was done. Source: `qat_dh_init_tfm`. -/
def dhInit : DhTfm := ⟨dhCtxInit, none⟩

def DhEvent.Served (s : DhTfm) : DhEvent → Prop
  | .setSecret parsed k => (qatDhSetSecret s.ctx parsed k).2 = none
  | .compute req k => ∃ msg, qatDhComputeValue s.ctx req k = .sent msg

def DhEvent.Sound (s : DhTfm) : DhEvent → Prop
  | .setSecret parsed k =>
    ∃ params, parsed = some params ∧ (qatDhSetSecret s.ctx parsed k).1.Contained ∧
      (qatDhSetSecret s.ctx parsed k).1.Has params
  | .compute req k =>
    ∃ params, s.secret = some params ∧ ∀ msg, qatDhComputeValue s.ctx req k = .sent msg →
      msg.Gives params.size (params.operands s.ctx.g2 req.src)

def DhEvent.Tidy (s : DhTfm) : DhEvent → Prop
  | .setSecret parsed _ => ∀ params, parsed = some params → params.Tidy
  | .compute req _ => s.ctx.RequestTidy req

/-- In every state of a tidy life nothing was written outside of a buffer, and the context has the secret;
without one there is none in it, and nothing is sent. -/
structure DhTfm.Inv (s : DhTfm) : Prop where
  contained : s.ctx.Contained
  has : ∀ params, s.secret = some params → s.ctx.Has params
  none : s.secret = none → s.ctx.xa = none

lemma dhStep_inv {s t : DhTfm} {e : DhEvent} (hs : s.Inv) (htidy : e.Tidy s) (h : dhStep s e = some t) : t.Inv := by
  cases e with
  | compute req k =>
    cases h
    exact hs
  | setSecret parsed k =>
    cases h
    rcases qatDhSetSecret_spec s.ctx parsed k with
      ⟨rfl, heq⟩ | ⟨params, rfl, ⟨c, err, heq, hxa, hmade⟩ | ⟨hpresent, heq⟩⟩
    · exact hs
    · simp only [heq, isNone_some, Bool.false_eq_true, if_false, reduceCtorEq]
      refine ⟨?_, fun params hparams => (nomatch hparams), fun _ => hxa⟩
      intro m hm
      rcases hmade m hm with hold | ⟨hpresent, hnew⟩
      · exact hs.contained m hold
      · exact (htidy params rfl).inside hpresent m hnew
    · simp only [heq, isNone_some, Bool.false_eq_true, if_false, if_true]
      obtain ⟨hcontained, hhas⟩ := (dhKeyed_sound_iff hs.contained hpresent).mpr (htidy params rfl)
      refine ⟨hcontained, fun params' hparams => ?_, fun hnone => (nomatch hnone)⟩
      cases hparams
      exact hhas

section

variable {es : List DhEvent} {s : DhTfm} (h : Run (guarded (fun s e => e.Tidy s) (ofFun dhStep)) dhInit es s)

include h

lemma dhInv_of_run : s.Inv := by
  refine h.invariant (fun s e t hs hstep => dhStep_inv hs hstep.1 hstep.2) ⟨?_, ?_, fun _ => rfl⟩
  · intro m hm
    cases hm
  · exact fun params hparams => nomatch hparams

/-- **What is served is sound exactly if it is tidy**, after a life in which everything was. -/
theorem dh_sound_iff {e : DhEvent} (hserved : e.Served s) : e.Sound s ↔ e.Tidy s := by
  have hinv := dhInv_of_run h
  cases e with
  | setSecret parsed k =>
    rcases qatDhSetSecret_spec s.ctx parsed k with
      ⟨rfl, heq⟩ | ⟨params, rfl, ⟨c, err, heq, -, -⟩ | ⟨hpresent, heq⟩⟩
    · exact absurd hserved (some_ne_none _)
    · simp only [DhEvent.Served, heq] at hserved
      exact absurd hserved (some_ne_none _)
    · simp only [DhEvent.Sound, DhEvent.Tidy, Option.some.injEq, exists_eq_left', forall_eq', heq]
      exact dhKeyed_sound_iff hinv.contained hpresent
  | compute req k =>
    obtain ⟨msg, hmsg⟩ := hserved
    have hxa := (qatDhComputeValue_sent hmsg).1
    obtain ⟨params, hparams⟩ : ∃ params, s.secret = some params := by
      apply Option.ne_none_iff_exists'.mp
      intro hnone
      rw [hinv.none hnone] at hxa
      cases hxa
    simp only [DhEvent.Sound, DhEvent.Tidy, hparams, Option.some.injEq, exists_eq_left', hmsg,
      Outcome.sent.injEq, forall_eq']
    exact qatDhComputeValue_sound_iff (hinv.has params hparams) hmsg

end

end QuickAssist.Asym
