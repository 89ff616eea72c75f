import QuickAssist.Lib.BigEndian
import QuickAssist.Lib.Words

/-!
# Operands of public key requests

The device takes each operand from a buffer of the size that belongs to the function, most significant byte first.
What the caller has is shorter as a rule, so the driver clears a buffer and copies the bytes to the end of it; a
source in one piece that has the right size already is mapped where it is. `unsignedOff` and `signedOff` are the two
ways in which it computes how far into a buffer the bytes go.
-/

namespace QuickAssist.Asym

open Lib.BigEndian BitVec List

/-- A `char`. -/
abbrev Byte := U8

/-- A buffer for the device. Addresses in it are pointers, so they wrap around at 64 bits. -/
abbrev Buffer := Area 8 64

inductive Errno
  | einval
  | enomem
  | eoverflow
  | ebusy
  | eagain
  deriving DecidableEq

/-! ## Pieces of a key -/

/-- The bytes that a key is handed over in. Their number is an `unsigned int`. -/
structure Blob where
  bytes : List Byte
  small : bytes.length < 2 ^ 32

structure Slice (b : Blob) where
  start : ℕ
  size : ℕ
  inside : start + size ≤ b.bytes.length

def Slice.bytes {b : Blob} (s : Slice b) : List Byte := (b.bytes.drop s.start).take s.size

@[simp] lemma Slice.length_bytes {b : Blob} (s : Slice b) : s.bytes.length = s.size := by
  have hinside := s.inside
  simp only [Slice.bytes, length_take, length_drop]
  omega

lemma Slice.length_bytes_lt {b : Blob} (s : Slice b) : s.bytes.length < 2 ^ 32 := by
  have hinside := s.inside
  have hsmall := b.small
  rw [Slice.length_bytes]
  omega

def Slice.isByte {b : Blob} (s : Slice b) (x : Byte) : Bool := s.size == 1 && s.bytes.head? == some x

structure Operand where
  size : ℕ
  bytes : List Byte

def Operand.Held (o : Operand) (b : Option Buffer) : Prop := ∃ m, b = some m ∧ m.Carries o.size o.bytes

@[simp] lemma held_some {o : Operand} {m : Buffer} : o.Held (some m) ↔ m.Carries o.size o.bytes := by
  simp [Operand.Held]

/-! ## Copying to the end of a buffer -/

/-- How far into a buffer of `size` bytes `len` bytes are copied, where the difference is an
`unsigned int`. -/
def unsignedOff (size len : U32) : U64 := (size - len).setWidth 64

/-- The same where the difference is an `int`. -/
def signedOff (size len : U32) : U64 := (size - len).signExtend 64

/-- The bytes that are copied fit, where the difference is an `int`: no bytes do, and otherwise there are
not more than the buffer has and the rest can be counted. -/
def SignedFits (size len : ℕ) : Prop := len = 0 ∨ len ≤ size ∧ size - len < 2 ^ 31
  deriving Decidable

section Offsets

variable {size len : U32}

lemma toNat_unsignedOff : (unsignedOff size len).toNat = (2 ^ 32 - len.toNat + size.toNat) % 2 ^ 32 := by
  unfold unsignedOff
  rw [toNat_setWidth, toNat_sub]
  omega

lemma toNat_signedOff : (signedOff size len).toNat =
      if (unsignedOff size len).toNat < 2 ^ 31 then (unsignedOff size len).toNat
      else (unsignedOff size len).toNat + (2 ^ 64 - 2 ^ 32) := by
  have hoff : (unsignedOff size len).toNat = (size - len).toNat := by
    rw [unsignedOff, toNat_setWidth]
    omega
  unfold signedOff
  rw [toNat_signExtend, hoff, msb_eq_decide, toNat_setWidth]
  split <;> split <;> simp_all <;> omega

end Offsets

section Copies

variable {size : U32} {l n : List Byte}

lemma toNat_ofNat_length (hl : l.length < 2 ^ 32) : (BitVec.ofNat 32 l.length).toNat = l.length := by
  rw [toNat_ofNat, Nat.mod_eq_of_lt hl]

lemma inside_unsigned_iff (hl : l.length < 2 ^ 32) :
    (place size.toNat (unsignedOff size (.ofNat 32 l.length)) l : Buffer).Inside ↔ l.length ≤ size.toNat := by
  rw [inside_place_iff (by omega), toNat_unsignedOff, toNat_ofNat_length hl, ← length_eq_zero_iff]
  omega

lemma carries_unsigned (hl : l.length ≤ size.toNat) (hvalue : value l = value n) :
    (place size.toNat (unsignedOff size (.ofNat 32 l.length)) l : Buffer).Carries size.toNat n := by
  have hlen : l.length < 2 ^ 32 := by omega
  refine carries_place (by omega) (by omega) hvalue ?_ ((inside_unsigned_iff hlen).mpr hl)
  rw [toNat_unsignedOff, toNat_ofNat_length hlen]
  omega

lemma carries_signed_iff (hl : l.length < 2 ^ 32) :
    (place size.toNat (signedOff size (.ofNat 32 l.length)) l : Buffer).Carries size.toNat l ↔
      SignedFits size.toNat l.length := by
  have hinside : (place size.toNat (signedOff size (.ofNat 32 l.length)) l : Buffer).Inside ↔
        SignedFits size.toNat l.length := by
    rw [inside_place_iff (by omega), toNat_signedOff, toNat_unsignedOff, toNat_ofNat_length hl,
      ← length_eq_zero_iff, SignedFits]
    split <;> omega
  constructor
  · intro h
    exact hinside.mp h.inside
  · intro h
    refine carries_place (by omega) (by omega) rfl ?_ (hinside.mpr h)
    rw [toNat_signedOff, toNat_unsignedOff, toNat_ofNat_length hl]
    split <;> omega

lemma carries_whole (hl : l.length = size.toNat) (hvalue : value l = value n) :
    (place size.toNat 0 l : Buffer).Carries size.toNat n := by
  have hzero : (0 : U64).toNat = 0 := rfl
  refine carries_place (by omega) (by omega) hvalue (by omega) ?_
  rw [inside_place_iff (by omega)]
  omega

end Copies

/-! ## The source of a request -/

structure Scatterlist where
  first : List Byte
  rest : List (List Byte)
  /-- What is in memory at a distance from the start of the first entry, where it goes beyond it. -/
  beyond : U64 → Byte

def Scatterlist.sgIsLast (sg : Scatterlist) : Bool := sg.rest.isEmpty

def Scatterlist.bytes (sg : Scatterlist) : List Byte := sg.first ++ sg.rest.flatten

def dmaMapSingle (sg : Scatterlist) (len : U32) : Buffer :=
  ⟨len.toNat, fun i => sg.first.getD i.toNat (sg.beyond i), []⟩

structure Source where
  list : Scatterlist
  len : U32
  enough : len.toNat ≤ list.bytes.length

def Source.bytes (src : Source) : List Byte := src.list.bytes.take src.len.toNat

@[simp] lemma Source.length_bytes (src : Source) : src.bytes.length = src.len.toNat := by
  have henough := src.enough
  simp only [Source.bytes, length_take]
  omega

def Source.whole (src : Source) (size : U32) : Bool := src.list.sgIsLast && src.len == size

/-- What the device gets for a source: the source itself, mapped, if it is in one piece and has the right size,
and otherwise a copy. The callers differ in how much they map. -/
def srcBuffer (src : Source) (size mapLen : U32) : Buffer :=
  if src.whole size then dmaMapSingle src.list mapLen
  else place size.toNat (signedOff size src.len) src.bytes

lemma words_dmaMapSingle {src : Source} (hlast : src.list.sgIsLast = true) :
    (dmaMapSingle src.list src.len).words = src.bytes := by
  have hfirst : src.list.bytes = src.list.first := by
    simp only [Scatterlist.sgIsLast, List.isEmpty_iff] at hlast
    simp [Scatterlist.bytes, hlast]
  have henough := src.enough
  rw [hfirst] at henough
  apply ext_getElem
  · simp [Area.words, dmaMapSingle]
  · intro i hi hi'
    have hi : i < src.len.toNat := by simpa [Area.words, dmaMapSingle] using hi
    have haddr : (BitVec.ofNat 64 i).toNat = i := by
      rw [toNat_ofNat, Nat.mod_eq_of_lt (by omega)]
    simp only [Area.words, dmaMapSingle, getElem_map, getElem_range, Source.bytes, hfirst, getElem_take, haddr]
    rw [getD_eq_getElem _ _ (by omega)]

/-- **What the device gets for a source.** It is the source exactly if the bytes fit, and if what is mapped
has the size that the device takes. -/
theorem srcBuffer_carries_iff {src : Source} {size mapLen : U32} :
    (srcBuffer src size mapLen).Carries size.toNat src.bytes ↔
      SignedFits size.toNat src.len.toNat ∧ (src.whole size = true → mapLen = size) := by
  unfold srcBuffer
  split
  next hwhole =>
    have hsrc : src.list.sgIsLast = true ∧ src.len = size := by
      simpa [Source.whole] using hwhole
    have hfits : SignedFits size.toNat src.len.toNat := by
      right
      rw [hsrc.2]
      omega
    constructor
    · intro h
      exact ⟨hfits, fun _ => eq_of_toNat_eq h.size_eq⟩
    · rintro ⟨-, hmap⟩
      rw [hmap hwhole, ← hsrc.2]
      refine ⟨rfl, ?_, ?_⟩
      · rw [words_dmaMapSingle hsrc.1]
      · intro r hr
        cases hr
  next hpieces =>
    have hlen : src.bytes.length < 2 ^ 32 := by
      rw [Source.length_bytes]
      exact src.len.isLt
    have hcopy := @carries_signed_iff size src.bytes hlen
    rw [Source.length_bytes, ofNat_toNat, setWidth_eq] at hcopy
    rw [hcopy]
    exact ⟨fun h => ⟨h, fun hwhole => absurd hwhole hpieces⟩, fun h => h.1⟩

/-! ## Sending a request -/

/-- Look up the function for a size in bytes, in a table by size in bits. The size in bits is an
`unsigned int`. -/
def fnId (table : List (ℕ × ℕ)) (len : U32) : ℕ := (table.lookup (len <<< 3).toNat).getD 0

structure Destination where
  sgIsLast : Bool
  len : U32

structure Answers where
  src : Bool
  dst : Bool
  phyIn : Bool
  phyOut : Bool
  /-- What `adf_send_message` returns each time, where nothing is success. -/
  send : ℕ → Option Errno

structure PkeRequest where
  funcId : ℕ
  /-- What is at the addresses in `in_tab`, up to the one that is zero. -/
  inTab : List (Option Buffer)
  /-- How much room there is at the address in `out_tab`. -/
  outSize : ℕ
  inputParamCount : ℕ

inductive Outcome
  /-- It was sent, and `-EINPROGRESS` is returned. -/
  | sent (msg : PkeRequest)
  | failed (err : Errno) (dstLen : U32)

variable {msg : PkeRequest}

lemma ite_failed_eq_sent {p : Prop} [Decidable p] {err : Errno} {dstLen : U32} {o : Outcome} :
    (if p then .failed err dstLen else o) = Outcome.sent msg ↔ ¬ p ∧ o = .sent msg := by
  split
  next hp => simp [hp]
  next hp => simp [hp]

/-- Send a message until the ring takes it, with `left` more attempts. -/
def sendMessage (send : ℕ → Option Errno) : ℕ → ℕ → Option Errno
  | ctr, 0 => send ctr
  | ctr, left + 1 => if send ctr = some .ebusy then sendMessage send (ctr + 1) left else send ctr

def submit (size : U32) (dst : Destination) (k : Answers) (funcId nInputParams : ℕ)
    (inTab : List (Option Buffer)) : Outcome :=
  if !k.dst then .failed .enomem dst.len
  else
    let outSize := if dst.sgIsLast && dst.len == size then dst.len.toNat else size.toNat
    if !k.phyIn then .failed .enomem dst.len
    else if !k.phyOut then .failed .enomem dst.len
    else
      match sendMessage k.send 0 100 with
      | none => .sent ⟨funcId, inTab, outSize, nInputParams⟩
      | some err => .failed err dst.len

lemma submit_sent {size : U32} {dst : Destination} {k : Answers} {funcId nInputParams : ℕ}
    {inTab : List (Option Buffer)} (h : submit size dst k funcId nInputParams inTab = .sent msg) :
    msg = ⟨funcId, inTab, size.toNat, nInputParams⟩ := by
  have hout : (if dst.sgIsLast && dst.len == size then dst.len.toNat else size.toNat) = size.toNat := by
    split
    next hlast =>
      rw [Bool.and_eq_true, beq_iff_eq] at hlast
      rw [hlast.2]
    next => rfl
  simp only [submit, hout, ite_failed_eq_sent] at h
  obtain ⟨-, -, -, h⟩ := h
  split at h
  next => exact (Outcome.sent.inj h).symm
  next => contradiction

/-- The device is given these operands, is told how many they are, and has as much room for the result. -/
structure PkeRequest.Gives (msg : PkeRequest) (size : ℕ) (operands : List Operand) : Prop where
  held : List.Forall₂ Operand.Held operands msg.inTab
  count : msg.inputParamCount = operands.length
  room : msg.outSize = size

end QuickAssist.Asym
