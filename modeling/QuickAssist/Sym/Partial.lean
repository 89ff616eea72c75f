import QuickAssist.Lib.Frames
import QuickAssist.Sym.Regions

/-!
# Packets in parts

A client may give a session a packet in parts. The parts are requests of their own, and the firmware is told for each
whether it starts a packet, continues one or ends one. The session keeps a `partialState` for this:
`LacSymPerform_BufferParamCheck` looks at it, `LacAlgChain_Perform` takes the packet type for the firmware from it, and
`LacSym_Perform` moves it on after the request was sent. `SymState.Position` says which words of parts it stands for.

**Calls that fail late.** A session without a callback is synchronous: a call waits until its request is completed, and
returns how it ended. Such a call can fail after the firmware was given the part, and then the session has moved on, as
it has when a callback is told of the same failure (`failed_sync_advances`).

**Outside.** The checks of the instance and of the pointers, memory, address translation and the request queue answer
as a call says.
-/

namespace QuickAssist.Sym

open Lib
open SymSession (PacketType)

/-! ## The state of a session -/

/-- What the firmware is told of a packet.
Source: `ICP_QAT_FW_LA_PARTIAL_NONE`, `_START`, `_MID`, `_END`. -/
inductive QatPacketType
  | none
  | start
  | mid
  | last
  deriving DecidableEq

def packetTypeGet (packetType packetState : PacketType) : QatPacketType :=
  if packetType = .midPartial then
    if packetState = .full then .start else .mid
  else if packetType = .lastPartial then .last
  else .none

def partialPacketStateUpdate (packetType partialState : PacketType) : PacketType :=
  if partialState = .full then .midPartial
  else if packetType = .lastPartial then .full
  else partialState

/-- The values of `CpaCySymPacketType`, which has no others. -/
def packetTypeOf : ℕ → Option PacketType
  | 1 => some .full
  | 2 => some .midPartial
  | 3 => some .lastPartial
  | _ => none

/-- A call, with what the code around it answers. Where a step can fail, the answer is how it fails. -/
structure PerformCall where
  refused : Option Failure
  syncCookie : Option Failure
  /-- `pOpData->packetType`, which the client may have set to any value. -/
  packetType : ℕ
  op : OpData
  src : BufferList
  dst : Option BufferList
  verifyResult : Bool
  /-- The cookie of the request, the buffer descriptors and the physical addresses. -/
  denied : Option Failure
  sent : Option Failure
  /-- The request of a synchronous call, once it was sent: how it ended, or that it did not end in time. -/
  completion : Option Failure

structure SymState where
  desc : SessionDesc
  given : List QatPacketType

/-- A new session. Source: `LacAlgChain_SessionInit`. -/
def SymState.new (desc : SessionDesc) : SymState := ⟨{ desc with partialState := .full }, []⟩

/-! ## Calls -/

def SymState.sent (s : SymState) (packetType : PacketType) : SymState where
  desc := { s.desc with
    partialState :=
      if packetType ≠ .full then partialPacketStateUpdate packetType s.desc.partialState
      else s.desc.partialState }
  given := s.given ++ [packetTypeGet packetType s.desc.partialState]

/-- A call that does not wait: how it fails, and the session after it.
Source: `LacSym_Perform` with `isAsyncMode` false, or for a session with a callback. -/
def performOnce (s : SymState) (c : PerformCall) : Option Failure × SymState :=
  match c.refused, packetTypeOf c.packetType with
  | some f, _ => (some f, s)
  | none, none => (some .invalidParam, s)
  | none, some packetType =>
    match perform s.desc { c.op with packetType := packetType } c.src c.dst c.verifyResult with
    | .error f => (some f, s)
    | .ok _ =>
      match c.denied, c.sent with
      | some f, _ => (some f, s)
      | none, some f => (some f, s)
      | none, none => (none, s.sent packetType)

def lacSymPerform (s : SymState) (c : PerformCall) : Option Failure × SymState :=
  match c.refused with
  | some f => (some f, s)
  | none =>
    if s.desc.isSync then
      match c.syncCookie with
      | some f => (some f, s)
      | none =>
        match performOnce s c with
        | (some f, s) => (some f, s)
        | (none, s) => (c.completion, s)
    else performOnce s c

def performAll (s : SymState) (cs : List PerformCall) : SymState := cs.foldl (fun s c => (lacSymPerform s c).2) s

/-! ## What a call does -/

lemma partialPacketStateCheck_of_bufferParamCheck {src : BufferList} {dst : Option BufferList}
    {desc : SessionDesc} {op : OpData} (h : bufferParamCheck src dst desc op = .ok ())
    (hpart : op.packetType ≠ .full) : partialPacketStateCheck op.packetType desc.partialState = .ok () := by
  obtain ⟨srcLen, -, h⟩ := bind_value_eq_ok.mp h
  rw [if_pos hpart] at h
  cases dst with
  | none => exact (bind_eq_ok.mp h).2
  | some dst =>
    obtain ⟨dstLen, -, h⟩ := bind_value_eq_ok.mp h
    obtain ⟨-, h⟩ := bind_eq_ok.mp h
    exact (bind_eq_ok.mp h).2

/-- **What a call that does not wait comes to**: it fails and changes nothing, or its packet type is one that
may come next, and its request is sent. -/
theorem performOnce_cases (s : SymState) (c : PerformCall) : (∃ f, performOnce s c = (some f, s)) ∨
      ∃ packetType, (packetType ≠ .full → partialPacketStateCheck packetType s.desc.partialState = .ok ()) ∧
        performOnce s c = (none, s.sent packetType) := by
  cases hrefused : c.refused with
  | some f => exact Or.inl ⟨f, by simp only [performOnce, hrefused]⟩
  | none =>
  cases htype : packetTypeOf c.packetType with
  | none => exact Or.inl ⟨.invalidParam, by simp only [performOnce, hrefused, htype]⟩
  | some packetType =>
  cases hperform : perform s.desc { c.op with packetType := packetType } c.src c.dst
      c.verifyResult with
  | error f => exact Or.inl ⟨f, by simp only [performOnce, hrefused, htype, hperform]⟩
  | ok params =>
  cases hdenied : c.denied with
  | some f => exact Or.inl ⟨f, by simp only [performOnce, hrefused, htype, hperform, hdenied]⟩
  | none =>
  cases hsent : c.sent with
  | some f => exact Or.inl ⟨f, by simp only [performOnce, hrefused, htype, hperform, hdenied, hsent]⟩
  | none =>
    refine Or.inr ⟨packetType, ?_, ?_⟩
    · exact partialPacketStateCheck_of_bufferParamCheck (perform_ok hperform).1
    · simp only [performOnce, hrefused, htype, hperform, hdenied, hsent]

/-- **What a call comes to:** it fails and changes nothing, it is sent, or it is synchronous, is sent and fails
when this is completed. -/
theorem lacSymPerform_cases (s : SymState) (c : PerformCall) : (∃ f, lacSymPerform s c = (some f, s)) ∨
      performOnce s c = (none, (lacSymPerform s c).2) ∧
        ((lacSymPerform s c).1 = none ∨ s.desc.isSync = true ∧ (lacSymPerform s c).1 = c.completion) := by
  cases hrefused : c.refused with
  | some f => exact Or.inl ⟨f, by simp only [lacSymPerform, hrefused]⟩
  | none =>
  rcases performOnce_cases s c with ⟨f, hfail⟩ | ⟨packetType, -, hsent⟩
  · by_cases hsync : s.desc.isSync = true
    · cases hcookie : c.syncCookie with
      | some f' => exact Or.inl ⟨f', by simp only [lacSymPerform, hrefused, if_pos hsync, hcookie]⟩
      | none => exact Or.inl ⟨f, by simp only [lacSymPerform, hrefused, if_pos hsync, hcookie, hfail]⟩
    · exact Or.inl ⟨f, by simp only [lacSymPerform, hrefused, if_neg hsync, hfail]⟩
  · by_cases hsync : s.desc.isSync = true
    · cases hcookie : c.syncCookie with
      | some f => exact Or.inl ⟨f, by simp only [lacSymPerform, hrefused, if_pos hsync, hcookie]⟩
      | none =>
        right
        simp only [lacSymPerform, hrefused, if_pos hsync, hcookie, hsent]
        exact ⟨trivial, Or.inr ⟨hsync, trivial⟩⟩
    · right
      simp only [lacSymPerform, hrefused, if_neg hsync, hsent]
      exact ⟨trivial, Or.inl trivial⟩

/-! ## The grammar -/

def SymState.parts (s : SymState) : List QatPacketType := s.given.filter (· ≠ .none)

/-- What `partialState` says about the parts: they make up whole packets, or a packet is open. -/
def SymState.Position (s : SymState) : Prop :=
  s.desc.partialState = .full ∧ s.parts ∈ frames QatPacketType.start .mid .last ∨
    s.desc.partialState = .midPartial ∧ s.parts ∈ openFrames QatPacketType.start .mid .last

lemma position_new (desc : SessionDesc) : (SymState.new desc).Position := Or.inl ⟨rfl, Language.nil_mem_kstar _⟩

variable {s : SymState}

/-- **A part that passed the check keeps the grammar.** -/
theorem SymState.Position.sent (h : s.Position) {packetType : PacketType} (hcheck : packetType ≠ .full →
      partialPacketStateCheck packetType s.desc.partialState = .ok ()) : (s.sent packetType).Position := by
  cases packetType with
  | full =>
    have hparts : (s.sent .full).parts = s.parts := by
      simp [SymState.parts, SymState.sent, packetTypeGet]
    unfold SymState.Position
    rw [hparts]
    exact h
  | midPartial =>
    rcases h with ⟨hstate, hparts⟩ | ⟨hstate, hparts⟩
    · refine Or.inr ⟨by simp [SymState.sent, partialPacketStateUpdate, hstate], ?_⟩
      have heq : (s.sent .midPartial).parts = s.parts ++ [.start] := by
        simp [SymState.parts, SymState.sent, packetTypeGet, hstate]
      rw [heq]
      exact append_first hparts
    · refine Or.inr ⟨by simp [SymState.sent, partialPacketStateUpdate, hstate], ?_⟩
      have heq : (s.sent .midPartial).parts = s.parts ++ [.mid] := by
        simp [SymState.parts, SymState.sent, packetTypeGet, hstate]
      rw [heq]
      exact append_mid hparts
  | lastPartial =>
    rcases h with ⟨hstate, -⟩ | ⟨hstate, hparts⟩
    · -- no packet is open, and the check does not let the end of one through
      rw [hstate] at hcheck
      exact absurd hcheck (by decide)
    · refine Or.inl ⟨by simp [SymState.sent, partialPacketStateUpdate, hstate], ?_⟩
      have heq : (s.sent .lastPartial).parts = s.parts ++ [.last] := by
        simp [SymState.parts, SymState.sent, packetTypeGet]
      rw [heq]
      exact append_last hparts

lemma SymState.Position.perform (h : s.Position) (c : PerformCall) : (lacSymPerform s c).2.Position := by
  rcases lacSymPerform_cases s c with ⟨f, hfail⟩ | ⟨honce, -⟩
  · rw [hfail]
    exact h
  · rcases performOnce_cases s c with ⟨f, hfail⟩ | ⟨packetType, hcheck, hsent⟩
    · rw [hfail] at honce
      cases honce
    · rw [hsent] at honce
      rw [← (Prod.mk.inj honce).2]
      exact h.sent hcheck

lemma position_performAll (h : s.Position) (cs : List PerformCall) : (performAll s cs).Position := by
  induction cs generalizing s with
  | nil => exact h
  | cons c cs ih => exact ih (h.perform c)

/-- **The grammar of partial packets.** A next call that fails changes nothing, unless it is synchronous, its
request was sent, and the failure is how this ended. -/
theorem partial_grammar (desc : SessionDesc) (cs : List PerformCall) :
    (∃ rest, (performAll (SymState.new desc) cs).parts ++ rest ∈ frames QatPacketType.start .mid .last) ∧
    ∀ (c : PerformCall) (f : Failure), (lacSymPerform (performAll (SymState.new desc) cs) c).1 = some f →
        (lacSymPerform (performAll (SymState.new desc) cs) c).2 = performAll (SymState.new desc) cs ∨
          (performAll (SymState.new desc) cs).desc.isSync = true ∧ c.completion = some f ∧
            (performOnce (performAll (SymState.new desc) cs) c).1 = none := by
  constructor
  · apply exists_append_mem_frames
    rcases position_performAll (position_new desc) cs with ⟨-, h⟩ | ⟨-, h⟩
    · exact Or.inl h
    · exact Or.inr h
  · intro c f hfail
    rcases lacSymPerform_cases (performAll (SymState.new desc) cs) c with ⟨f', h⟩ | ⟨honce, h⟩
    · exact Or.inl (congrArg Prod.snd h)
    · rcases h with hnone | ⟨hsync, hcompletion⟩
      · rw [hnone] at hfail
        cases hfail
      · exact Or.inr ⟨hsync, hcompletion.symm.trans hfail, congrArg Prod.fst honce⟩

def partCall (packetType : ℕ) : PerformCall where
  refused := none
  syncCookie := none
  packetType := packetType
  op := fullPacket 0 16 0 0
  src := oneBuffer 16
  dst := none
  verifyResult := false
  denied := none
  sent := none
  completion := some .fail

/-- A session with a callback has been given a packet in two parts. Another end is refused, and changes
nothing. -/
theorem two_parts_grammar : let s := performAll (SymState.new (descOf (cbcSetup .cipher))) [partCall 2, partCall 3]
    s.parts = [.start, .last] ∧ (∃ rest, s.parts ++ rest ∈ frames QatPacketType.start .mid .last) ∧
      (lacSymPerform s (partCall 3)).1 = some .invalidParam ∧ (lacSymPerform s (partCall 3)).2 = s := by
  have h := partial_grammar (descOf (cbcSetup .cipher)) [partCall 2, partCall 3]
  refine ⟨by decide, h.1, by decide, ?_⟩
  rcases h.2 (partCall 3) .invalidParam (by decide) with hsame | ⟨hsync, -⟩
  · exact hsame
  · exact absurd hsync (by decide)

/-- A synchronous session is given a first part, the request is sent and fails, and the session has moved on. -/
theorem failed_sync_advances : let s := SymState.new { descOf (cbcSetup .cipher) with isSync := true }
    (lacSymPerform s (partCall 2)).1 = some .fail ∧ s.desc.partialState = .full ∧
      (lacSymPerform s (partCall 2)).2.desc.partialState = .midPartial ∧
      (lacSymPerform s (partCall 2)).2.parts = [.start] := by
  decide

end QuickAssist.Sym
