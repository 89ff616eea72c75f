import Mathlib.Data.BitVec

/-!
# The PF/VF mailbox word

The physical function (PF) and each virtual function (VF) of a device talk through one 32-bit register. Its lower half
carries PF-to-VF messages and its upper half VF-to-PF messages; a sender writes an *in-use pattern* into the half it
does not use. This file is the layout of `adf_pf2vf_msg.h` and the two halves of `__adf_iov_putmsg`: the word it claims
the register with, and what it does with the value its polling loop last read. The event counters of
`struct pfvf_stats` are written and never read by this code; they are left out.
-/

namespace QuickAssist.PfVf

abbrev Word := BitVec 32

/-- The source's `u8`. -/
abbrev Byte := BitVec 8

/-! ## The two ends -/

/-- The two ends of a mailbox.
Source: `accel_dev->is_vf` in `__adf_iov_putmsg`. -/
inductive Side
  | pf
  | vf
  deriving DecidableEq

namespace Side

def peer : Side → Side
  | pf => vf
  | vf => pf

/-- The bit whose setting interrupts the peer: `ADF_PF2VF_INT`, `ADF_VF2PF_INT`. -/
def intBit : Side → Word
  | pf => 0x00000001#32
  | vf => 0x00010000#32

/-- The half this end marks as in use: `ADF_PF2VF_IN_USE_BY_PF_MASK`,
`ADF_VF2PF_IN_USE_BY_VF_MASK`. -/
def inUseMask : Side → Word
  | pf => 0xFFFE0000#32
  | vf => 0x0000FFFE#32

/-- The pattern this end marks it with: `ADF_PF2VF_IN_USE_BY_PF`, `ADF_VF2PF_IN_USE_BY_VF`. -/
def inUsePattern : Side → Word
  | pf => 0x6AC20000#32
  | vf => 0x00006AC2#32

/-- The bit that tells this driver's messages from a legacy driver's:
`ADF_PF2VF_MSGORIGIN_SYSTEM`, `ADF_VF2PF_MSGORIGIN_SYSTEM`. -/
def msgoriginSystem : Side → Word
  | pf => 0x00000002#32
  | vf => 0x00020000#32

def inUse (side : Side) (val : Word) : Bool := val &&& side.inUseMask == side.inUsePattern

@[simp] lemma peer_peer (side : Side) : side.peer.peer = side := by
  cases side <;> rfl

end Side

/-! ## Sending -/

/-- What a send returns: `0`, `-EAGAIN` or `-EIO`. -/
inductive PutRet
  | ok
  | eagain
  | eio
  deriving DecidableEq

/-- The message with this end's in-use pattern put in.
Source: `msg &= ~local_in_use_mask; msg |= local_in_use_pattern` in `__adf_iov_putmsg`. -/
def putmsgWord (side : Side) (msg : Word) : Word := (msg &&& ~~~side.inUseMask) ||| side.inUsePattern

/-- What `__adf_iov_putmsg` does after its polling loop, from `if (val & int_bit)` on; `msg` is already
`putmsgWord`. -/
def putmsgFinish (side : Side) (isNotification : Bool) (msg val : Word) : PutRet × Option Word :=
  let noAck := val &&& side.intBit ≠ 0
  let val' := if noAck then val &&& ~~~side.intBit else val
  let ret := if noAck then PutRet.eio else PutRet.ok
  if isNotification ∧ val' &&& ~~~side.intBit ≠ msg then
    (PutRet.eagain, none)
  else if side.inUse val' then
    (ret, some (val' &&& ~~~side.inUseMask))
  else
    (ret, none)

/-! ## Block classes -/

inductive BlockClass
  | small
  | medium
  | large
  deriving DecidableEq

namespace BlockClass

/-- `ADF_VF2PF_{SMALL,MEDIUM,LARGE}_PAYLOAD_SIZE` -/
def payloadSize : BlockClass → ℕ
  | small => 30
  | medium => 62
  | large => 126

/-- `ADF_VF2PF_MIN_{SMALL,MEDIUM,LARGE}_MESSAGE_TYPE` -/
def minMessageType : BlockClass → ℕ
  | small => 0
  | medium => 16
  | large => 24

/-- `ADF_VF2PF_MAX_{SMALL,MEDIUM,LARGE}_MESSAGE_TYPE` -/
def maxMessageType : BlockClass → ℕ
  | small => 15
  | medium => 23
  | large => 27

/-- `ADF_VF2PF_{SMALL,MEDIUM,LARGE}_BLOCK_BYTE_NUM_SHIFT` -/
def byteNumShift : BlockClass → ℕ
  | small => 26
  | medium => 25
  | large => 24

/-- `ADF_VF2PF_{SMALL,MEDIUM,LARGE}_BLOCK_BYTE_NUM_MASK` -/
def byteNumMask : BlockClass → Word
  | small => 0x7C000000#32
  | medium => 0x7E000000#32
  | large => 0x7F000000#32

/-- `ADF_VF2PF_{SMALL,MEDIUM,LARGE}_BLOCK_REQ_TYPE_MASK` -/
def reqTypeMask : BlockClass → Word
  | small => 0x3C00000#32
  | medium => 0x1C00000#32
  | large => 0xC00000#32

/-- `ADF_VF2PF_MSGTYPE_GET_{SMALL,MEDIUM,LARGE}_BLOCK_REQ` -/
def msgtype : BlockClass → Word
  | small => 0x9#32
  | medium => 0x8#32
  | large => 0x7#32

def ofMessageType (msgType : Byte) : Option BlockClass :=
  if msgType.toNat ≤ small.maxMessageType then some small
  else if msgType.toNat ≤ medium.maxMessageType then some medium
  else if msgType.toNat ≤ large.maxMessageType then some large
  else none

end BlockClass

/-- `ADF_VF2PF_BLOCK_DATA`: the data bytes follow the version and the length byte. -/
def blockData : ℕ := 2

def blockReqTypeShift : ℕ := 22

def blockReqCrcShift : ℕ := 31

def vf2pfMsgtypeShift : ℕ := 18

/-! ## VF-to-PF messages -/

/-- The messages a VF sends.
Source: `ADF_VF2PF_MSGTYPE_*`. -/
inductive Vf2pfMsgtype
  | init
  | shutdown
  | versionReq
  | compatVerReq
  /-- `ADF_VF2PF_MSGTYPE_GET_{SMALL,MEDIUM,LARGE}_BLOCK_REQ` -/
  | getBlockReq (cls : BlockClass)
  /-- Any other value: the `default` branch of the handler. -/
  | unknown
  deriving DecidableEq

/-- The message type of a word, `(msg & ADF_VF2PF_MSGTYPE_MASK) >> ADF_VF2PF_MSGTYPE_SHIFT`. -/
def vf2pfMsgtype (msg : Word) : Vf2pfMsgtype :=
  match ((msg &&& 0x003C0000#32) >>> vf2pfMsgtypeShift).toNat with
  | 0x3 => .init
  | 0x4 => .shutdown
  | 0x5 => .versionReq
  | 0x6 => .compatVerReq
  | 0x7 => .getBlockReq .large
  | 0x8 => .getBlockReq .medium
  | 0x9 => .getBlockReq .small
  | _ => .unknown

def blockByteNum (cls : BlockClass) (msg : Word) : Byte := ((msg &&& cls.byteNumMask) >>> cls.byteNumShift).setWidth 8

def blockMsgType (cls : BlockClass) (msg : Word) : Byte :=
  ((msg &&& cls.reqTypeMask) >>> blockReqTypeShift).setWidth 8 + BitVec.ofNat 8 cls.minMessageType

/-- The request is for a CRC: `msg >> ADF_VF2PF_BLOCK_REQ_CRC_SHIFT` is not zero. -/
def blockReqCrc (msg : Word) : Bool := msg >>> blockReqCrcShift != 0

/-- The request word of `adf_iov_block_get_bc` for a message type of the class `cls`. -/
def blockReqWord (cls : BlockClass) (msgType msgIndex : Byte) (getCrc : Bool) : Word :=
  Side.vf.msgoriginSystem
    ||| (if getCrc then 1#32 <<< blockReqCrcShift else 0#32)
    ||| cls.msgtype <<< vf2pfMsgtypeShift
    ||| (msgType - BitVec.ofNat 8 cls.minMessageType).setWidth 32 <<< blockReqTypeShift
    ||| msgIndex.setWidth 32 <<< cls.byteNumShift

/-! ## PF-to-VF messages -/

/-- The messages a PF sends.
Source: `ADF_PF2VF_MSGTYPE_*`. -/
inductive Pf2vfMsgtype
  | restarting
  | versionResp
  | blockResp
  | fatalError
  /-- Any other value: the `default` branch of the handler. -/
  | unknown
  deriving DecidableEq

/-- The message type of a word, `(msg & ADF_PF2VF_MSGTYPE_MASK) >> ADF_PF2VF_MSGTYPE_SHIFT`. -/
def pf2vfMsgtype (msg : Word) : Pf2vfMsgtype :=
  match ((msg &&& 0x0000003C#32) >>> 2).toNat with
  | 0x1 => .restarting
  | 0x2 => .versionResp
  | 0x3 => .blockResp
  | 0x4 => .fatalError
  | _ => .unknown

/-- `ADF_PF2VF_BLOCK_RESP_TYPE_DATA`, `_CRC` and `_ERROR`. -/
def blockRespTypeData : Byte := 0x0#8

@[inherit_doc blockRespTypeData] def blockRespTypeCrc : Byte := 0x1#8

@[inherit_doc blockRespTypeData] def blockRespTypeError : Byte := 0x2#8

def blockRespWord (respType data : Byte) : Word :=
  Side.pf.msgoriginSystem
    ||| 0x03#32 <<< 2
    ||| respType.setWidth 32 <<< 6
    ||| data.setWidth 32 <<< 8

def blockRespType (msg : Word) : Byte := ((msg &&& 0x000000C0#32) >>> 6).setWidth 8

def blockRespData (msg : Word) : Byte := ((msg &&& 0x0000FF00#32) >>> 8).setWidth 8

end QuickAssist.PfVf
