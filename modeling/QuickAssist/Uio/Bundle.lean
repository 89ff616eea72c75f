import QuickAssist.Lib.Assoc
import QuickAssist.Lib.Words

/-!
# Rings that are reserved by processes

A process maps the registers of a bundle and reserves rings of it. The driver has an entry for each mapping, with the
process and the rings that it has reserved; the bundle has the mask of all rings that are reserved. When a mapping is
closed, by the process or because it ends, the driver empties the rings that the process has left behind, releases
them and deletes the entry.
-/

namespace QuickAssist.Uio

open Lib

/-! ## The bundle -/

/-- `struct adf_uio_instance_rings` -/
structure InstanceRings where
  userPid : ℕ
  ringMask : U16
  vma : ℕ
  deriving DecidableEq

/-- `struct adf_uio_control_bundle`, with the register of its arbiter -/
structure ControlBundle where
  list : List InstanceRings
  ringsUsed : U16
  /-- The register `RINGSRVARBEN`, which has a bit for each of the eight rings for requests. -/
  arbEnable : U8
  deriving DecidableEq

inductive Err
  | fault
  | inval
  | noMem
  | remap

def entryOf (list : List InstanceRings) (pid : ℕ) : Option InstanceRings := Assoc.find InstanceRings.userPid list pid

def updateEntry (pid : ℕ) (f : InstanceRings → InstanceRings) (list : List InstanceRings) : List InstanceRings :=
  Assoc.modifyFirst InstanceRings.userPid pid f list

/-! ## The calls -/

/-- Source: `adf_ctl_ioctl_reserve_ring`, once the bundle is known. -/
def reserveRing (pid : ℕ) (mask : U16) (b : ControlBundle) : ControlBundle × Option Err :=
  if b.ringsUsed &&& mask ≠ 0 then (b, some .inval)
  else match entryOf b.list pid with
    | none => (b, some .inval)
    | some _ =>
      ({ b with
          list := updateEntry pid (fun e => { e with ringMask := e.ringMask ||| mask }) b.list
          ringsUsed := b.ringsUsed ||| mask }, none)

/-- Source: `adf_ctl_ioctl_release_ring`, once the bundle is known. -/
def releaseRing (pid : ℕ) (mask : U16) (b : ControlBundle) : ControlBundle × Option Err :=
  match entryOf b.list pid with
  | none => (b, some .inval)
  | some e =>
    if e.ringMask &&& mask ≠ mask then (b, some .inval)
    else
      ({ b with
          list := updateEntry pid (fun e => { e with ringMask := e.ringMask &&& ~~~mask }) b.list
          ringsUsed := b.ringsUsed &&& ~~~mask }, none)

def enableRingArb (mask : U16) (b : ControlBundle) : ControlBundle :=
  { b with arbEnable := b.arbEnable ||| mask.setWidth 8 }

def disableRingArb (mask : U16) (b : ControlBundle) : ControlBundle :=
  { b with arbEnable := b.arbEnable &&& ~~~(mask.setWidth 8) }

/-- Source: `adf_ctl_ioctl_enable_ring`, once the bundle is known. -/
def enableRing (mask : U16) (b : ControlBundle) : ControlBundle × Option Err := (enableRingArb mask b, none)

/-- Source: `adf_ctl_ioctl_disable_ring`, once the bundle is known. -/
def disableRing (mask : U16) (b : ControlBundle) : ControlBundle × Option Err := (disableRingArb mask b, none)

/-! ## Mapping -/

/-- A process maps the bundle. `alloc` says whether there is memory, `remapped` whether
`remap_pfn_range` succeeds. Source: `adf_uio_mmap`. -/
def mmap (pid vma : ℕ) (alloc remapped : Bool) (b : ControlBundle) : ControlBundle × Option Err :=
  if !alloc then (b, some .noMem)
  -- the entry that was added is deleted again
  else if !remapped then (b, some .remap)
  else ({ b with list := b.list ++ [⟨pid, 0, vma⟩] }, none)

/-! ## Closing a mapping -/

/-- `tx_rings_mask`, the same for every device -/
def txRingsMask : U16 := 0xFF

/-- `tx_rx_gap`, the same for every device -/
def txRxGap : ℕ := 8

def clearBit (i : ℕ) (mask : U16) : U16 := mask &&& ~~~(1#16 <<< i)

def checkOrphanRing (tx rx : U16) : U16 × U16 :=
  (List.range 16).foldl (fun m i =>
    if m.1.getLsbD i then
      if m.2.getLsbD (i + txRxGap) then m else (clearBit i m.1, m.2)
    else if m.2.getLsbD i then
      if m.1.getLsbD (i - txRxGap) then m else (m.1, clearBit i m.2)
    else m) (tx, rx)

/-- The rings that a process with a ring mask has left behind, for requests and for responses.
`bases` are the rings that have a base address. -/
def getOrphanBundle (ringMask bases : U16) : U16 × U16 :=
  let tx := bases &&& ringMask &&& txRingsMask
  let rx := bases &&& ringMask &&& ~~~txRingsMask
  if tx ≠ 0 ∨ rx ≠ 0 then checkOrphanRing tx rx else (tx, rx)

def cleanupOrphanRing (tx : U16) (b : ControlBundle) : ControlBundle :=
  disableRingArb tx (enableRingArb tx (disableRingArb tx b))

def forceRelease (pid : ℕ) (b : ControlBundle) : ControlBundle :=
  match entryOf b.list pid with
  | some e => { b with ringsUsed := b.ringsUsed &&& ~~~e.ringMask }
  | none => b

/-- `bases` are the rings of the bundle that have a base address, `orphan` says whether
`get_orphan_bundle` succeeds. -/
def doCleanupOrphan (pid : ℕ) (bases : U16) (orphan : Bool) (b : ControlBundle) : ControlBundle :=
  if bases = 0 then forceRelease pid b
  else if !orphan then b
  else
    let (tx, rx) := getOrphanBundle (((entryOf b.list pid).map InstanceRings.ringMask).getD 0) bases
    forceRelease pid (if tx = 0 ∧ rx = 0 then b else cleanupOrphanRing tx b)

/-- An entry of the mapping gets the number of the process that closes it, unless an entry of that
process comes before it. Source: the first loop of `adf_uio_mmap_close`. -/
def pidFixup (pid vma : ℕ) : List InstanceRings → List InstanceRings
  | [] => []
  | e :: es =>
    if e.userPid = pid then e :: es
    else if e.vma = vma then { e with userPid := pid } :: es
    else e :: pidFixup pid vma es

def mmapClose (pid vma : ℕ) (bases : U16) (orphan : Bool) (b : ControlBundle) : ControlBundle :=
  let b := { b with list := pidFixup pid vma b.list }
  let b := doCleanupOrphan pid bases orphan b
  { b with list := Assoc.removeFirst InstanceRings.userPid pid b.list }

/-! ## All bundles -/

structure Accel where
  maxBanks : ℕ
  numKerBundles : ℕ

/-- `struct adf_user_reserve_ring` -/
structure UserReserveRing where
  accelId : ℕ
  bankNr : ℕ
  ringMask : U32

/-- `ADF_ETR_MAX_RINGS_PER_BANK`, which is `num_rings_per_bank` for every device -/
def numRingsPerBank : ℕ := 16

/-- The bundle that is meant, by the device and its number there. `devices` are those that are
there. -/
def ioctlBundle (devices : ℕ → Option Accel) (r : UserReserveRing) : Option (ℕ × ℕ) :=
  match devices r.accelId with
  | none => none
  | some accel =>
    if accel.maxBanks ≤ r.bankNr then none
    else if r.ringMask &&& ~~~((1#32 <<< numRingsPerBank) - 1) ≠ 0 then none
    else if accel.numKerBundles > r.bankNr then none
    else some (r.accelId, r.bankNr - accel.numKerBundles)

inductive Ioctl
  | reserve
  | release
  | enable
  | disable

def Ioctl.run (call : Ioctl) (pid : ℕ) (mask : U16) (b : ControlBundle) : ControlBundle × Option Err :=
  match call with
  | .reserve => reserveRing pid mask b
  | .release => releaseRing pid mask b
  | .enable => enableRing mask b
  | .disable => disableRing mask b

abbrev State := ℕ → ℕ → ControlBundle

inductive Event
  | ioctl (call : Ioctl) (pid : ℕ) (arg : Option UserReserveRing)
  | mmap (accelId bundle pid vma : ℕ) (alloc remapped : Bool)
  | mmapClose (accelId bundle pid vma : ℕ) (bases : U16) (orphan : Bool)

def setBundle (s : State) (accelId bundle : ℕ) (b : ControlBundle) : State :=
  Function.update s accelId (Function.update (s accelId) bundle b)

def step (devices : ℕ → Option Accel) (s : State) : Event → State × Option Err
  | .ioctl call pid arg =>
    match arg with
    | none => (s, some .fault)
    | some r =>
      match ioctlBundle devices r with
      | none => (s, some .inval)
      | some (accelId, bundle) =>
        -- the upper half of the mask is zero
        let res := call.run pid (r.ringMask.setWidth 16) (s accelId bundle)
        (setBundle s accelId bundle res.1, res.2)
  | .mmap accelId bundle pid vma alloc remapped =>
    let res := mmap pid vma alloc remapped (s accelId bundle)
    (setBundle s accelId bundle res.1, res.2)
  | .mmapClose accelId bundle pid vma bases orphan =>
    (setBundle s accelId bundle (mmapClose pid vma bases orphan (s accelId bundle)), none)

end QuickAssist.Uio
