import QuickAssist.Cfg.Mask

/-!
# The rings of a bundle and the instances made of them

Each bundle gets sixteen rings, the first eight for requests and the last eight for the responses to them.
`adf_cfg_assign_serv_to_rings` gives each ring the service its pair has in the mask, and
`adf_cfg_init_and_insert_inst` makes two instances for each pair, or for each two pairs of a `CRYPTO` service. Both go
over the mask as `pairWalk` does: a pair with `CRYPTO` takes the next one with it, whatever the mask says about that.
-/

namespace QuickAssist.Cfg

/-! ## Going over the mask -/

/-- `num_of_rings`, which is `ADF_ETR_MAX_RINGS_PER_BANK` for every device -/
def numOfRings : ℕ := 16

def numReqRings : ℕ := numOfRings / 2

def numServices : ℕ := 4

def numRingsPerSrv : ℕ := numReqRings / numServices

def ServiceType.ofVal : ℕ → Option ServiceType
  | 0 => some .na
  | 1 => some .crypto
  | 2 => some .comp
  | 3 => some .sym
  | 4 => some .asym
  | 5 => some .used
  | _ => none

def getSrvType (mask pair : ℕ) : Option ServiceType := ServiceType.ofVal (mask >>> (3 * pair) &&& 0x7)

/-- The pairs from a pair on at which a loop over the mask stops, with what the mask says about
them. The first argument bounds the number of rounds. -/
def pairWalkFrom (mask : ℕ) : ℕ → ℕ → List (ℕ × Option ServiceType)
  | 0, _ => []
  | n + 1, pair =>
    if numServices ≤ pair then []
    else
      let serv := getSrvType mask pair
      (pair, serv) :: pairWalkFrom mask n (if serv = some .crypto then pair + 2 else pair + 1)

def pairWalk (mask : ℕ) : List (ℕ × Option ServiceType) := pairWalkFrom mask numServices 0

/-- The service the mask assigns to a pair: what it says about the pair, or `CRYPTO` for a pair that
is taken by the one before. -/
def pairService (mask pair : ℕ) : Option ServiceType :=
  ((pairWalk mask).find? fun (p, serv) => p = pair || (serv = some .crypto && p + 1 = pair)).bind Prod.snd

/-! ## The rings -/

/-- `enum adf_accel_serv_type` -/
inductive AccelServ
  | na
  | asym
  | sym
  | rnd
  | dc
  deriving DecidableEq

inductive Mode
  | tx
  | rx
  deriving DecidableEq

/-- `struct adf_cfg_ring` -/
structure Ring where
  mode : Mode
  servType : AccelServ
  number : ℕ

/-- The rings before services are assigned.
Source: the loop of `adf_cfg_init_ring2serv_mapping`. -/
def initRings : List Ring :=
  (List.range numOfRings).map fun n =>
    { mode := if n < numOfRings / 2 then .tx else .rx, servType := .na, number := n }

/-- Source: `ASSIGN_SERV_TO_RINGS`, for the rings of a pair. -/
def assignPair (t : AccelServ) (pair : ℕ) (rings : List Ring) : List Ring :=
  let setServ : Ring → Ring := fun r => { r with servType := t }
  (List.range numRingsPerSrv).foldl (fun rings j =>
    (rings.modify (numRingsPerSrv * pair + j) setServ).modify (numRingsPerSrv * pair + j + numReqRings) setServ) rings

/-- One round of the loop of `adf_cfg_assign_serv_to_rings`. -/
def assignServ (rings : List Ring) : ℕ × Option ServiceType → List Ring
  | (pair, some .crypto) =>
    let rings := assignPair .asym pair rings
    if pair + 1 = numServices then rings else assignPair .sym (pair + 1) rings
  | (pair, some .comp) => assignPair .dc pair rings
  | (pair, some .sym) => assignPair .sym pair rings
  | (pair, some .asym) => assignPair .asym pair rings
  | (pair, some .na) => assignPair .na pair rings
  | (_, some .used) => rings
  | (_, none) => rings

/-- The rings of a bundle, with their services.
Source: `adf_cfg_init_ring2serv_mapping` with `adf_cfg_assign_serv_to_rings`. -/
def assignServToRings (mask : ℕ) : List Ring := (pairWalk mask).foldl assignServ initRings

def ringServ (mask n : ℕ) : Option AccelServ :=
  ((assignServToRings mask).find? fun r => r.number = n).map Ring.servType

/-! ## The instances -/

/-- `struct adf_cfg_instance`, without what only a requesting instance uses -/
structure Instance where
  stype : ServiceType := .na
  asymTx : ℕ := 0
  asymRx : ℕ := 0
  symTx : ℕ := 0
  symRx : ℕ := 0
  dcTx : ℕ := 0
  dcRx : ℕ := 0
  bundle : ℕ := 0

/-- The number of the first ring of a service and direction that is not in use, or zero. Source: each of the
loops of the `_instance_init` functions. -/
def takeRing (rings : List Ring) (mode : Mode) (serv : AccelServ) (inUse : ℕ) : ℕ × ℕ :=
  let half := match mode with
    | .tx => rings.take numReqRings
    | .rx => rings.drop numReqRings
  match half.find? fun r => !inUse.testBit r.number && r.servType = serv && r.mode = mode with
  | some r => (r.number, inUse ||| 1 <<< r.number)
  | none => (0, inUse)

def cryptoInstanceInit (rings : List Ring) (inUse : ℕ) : Instance × ℕ :=
  let (asymTx, inUse) := takeRing rings .tx .asym inUse
  let (symTx, inUse) := takeRing rings .tx .sym inUse
  let (asymRx, inUse) := takeRing rings .rx .asym inUse
  let (symRx, inUse) := takeRing rings .rx .sym inUse
  let inst : Instance := { stype := .crypto, asymTx, symTx, asymRx, symRx }
  (inst, inUse)

def dcInstanceInit (rings : List Ring) (inUse : ℕ) : Instance × ℕ :=
  let (dcTx, inUse) := takeRing rings .tx .dc inUse
  let (dcRx, inUse) := takeRing rings .rx .dc inUse
  let inst : Instance := { stype := .comp, dcTx, dcRx }
  (inst, inUse)

def asymInstanceInit (rings : List Ring) (inUse : ℕ) : Instance × ℕ :=
  let (asymTx, inUse) := takeRing rings .tx .asym inUse
  let (asymRx, inUse) := takeRing rings .rx .asym inUse
  let inst : Instance := { stype := .asym, asymTx, asymRx }
  (inst, inUse)

def symInstanceInit (rings : List Ring) (inUse : ℕ) : Instance × ℕ :=
  let (symTx, inUse) := takeRing rings .tx .sym inUse
  let (symRx, inUse) := takeRing rings .rx .sym inUse
  let inst : Instance := { stype := .sym, symTx, symRx }
  (inst, inUse)

def instanceInit (rings : List Ring) (inUse : ℕ) : Option ServiceType → Instance × ℕ
  | some .crypto => cryptoInstanceInit rings inUse
  | some .comp => dcInstanceInit rings inUse
  | some .asym => asymInstanceInit rings inUse
  | some .sym => symInstanceInit rings inUse
  | some .na => ({}, inUse)
  | some .used => ({}, inUse)
  | none => ({}, inUse)

def instancesFor (rings : List Ring) : List (Option ServiceType) → ℕ → List Instance
  | [], _ => []
  | serv :: servs, inUse =>
    let (inst, inUse) := instanceInit rings inUse serv
    inst :: instancesFor rings servs inUse

def servTable (mask : ℕ) : List Instance :=
  instancesFor (assignServToRings mask)
    ((pairWalk mask).flatMap fun (_, serv) => List.replicate numRingsPerSrv serv) 0

def initAndInsertInst (mask bankNum : ℕ) : List Instance :=
  (servTable mask).map fun inst => { inst with bundle := bankNum }

/-! ## What they are made of -/

structure RingPair where
  serv : AccelServ
  tx : ℕ
  rx : ℕ

def Instance.ringPairs (inst : Instance) : List RingPair :=
  match inst.stype with
  | .crypto => [⟨.asym, inst.asymTx, inst.asymRx⟩, ⟨.sym, inst.symTx, inst.symRx⟩]
  | .comp => [⟨.dc, inst.dcTx, inst.dcRx⟩]
  | .asym => [⟨.asym, inst.asymTx, inst.asymRx⟩]
  | .sym => [⟨.sym, inst.symTx, inst.symRx⟩]
  | .na => []
  | .used => []

def Instance.ringNumbers (inst : Instance) : List ℕ := inst.ringPairs.flatMap fun p => [p.tx, p.rx]

/-- A ring pair is one that was made for what the instance uses it for. -/
@[mk_iff]
structure RingPair.Assigned (mask : ℕ) (p : RingPair) : Prop where
  /-- The response ring comes `num_of_rings / 2` after the request ring. -/
  gap : p.rx = p.tx + numOfRings / 2
  /-- The request ring is one for the requests that the instance puts on it. -/
  request : ringServ mask p.tx = some p.serv
  response : ringServ mask p.rx = some p.serv

instance (mask : ℕ) (p : RingPair) : Decidable (p.Assigned mask) := decidable_of_iff' _ (RingPair.assigned_iff mask p)

/-- The bits that the mask has for a ring pair are those of a service. -/
def RingPair.Served (mask : ℕ) (stype : ServiceType) (p : RingPair) : Prop :=
  getSrvType mask (p.tx / numRingsPerSrv) = some stype
  deriving Decidable

structure TableOk (mask : ℕ) : Prop where
  length_le : (servTable mask).length ≤ numReqRings
  nodup : ((servTable mask).flatMap Instance.ringNumbers).Nodup
  assigned : ∀ inst ∈ servTable mask, ∀ p ∈ inst.ringPairs, p.Assigned mask
  served : mask ≠ 0o3111 → ∀ inst ∈ servTable mask, ∀ p ∈ inst.ringPairs, p.Served mask inst.stype

/-- **For every mask that is produced the instances of a bundle are as they should be**, with one exception: where
a pair has the bits of `CRYPTO` and of `COMP`, they are taken for those of `SYM`. -/
theorem servTable_ok {mask : ℕ} (hmask : mask ∈ servMasks) : TableOk mask := by
  have hall : ∀ mask ∈ servMasks, (servTable mask).length ≤ numReqRings ∧
      ((servTable mask).flatMap Instance.ringNumbers).Nodup ∧
      (∀ inst ∈ servTable mask, ∀ p ∈ inst.ringPairs, p.Assigned mask) ∧
      (mask ≠ 0o3111 → ∀ inst ∈ servTable mask, ∀ p ∈ inst.ringPairs, p.Served mask inst.stype) := by
    decide +kernel
  obtain ⟨hlength, hnodup, hassigned, hserved⟩ := hall mask hmask
  exact ⟨hlength, hnodup, hassigned, hserved⟩

end QuickAssist.Cfg
