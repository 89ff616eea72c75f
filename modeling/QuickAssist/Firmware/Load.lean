import Mathlib.Data.Nat.Notation
import Mathlib.Tactic.Common

/-!
# Who releases the firmware

`adf_ae_init` takes memory for the data of the loader and for its handle, `adf_ae_fw_load` the two images and, behind
the handle, what is mapped of one of them. If a call fails, a part is released at once and the rest by
`adf_dev_shutdown`, which goes by two bits of the status.

**The defect.** `adf_ae_fw_load` returns without a release if a value of the configuration is not a number or KPT is
asked of a device that does not have it. The bit for the loaded firmware is not set then, so that both images stay
(`storage_value_keeps_images`).

**Outside.** The calls that can fail, with their outcome. What `qat_uclo_map_obj` takes for an object that it cannot
map is its own to release, the handle of the container apart. The rest of `adf_dev_init` is left out.
-/

namespace QuickAssist.Firmware

/-- Something that is taken and released: whether the pointer to it is not null, and how often each has happened. -/
structure Resource where
  ptr : Bool
  taken : ℕ
  released : ℕ

namespace Resource

def none : Resource := ⟨false, 0, 0⟩

def take (r : Resource) : Resource := ⟨true, r.taken + 1, r.released⟩

/-- `kfree` and `release_firmware`, which do nothing with a null pointer. -/
def free (r : Resource) : Resource := ⟨r.ptr, r.taken, r.released + r.ptr.toNat⟩

def clear (r : Resource) : Resource := ⟨false, r.taken, r.released⟩

end Resource

structure LoadDevice where
  mmpFw : Resource
  uofFw : Resource
  mobjHandle : Resource
  objHandle : Resource
  fwLoader : Resource
  loaderData : Resource
  aeInitialised : Bool
  aeUcodeLoaded : Bool

def LoadDevice.fresh : LoadDevice := ⟨.none, .none, .none, .none, .none, .none, false, false⟩

/-- All that was taken was released, once. -/
def LoadDevice.Released (d : LoadDevice) : Prop :=
  ∀ r ∈ [d.mmpFw, d.uofFw, d.mobjHandle, d.objHandle, d.fwLoader, d.loaderData], r.taken ≤ 1 ∧ r.released = r.taken

/-- What the calls give, `true` for success. A parameter has no value, or one that `kstrtoul` reads or not. -/
structure LoadEnv where
  fwName : Bool
  kzalloc : Bool
  halInit : Bool
  aeReset : Bool
  mmpFirmware : Bool
  uofFirmware : Bool
  cryptoAsymmetric : Bool
  wrMimage : Bool
  storage : Option (Option ℕ)
  /-- Whether it is a build with `QAT_KPT`. -/
  qatKpt : Bool
  kpt : Option (Option ℕ)
  c62x : Bool
  /-- The container could be opened, if it is one. -/
  mapMof : Bool
  mapObj : Bool
  wrAllUimage : Bool

namespace LoadEnv

variable (env : LoadEnv) (d : LoadDevice)

def adfAeFwRelease : LoadDevice :=
  if env.fwName then
    { d with
      -- `qat_uclo_del_uof_obj`
      mobjHandle := d.mobjHandle.free.clear
      objHandle := d.objHandle.free.clear
      fwLoader := d.fwLoader.free.clear
      uofFw := d.uofFw.free.clear
      mmpFw := d.mmpFw.free.clear }
  else d

/-- Returns with whether it succeeded. -/
def adfAeInit : Bool × LoadDevice :=
  if env.fwName then
    if env.kzalloc then
      let d := { d with loaderData := d.loaderData.take }
      if env.halInit then
        let d := { d with fwLoader := d.fwLoader.take }
        if env.aeReset then (true, d)
        else (false, { d with fwLoader := d.fwLoader.free, loaderData := d.loaderData.free })
      else (false, { d with loaderData := d.loaderData.free })
    else (false, d)
  else (true, d)

/-- The image for asymmetric services is needed and could not be written. -/
def noMimage : Bool := env.cryptoAsymmetric && !env.wrMimage

/-- The value of a parameter that has none is 0. -/
def enabled (v : Option (Option ℕ)) : Bool := v.elim false (·.elim false (· != 0))

/-- The returns in the middle. -/
def badConfig : Bool :=
  env.storage == some none ||
    env.qatKpt && (env.kpt == some none || !enabled env.storage && enabled env.kpt && !env.c62x)

def adfAeFwLoad : Bool × LoadDevice :=
  if env.fwName then
    if env.mmpFirmware then
      let d := { d with mmpFw := d.mmpFw.take }
      if env.uofFirmware then
        let d := { d with uofFw := d.uofFw.take }
        if env.noMimage then (false, env.adfAeFwRelease d)
        else if env.badConfig then (false, d)
        else
          let d := if env.mapMof then { d with mobjHandle := d.mobjHandle.take } else d
          if env.mapObj then
            let d := { d with objHandle := d.objHandle.take }
            if env.wrAllUimage then (true, d) else (false, env.adfAeFwRelease d)
          else (false, env.adfAeFwRelease d)
      else (false, env.adfAeFwRelease d)
    else (false, d)
  else (true, d)

/-- The part of `adf_dev_init` up to the firmware. -/
def adfDevInit : LoadDevice :=
  match env.adfAeInit d with
  | (false, d) => d
  | (true, d) =>
    match env.adfAeFwLoad { d with aeInitialised := true } with
    | (false, d) => d
    | (true, d) => { d with aeUcodeLoaded := true }

def adfAeShutdown : LoadDevice :=
  if env.fwName then { d with fwLoader := d.fwLoader.free, loaderData := d.loaderData.free.clear } else d

def adfDevShutdown : LoadDevice :=
  let d := if d.aeUcodeLoaded then { env.adfAeFwRelease d with aeUcodeLoaded := false } else d
  if d.aeInitialised then { env.adfAeShutdown d with aeInitialised := false } else d

/-- Both images are there, and the configuration is refused. -/
def Abandoned : Prop :=
  (env.fwName ∧ env.kzalloc ∧ env.halInit ∧ env.aeReset) ∧ (env.mmpFirmware ∧ env.uofFirmware) ∧
    ¬ env.noMimage ∧ env.badConfig

attribute [local simp] adfDevInit adfAeInit adfAeFwLoad adfAeFwRelease adfAeShutdown adfDevShutdown Abandoned
  LoadDevice.Released LoadDevice.fresh Resource.none Resource.take Resource.free Resource.clear

/-- **When everything is released.** -/
theorem released_iff : (env.adfDevShutdown (env.adfDevInit .fresh)).Released ↔ ¬ env.Abandoned := by
  -- one exit after the other, in the order of the source
  cases hname : env.fwName
  · simp [*]
  cases halloc : env.kzalloc
  · simp [*]
  cases hhal : env.halInit
  · simp [*]
  cases hreset : env.aeReset
  · simp [*]
  cases hmmp : env.mmpFirmware
  · simp [*]
  cases huof : env.uofFirmware
  · simp [*]
  by_cases hwr : env.noMimage
  · simp [*]
  by_cases hbad : env.badConfig
  · simp [*]
  cases hmof : env.mapMof <;> cases hobj : env.mapObj <;> cases hall : env.wrAllUimage <;> simp [*]

/-- **A value that is not a number** keeps both images. -/
theorem storage_value_keeps_images : ∃ env : LoadEnv, env.storage = some none ∧
    let d := env.adfDevShutdown (env.adfDevInit .fresh)
    (d.mmpFw.taken, d.mmpFw.released, d.uofFw.taken, d.uofFw.released) = (1, 0, 1, 0) :=
  ⟨⟨true, true, true, true, true, true, true, true, some none, false, none, true, true, true, true⟩, rfl, rfl⟩

end LoadEnv

end QuickAssist.Firmware
