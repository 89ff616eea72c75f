import QuickAssist.Cfg.RingPairs
import QuickAssist.Lib.Assoc
import QuickAssist.Lib.Run
import QuickAssist.Lib.Words

/-!
# The configuration of a device

The driver keeps the configuration as a list of sections, each with a list of keys and values, all of them texts in
buffers of a fixed size. A section can be saved in a variable of the caller and restored from it, which is done around
a restart of the device that deletes the configuration. Over the functions there is the finite map that the store is
meant to be: `MapStep` are its operations, `State.abs` is the map that a store stands for.
-/

namespace QuickAssist.Cfg.Store

open Lib

/-! ## Texts and values -/

abbrev Text := List Char

/-- What an array of `ADF_CFG_MAX_STR_LEN` characters holds. -/
def Buffer := { t : Text // t.length < maxStrLen }
  deriving DecidableEq

/-- A text is cut to the size of an array. Source: `strlcpy` and `snprintf`. -/
def strlcpy (t : Text) : Buffer := ⟨t.take (maxStrLen - 1), (List.length_take_le _ _).trans_lt (by decide)⟩

lemma strlcpy_of_lt {t : Text} (h : t.length < maxStrLen) : strlcpy t = ⟨t, h⟩ :=
  Subtype.ext (List.take_of_length_le (Nat.le_pred_of_lt h))

@[simp] lemma strlcpy_val (b : Buffer) : strlcpy b.1 = b := strlcpy_of_lt b.2

/-- `enum adf_cfg_val_type` -/
inductive ValType
  | dec
  | hex
  | str

/-- `val` and `type` of a value that is to be added -/
inductive Value
  | dec (n : U64)
  | hex (n : U64)
  | str (t : Text)
  | unknown

/-- The format `%ld`. -/
def decText (n : U64) : Text := if n.toInt < 0 then '-' :: Nat.toDigits 10 n.toInt.natAbs else Nat.toDigits 10 n.toNat

/-- The format `0x%lx`. -/
def hexText (n : U64) : Text := '0' :: 'x' :: Nat.toDigits 16 n.toNat

def Value.format : Value → Option (Buffer × ValType)
  | .dec n => some (strlcpy (decText n), .dec)
  | .str t => some (strlcpy t, .str)
  | .hex n => some (strlcpy (hexText n), .hex)
  | .unknown => none

/-! ## The store -/

/-- `struct adf_cfg_key_val` -/
structure KeyVal where
  key : Buffer
  val : Buffer
  type : ValType

/-- `struct adf_cfg_section`, without the marks of `adf_config_device` -/
structure Section where
  name : Buffer
  params : List KeyVal

inductive Err
  | fault
  | noMem
  /-- `-1`: the type of a value is not known. -/
  | unknownType

def KeyVal.keyText (kv : KeyVal) : Text := kv.key.1

def Section.nameText (sec : Section) : Text := sec.name.1

def keyValueFind (params : List KeyVal) (key : Text) : Option KeyVal := Assoc.find KeyVal.keyText params key

def secFind (secs : List Section) (name : Text) : Option Section := Assoc.find Section.nameText secs name

def keyValGet (secs : List Section) (secName keyName : Text) : Option Buffer :=
  (secFind secs secName).bind fun sec => (keyValueFind sec.params keyName).map KeyVal.val

def keyvalAdd (new : KeyVal) (sec : Section) : Section := { sec with params := sec.params ++ [new] }

def keyvalRemove (key : Text) (sec : Section) : Section :=
  { sec with params := Assoc.removeLast KeyVal.keyText key sec.params }

def updateSec (name : Text) (f : Section → Section) (secs : List Section) : List Section :=
  Assoc.modifyFirst Section.nameText name f secs

/-- Source: `adf_cfg_add_key_value_param`. `alloc` says whether there is memory. -/
def addKeyValueParam (alloc : Bool) (sectionName key : Text) (val : Value) (secs : List Section) :
    List Section × Option Err :=
  match secFind secs sectionName with
  | none => (secs, some .fault)
  | some _ =>
    if !alloc then (secs, some .noMem)
    else match val.format with
      | none => (secs, some .unknownType)
      | some (text, type) =>
        let keyVal : KeyVal := ⟨strlcpy key, text, type⟩
        match keyValGet secs sectionName key with
        | some tempVal =>
          if tempVal ≠ text then
            (updateSec sectionName (keyvalAdd keyVal) (updateSec sectionName (keyvalRemove key) secs), none)
          else (secs, none)
        | none => (updateSec sectionName (keyvalAdd keyVal) secs, none)

def removeKeyParam (sectionName key : Text) (secs : List Section) : List Section × Option Err :=
  match secFind secs sectionName with
  | none => (secs, some .fault)
  | some _ => (updateSec sectionName (keyvalRemove key) secs, none)

def sectionAdd (alloc : Bool) (name : Text) (secs : List Section) : List Section × Option Err :=
  match secFind secs name with
  | some _ => (secs, none)
  | none => if !alloc then (secs, some .noMem) else (secs ++ [⟨strlcpy name, []⟩], none)

def sectionDel (name : Text) (secs : List Section) : List Section := Assoc.removeFirst Section.nameText name secs

/-! ## Saving and restoring -/

def restoreKeyValueParam (alloc : Bool) (sectionName key val : Text) (type : ValType)
    (secs : List Section) : List Section × Option Err :=
  match secFind secs sectionName with
  | none => (secs, some .fault)
  | some _ =>
    if !alloc then (secs, some .noMem)
    else (updateSec sectionName (keyvalAdd ⟨strlcpy key, strlcpy val, type⟩) secs, none)

/-- The variable of the caller afterwards, if it was written, and the error. `alloc` says which
allocations succeed. -/
def saveSection (alloc : ℕ → Bool) (name : Text) (secs : List Section) : Option Section × Option Err :=
  match secFind secs name with
  | none => (none, some .fault)
  | some sec =>
    if (List.range sec.params.length).all alloc then (some ⟨strlcpy name, sec.params⟩, none)
    -- the copies that were made are deleted
    else (some ⟨strlcpy name, []⟩, some .noMem)

/-- The loop of `adf_cfg_restore_section`; the first argument counts the allocations. -/
def restoreLoop (alloc : ℕ → Bool) (name : Text) : ℕ → List KeyVal → List Section → List Section × Option Err
  | _, [], secs => (secs, none)
  | i, kv :: kvs, secs =>
    match restoreKeyValueParam (alloc i) name kv.key.1 kv.val.1 kv.type secs with
    | (secs, none) => restoreLoop alloc name (i + 1) kvs secs
    | (secs, some err) => (secs, some err)

def restoreSection (alloc : ℕ → Bool) (sec : Section) (secs : List Section) : List Section × Option Err :=
  match sectionAdd (alloc 0) sec.name.1 secs with
  | (secs, some err) => (secs, some err)
  | (secs, none) =>
    match restoreLoop alloc sec.name.1 1 sec.params secs with
    | (secs, none) => (secs, none)
    | (secs, some err) => (sectionDel sec.name.1 secs, some err)

/-! ## Runs -/

inductive Op
  | sectionAdd (name : Text)
  | addKeyValueParam (sectionName key : Text) (val : Value)
  | removeKeyParam (sectionName key : Text)
  | sectionDel (name : Text)
  | delAll
  /-- `adf_cfg_save_section`, into a variable of the caller -/
  | saveSection (name : Text) (var : ℕ)
  /-- `adf_cfg_restore_section`, from a variable of the caller -/
  | restoreSection (var : ℕ)
  | restoreKeyValueParam (sectionName key val : Text) (type : ValType)

structure State where
  secList : List Section
  saved : ℕ → Option Section

/-- No section, and nothing saved. Source: `adf_cfg_dev_add`. -/
def State.init : State := ⟨[], fun _ => none⟩

def getParamValue (s : State) (sec name : Text) : Option Buffer := keyValGet s.secList sec name

/-- An operation, with what it returns. `alloc` says which of its allocations succeed. -/
def step (op : Op) (alloc : ℕ → Bool) (s : State) : State × Option Err :=
  let withList : List Section × Option Err → State × Option Err := fun r => ({ s with secList := r.1 }, r.2)
  match op with
  | .sectionAdd name => withList (sectionAdd (alloc 0) name s.secList)
  | .addKeyValueParam sec key val => withList (addKeyValueParam (alloc 0) sec key val s.secList)
  | .removeKeyParam sec key => withList (removeKeyParam sec key s.secList)
  | .sectionDel name => withList (sectionDel name s.secList, none)
  | .delAll => withList ([], none)
  | .saveSection name var =>
    match saveSection alloc name s.secList with
    | (none, err) => (s, err)
    | (some sec, err) => ({ s with saved := Function.update s.saved var (some sec) }, err)
  | .restoreSection var =>
    match s.saved var with
    -- callers restore what they have saved
    | none => (s, none)
    | some sec => withList (restoreSection alloc sec s.secList)
  | .restoreKeyValueParam sec key val type => withList (restoreKeyValueParam (alloc 0) sec key val type s.secList)

structure Event where
  op : Op
  alloc : ℕ → Bool
  result : Option Err

def storeStep (s : State) (e : Event) (s' : State) : Prop := step e.op e.alloc s = (s', e.result)

/-! ## The map -/

abbrev Contents := Text → Option Buffer

structure MapState where
  sections : Text → Option Contents
  saved : ℕ → Option (Text × Contents)

namespace MapState

def empty : MapState := ⟨fun _ => none, fun _ => none⟩

def lookup (m : MapState) (sec key : Text) : Option Buffer := (m.sections sec).bind fun c => c key

def setSection (m : MapState) (name : Text) (c : Option Contents) : MapState :=
  { m with sections := Function.update m.sections name c }

def setValue (m : MapState) (sec key : Text) (val : Option Buffer) : MapState :=
  m.setSection sec ((m.sections sec).map fun c => Function.update c key val)

def contents (m : MapState) (name : Text) : Contents := (m.sections name).getD fun _ => none

def error (m : MapState) : Op → Option Err
  | .sectionAdd _ => none
  | .addKeyValueParam sec _ val =>
    if (m.sections sec).isNone then some .fault
    else if val.format.isNone then some .unknownType else none
  | .removeKeyParam sec _ => if (m.sections sec).isNone then some .fault else none
  | .sectionDel _ => none
  | .delAll => none
  | .saveSection name _ => if (m.sections name).isNone then some .fault else none
  | .restoreSection _ => none
  | .restoreKeyValueParam sec _ _ _ => if (m.sections sec).isNone then some .fault else none

def update (m : MapState) : Op → MapState
  | .sectionAdd name => m.setSection name (some (m.contents name))
  | .addKeyValueParam sec key val => m.setValue sec key (val.format.map Prod.fst)
  | .removeKeyParam sec key => m.setValue sec key none
  | .sectionDel name => m.setSection name none
  | .delAll => { m with sections := fun _ => none }
  | .saveSection name var => { m with saved := Function.update m.saved var (some (name, m.contents name)) }
  | .restoreSection var =>
    match m.saved var with
    | none => m
    -- the values that were saved come after those that are there
    | some (name, c) => m.setSection name (some fun key => (c key).or (m.contents name key))
  | .restoreKeyValueParam sec key val _ => m.setValue sec key (some (strlcpy val))

def abandon (m : MapState) : Op → MapState
  | .saveSection name var => { m with saved := Function.update m.saved var (some (name, fun _ => none)) }
  | _ => m

end MapState

def Op.allocates : Op → Bool
  | .removeKeyParam _ _ => false
  | .sectionDel _ => false
  | .delAll => false
  | _ => true

inductive MapStep (m : MapState) (e : Event) (m' : MapState) : Prop
  | done (h : m.error e.op = none) (hresult : e.result = none) (hm : m' = m.update e.op)
  | refused (err : Err) (h : m.error e.op = some err) (hresult : e.result = some err) (hm : m' = m)
  | noMem (h : m.error e.op ≠ some .fault) (hop : e.op.allocates = true)
      (hresult : e.result = some .noMem) (hm : m' = m.abandon e.op)

/-! ## What the store stands for -/

def contentsOf (params : List KeyVal) : Contents := fun key => (keyValueFind params key).map KeyVal.val

def sectionsOf (secs : List Section) : Text → Option Contents := fun name =>
  (secFind secs name).map fun sec => contentsOf sec.params

def State.abs (s : State) : MapState where
  sections := sectionsOf s.secList
  saved := fun var => (s.saved var).map fun sec => (sec.nameText, contentsOf sec.params)

lemma getParamValue_eq_lookup (s : State) (sec key : Text) : getParamValue s sec key = s.abs.lookup sec key := by
  unfold getParamValue keyValGet MapState.lookup State.abs sectionsOf
  rw [Option.bind_map]
  rfl

end QuickAssist.Cfg.Store
