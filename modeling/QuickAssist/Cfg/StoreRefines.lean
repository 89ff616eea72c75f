import QuickAssist.Cfg.Store

/-!
# The configuration of a device is a finite map

**What is settled here.** `store_refines_map`: every operation does to the map that the store stands for what it
should and returns the error that it should, every key occurs once, and saving a section, deleting everything and
restoring it gives the section back.

**The defect.** `adf_cfg_add_key_value_param` replaces the value of a key that is already there.
`adf_cfg_restore_key_value_param` adds the key once more; the search then finds the old value and the removal takes
out the new one (`restored_key_hides_value`). So a section may only be restored where none of its keys is left; and
since one that cannot be restored in full is deleted, also what was there before, only where there is none or there is
memory for all of it.
-/

namespace QuickAssist.Cfg.Store

open Lib Function Option List

variable {secs secs' : List Section} {sec : Section} {name key : Text} {s : State} {params : List KeyVal}
  {f : Section → Section} {alloc : ℕ → Bool} {err : Option Err} {var : ℕ}

/-! ## One section -/

lemma contentsOf_append {kv : KeyVal} (h : keyValueFind params kv.keyText = none) :
    contentsOf (params ++ [kv]) = update (contentsOf params) kv.keyText (some kv.val) := by
  unfold contentsOf keyValueFind
  rw [Assoc.find_append_singleton h]
  exact comp_update (Option.map KeyVal.val) _ _ _

lemma contentsOf_removeLast (h : Assoc.Unique KeyVal.keyText params) :
    contentsOf (Assoc.removeLast KeyVal.keyText key params) = update (contentsOf params) key none := by
  unfold contentsOf keyValueFind
  rw [h.removeLast_eq, Assoc.find_filter]
  exact comp_update (Option.map KeyVal.val) _ _ _

lemma contentsOf_append_list {params params' : List KeyVal}
    (h : ∀ kv ∈ params', keyValueFind params kv.keyText = none) :
    contentsOf (params ++ params') = fun k => (contentsOf params' k).or (contentsOf params k) := by
  funext k
  unfold contentsOf keyValueFind
  rw [Assoc.find_append]
  cases hnew : Assoc.find KeyVal.keyText params' k with
  | none => simp only [or_none, map_none, none_or]
  | some kv =>
    have hold := h kv (Assoc.mem_of_find hnew)
    rw [Assoc.key_of_find hnew] at hold
    unfold keyValueFind at hold
    simp [hold]

/-! ## The list of sections -/

abbrev Section.Unique (sec : Section) : Prop := Assoc.Unique KeyVal.keyText sec.params

structure ListOk (secs : List Section) : Prop where
  names : Assoc.Unique Section.nameText secs
  keys : ∀ sec ∈ secs, sec.Unique

lemma sectionsOf_updateSec (hf : ∀ sec, (f sec).nameText = sec.nameText) (hsec : secFind secs name = some sec) :
    sectionsOf (updateSec name f secs) = update (sectionsOf secs) name (some (contentsOf (f sec).params)) := by
  unfold secFind at hsec
  unfold sectionsOf secFind updateSec
  rw [Assoc.find_modifyFirst hf, hsec]
  exact comp_update (Option.map fun sec : Section => contentsOf sec.params) _ _ _

lemma ListOk.updateSec (hok : ListOk secs)
    (hf : ∀ sec, (f sec).nameText = sec.nameText) (hsec : secFind secs name = some sec)
    (hkeys : (f sec).Unique) : ListOk (updateSec name f secs) := by
  constructor
  · exact hok.names.modifyFirst hf
  · intro sec' hmem
    rcases Assoc.mem_modifyFirst hmem with hold | ⟨sec'', hfind, rfl⟩
    · exact hok.keys sec' hold
    · obtain rfl := Option.some.inj (hsec.symm.trans hfind)
      exact hkeys

lemma updateSec_updateSec {f g : Section → Section} (hf : ∀ sec, (f sec).nameText = sec.nameText) :
    updateSec name g (updateSec name f secs) = updateSec name (g ∘ f) secs :=
  Assoc.modifyFirst_modifyFirst hf

lemma sectionsOf_append (h : secFind secs sec.nameText = none) :
    sectionsOf (secs ++ [sec]) = update (sectionsOf secs) sec.nameText (some (contentsOf sec.params)) := by
  unfold sectionsOf secFind
  rw [Assoc.find_append_singleton h]
  exact comp_update (Option.map fun sec : Section => contentsOf sec.params) _ _ _

lemma ListOk.append (hok : ListOk secs) (h : secFind secs sec.nameText = none)
    (hkeys : sec.Unique) : ListOk (secs ++ [sec]) := by
  constructor
  · exact hok.names.append_singleton h
  · intro sec' hmem
    rcases mem_append.mp hmem with hmem | hmem
    · exact hok.keys sec' hmem
    · rw [mem_singleton.mp hmem]
      exact hkeys

lemma sectionsOf_sectionDel (hok : ListOk secs) :
    sectionsOf (sectionDel name secs) = update (sectionsOf secs) name none := by
  unfold sectionsOf secFind sectionDel
  rw [hok.names.removeFirst_eq, Assoc.find_filter]
  exact comp_update (Option.map fun sec : Section => contentsOf sec.params) _ _ _

lemma ListOk.sectionDel (hok : ListOk secs) : ListOk (sectionDel name secs) := by
  unfold Store.sectionDel
  rw [hok.names.removeFirst_eq]
  exact ⟨hok.names.filter, fun sec hsec => hok.keys sec (mem_of_mem_filter hsec)⟩

/-! ## The operations -/

structure StoreInv (s : State) : Prop where
  list : ListOk s.secList
  saved : ∀ var sec, s.saved var = some sec → sec.Unique

lemma abs_sections_of_some (hsec : secFind s.secList name = some sec) :
    s.abs.sections name = some (contentsOf sec.params) :=
  congrArg (Option.map fun sec : Section => contentsOf sec.params) hsec

lemma abs_sections_of_none (hsec : secFind s.secList name = none) : s.abs.sections name = none :=
  congrArg (Option.map fun sec : Section => contentsOf sec.params) hsec

lemma abs_contents (hsec : secFind s.secList name = some sec) : s.abs.contents name = contentsOf sec.params := by
  unfold MapState.contents
  rw [abs_sections_of_some hsec]
  rfl

lemma abs_setSection {c : Option Contents} (h : sectionsOf secs = update (sectionsOf s.secList) name c) :
    State.abs { s with secList := secs } = s.abs.setSection name c := by
  unfold State.abs MapState.setSection
  rw [h]

structure Simulates (s : State) (e : Event) (s' : State) : Prop where
  inv : StoreInv s'
  map : MapStep s.abs e s'.abs

lemma setSection_self (hsec : secFind s.secList name = some sec) :
    s.abs.setSection name (some (contentsOf sec.params)) = s.abs := by
  unfold MapState.setSection
  rw [← abs_sections_of_some hsec, update_eq_self]

lemma keyvalRemove_spec (key : Text) (hok : ListOk secs) (hsec : secFind secs name = some sec) :
    (keyvalRemove key sec).Unique ∧
      contentsOf (keyvalRemove key sec).params = update (contentsOf sec.params) key none := by
  have hunique := hok.keys sec (Assoc.mem_of_find hsec)
  refine ⟨?_, contentsOf_removeLast hunique⟩
  unfold keyvalRemove
  rw [hunique.removeLast_eq]
  exact hunique.filter

lemma keyvalAdd_spec (kv : KeyVal) (hunique : sec.Unique) (hnew : keyValueFind sec.params kv.keyText = none) :
    (keyvalAdd kv sec).Unique ∧
      contentsOf (keyvalAdd kv sec).params = update (contentsOf sec.params) kv.keyText (some kv.val) :=
  ⟨hunique.append_singleton hnew, contentsOf_append hnew⟩

lemma keyValueFind_eq_none : keyValueFind params key = none ↔ contentsOf params key = none := map_eq_none_iff.symm

lemma keyValGet_of_some (hsec : secFind secs name = some sec) :
    keyValGet secs name key = contentsOf sec.params key := by
  unfold keyValGet
  rw [hsec]
  rfl

lemma abs_setSaved : State.abs { s with saved := update s.saved var (some sec) } = { s.abs with
        saved := update s.abs.saved var (some (sec.nameText, contentsOf sec.params)) } := by
  unfold State.abs
  congr 1
  exact comp_update (Option.map fun sec : Section => (sec.nameText, contentsOf sec.params)) _ _ _

lemma step_saveSection (hsec : secFind s.secList name = some sec) : step (.saveSection name var) alloc s =
      if (List.range sec.params.length).all alloc then
        ({ s with saved := update s.saved var (some sec) }, none)
      else
        ({ s with saved := update s.saved var (some ⟨sec.name, []⟩) }, some .noMem) := by
  obtain rfl : sec.nameText = name := Assoc.key_of_find hsec
  unfold step saveSection
  dsimp only
  rw [hsec]
  dsimp only
  rw [show strlcpy sec.nameText = sec.name from strlcpy_val sec.name]
  split_ifs <;> rfl

section

variable (hinv : StoreInv s)

include hinv

lemma error_of_none {op : Op} (h : s.abs.error op = some .fault) : Simulates s ⟨op, alloc, some .fault⟩ s :=
  ⟨hinv, .refused .fault h rfl rfl⟩

/-- The value of one key changes. -/
lemma Simulates.setValue {op : Op} {val : Option Buffer}
    (hf : ∀ sec, (f sec).nameText = sec.nameText) (hsec : secFind s.secList name = some sec) (hkeys : (f sec).Unique)
    (hcontents : contentsOf (f sec).params = update (contentsOf sec.params) key val)
    (herror : s.abs.error op = none) (hupdate : s.abs.update op = s.abs.setValue name key val) :
    Simulates s ⟨op, alloc, none⟩ { s with secList := updateSec name f s.secList } := by
  refine ⟨⟨hinv.list.updateSec hf hsec hkeys, hinv.saved⟩, .done herror rfl ?_⟩
  rw [hupdate, MapState.setValue, abs_sections_of_some hsec, map_some, ← hcontents]
  exact abs_setSection (sectionsOf_updateSec hf hsec)

lemma sectionAdd_simulates (hname : name.length < maxStrLen) :
    Simulates s ⟨.sectionAdd name, alloc, (sectionAdd (alloc 0) name s.secList).2⟩
      { s with secList := (sectionAdd (alloc 0) name s.secList).1 } := by
  unfold sectionAdd
  split
  next sec hsec =>
    refine ⟨hinv, .done rfl rfl ?_⟩
    simp only [MapState.update]
    rw [abs_contents hsec, setSection_self hsec]
  next hsec =>
    split_ifs with halloc
    · exact ⟨hinv, .noMem (by simp [MapState.error]) rfl rfl rfl⟩
    · rw [strlcpy_of_lt hname]
      have hnone : secFind s.secList (Section.nameText ⟨⟨name, hname⟩, []⟩) = none := hsec
      refine ⟨⟨hinv.list.append hnone nodup_nil, hinv.saved⟩, .done rfl rfl ?_⟩
      simp only [MapState.update]
      unfold MapState.contents
      rw [abs_sections_of_none hsec]
      exact abs_setSection (sectionsOf_append hnone)

lemma removeKeyParam_simulates : Simulates s ⟨.removeKeyParam name key, alloc, (removeKeyParam name key s.secList).2⟩
      { s with secList := (removeKeyParam name key s.secList).1 } := by
  unfold removeKeyParam
  split
  next hsec => exact error_of_none hinv (by simp [MapState.error, abs_sections_of_none hsec])
  next sec hsec =>
    obtain ⟨hunique, hcontents⟩ := keyvalRemove_spec key hinv.list hsec
    exact .setValue hinv (fun _ => rfl) hsec hunique hcontents
      (by simp [MapState.error, abs_sections_of_some hsec]) rfl

lemma addKeyValueParam_simulates {val : Value} (hkey : key.length < maxStrLen) :
    Simulates s ⟨.addKeyValueParam name key val, alloc, (addKeyValueParam (alloc 0) name key val s.secList).2⟩
      { s with secList := (addKeyValueParam (alloc 0) name key val s.secList).1 } := by
  unfold addKeyValueParam
  split
  next hsec => exact error_of_none hinv (by simp [MapState.error, abs_sections_of_none hsec])
  next sec hsec =>
    have herror : s.abs.error (.addKeyValueParam name key val) =
        if val.format.isNone then some .unknownType else none := by
      simp [MapState.error, abs_sections_of_some hsec]
    split_ifs with halloc
    · refine ⟨hinv, .noMem ?_ rfl rfl rfl⟩
      rw [herror]
      split_ifs <;> simp
    · split
      next hformat =>
        refine ⟨hinv, .refused .unknownType ?_ rfl rfl⟩
        rw [herror, hformat]
        rfl
      next text type hformat =>
        have hdone : s.abs.error (.addKeyValueParam name key val) = none := by
          rw [herror, hformat]
          rfl
        have hupdate : s.abs.update (.addKeyValueParam name key val) = s.abs.setValue name key (some text) := by
          simp [MapState.update, hformat]
        rw [strlcpy_of_lt hkey, keyValGet_of_some hsec]
        have hunique := hinv.list.keys sec (Assoc.mem_of_find hsec)
        split
        next tempVal hval =>
          split_ifs with hne
          · -- another value: the old one is taken out first
            obtain ⟨hremoved, hcontents⟩ := keyvalRemove_spec key hinv.list hsec
            obtain ⟨hadded, hcontents'⟩ := keyvalAdd_spec ⟨⟨key, hkey⟩, text, type⟩ hremoved
              (keyValueFind_eq_none.mpr (hcontents ▸ update_self _ _ _))
            dsimp only
            rw [updateSec_updateSec (f := keyvalRemove key) fun _ => rfl]
            refine .setValue hinv (fun _ => rfl) hsec hadded ?_ hdone hupdate
            rw [comp_apply, hcontents', hcontents]
            exact update_idem _ _ _
          · -- the same value
            refine ⟨hinv, .done hdone rfl ?_⟩
            rw [hupdate, MapState.setValue, abs_sections_of_some hsec, map_some,
              ← not_not.mp hne, ← hval, update_eq_self, setSection_self hsec]
        next hval =>
          obtain ⟨hadded, hcontents⟩ := keyvalAdd_spec ⟨⟨key, hkey⟩, text, type⟩ hunique
            (keyValueFind_eq_none.mpr hval)
          exact .setValue hinv (fun _ => rfl) hsec hadded hcontents hdone hupdate

lemma sectionDel_simulates :
    Simulates s ⟨.sectionDel name, alloc, none⟩ { s with secList := sectionDel name s.secList } :=
  ⟨⟨hinv.list.sectionDel, hinv.saved⟩, .done rfl rfl (abs_setSection (sectionsOf_sectionDel hinv.list))⟩

lemma delAll_simulates : Simulates s ⟨.delAll, alloc, none⟩ { s with secList := [] } := by
  exact ⟨⟨⟨nodup_nil, nofun⟩, hinv.saved⟩, .done rfl rfl rfl⟩

lemma StoreInv.setSaved (hunique : sec.Unique) : StoreInv { s with saved := update s.saved var (some sec) } := by
  refine ⟨hinv.list, ?_⟩
  apply (forall_update_iff s.saved fun _ o => ∀ sec', o = some sec' → sec'.Unique).mpr
  refine ⟨?_, fun var' _ => hinv.saved var'⟩
  rintro _ ⟨⟩
  exact hunique

lemma saveSection_simulates : Simulates s ⟨.saveSection name var, alloc, (step (.saveSection name var) alloc s).2⟩
      (step (.saveSection name var) alloc s).1 := by
  cases hsec : secFind s.secList name with
  | none =>
    simp only [step, saveSection, hsec]
    exact error_of_none hinv (by simp [MapState.error, abs_sections_of_none hsec])
  | some sec =>
    rw [step_saveSection hsec]
    obtain rfl : sec.nameText = name := Assoc.key_of_find hsec
    have herror : s.abs.error (.saveSection sec.nameText var) = none := by
      simp [MapState.error, abs_sections_of_some hsec]
    split_ifs with halloc
    · refine ⟨hinv.setSaved (hinv.list.keys sec (Assoc.mem_of_find hsec)), .done herror rfl ?_⟩
      rw [abs_setSaved]
      simp only [MapState.update, abs_contents hsec]
    · exact ⟨hinv.setSaved nodup_nil, .noMem (by simp [herror]) rfl rfl abs_setSaved⟩

lemma restoreKeyValueParam_simulates {val : Text} {type : ValType}
    (hkey : key.length < maxStrLen) (hnew : keyValGet s.secList name key = none) :
    Simulates s ⟨.restoreKeyValueParam name key val type, alloc,
      (restoreKeyValueParam (alloc 0) name key val type s.secList).2⟩
      { s with secList := (restoreKeyValueParam (alloc 0) name key val type s.secList).1 } := by
  unfold restoreKeyValueParam
  split
  next hsec => exact error_of_none hinv (by simp [MapState.error, abs_sections_of_none hsec])
  next sec hsec =>
    have herror : s.abs.error (.restoreKeyValueParam name key val type) = none := by
      simp [MapState.error, abs_sections_of_some hsec]
    split_ifs with halloc
    · exact ⟨hinv, .noMem (by simp [herror]) rfl rfl rfl⟩
    · rw [keyValGet_of_some hsec] at hnew
      obtain ⟨hadded, hcontents⟩ := keyvalAdd_spec ⟨⟨key, hkey⟩, strlcpy val, type⟩
        (hinv.list.keys sec (Assoc.mem_of_find hsec)) (keyValueFind_eq_none.mpr hnew)
      rw [strlcpy_of_lt hkey]
      exact .setValue hinv (fun _ => rfl) hsec hadded hcontents herror rfl

end

/-! ## Restoring a section -/

def addAll (kvs : List KeyVal) (sec : Section) : Section := { sec with params := sec.params ++ kvs }

lemma secFind_updateSec (hf : ∀ sec, (f sec).nameText = sec.nameText)
    (hsec : secFind secs name = some sec) : secFind (updateSec name f secs) name = some (f sec) := by
  unfold secFind at hsec ⊢
  unfold updateSec
  rw [Assoc.find_modifyFirst hf, update_self, hsec, map_some]

lemma secFind_append (hsec : secFind secs sec.nameText = none) :
    secFind (secs ++ [⟨sec.name, []⟩]) sec.nameText = some ⟨sec.name, []⟩ := by
  unfold secFind at hsec ⊢
  rw [Assoc.find_append, hsec, Assoc.find_cons]
  exact if_pos rfl

lemma restoreLoop_spec {kvs : List KeyVal} {i : ℕ} (hsec : secFind secs name = some sec)
    (h : restoreLoop alloc name i kvs secs = (secs', err)) : (err = none ∧ secs' = updateSec name (addAll kvs) secs) ∨
      (err = some .noMem ∧ (∃ j < kvs.length, alloc (i + j) = false) ∧
        ∃ n, secs' = updateSec name (addAll (kvs.take n)) secs) := by
  have hnothing : ∀ secs : List Section, updateSec name (addAll []) secs = secs := by
    intro secs
    rw [show addAll [] = id by funext sec; simp [addAll]]
    exact Assoc.modifyFirst_id
  induction kvs generalizing i secs sec with
  | nil =>
    obtain ⟨rfl, rfl⟩ := Prod.mk.inj h
    exact Or.inl ⟨rfl, (hnothing secs).symm⟩
  | cons kv kvs ih =>
    simp only [restoreLoop, restoreKeyValueParam, hsec, strlcpy_val] at h
    cases halloc : alloc i with
    | false =>
      simp only [halloc, Bool.not_false, if_true] at h
      obtain ⟨rfl, rfl⟩ := Prod.mk.inj h
      exact Or.inr ⟨rfl, ⟨0, Nat.succ_pos _, halloc⟩, 0, (hnothing secs).symm⟩
    | true =>
      simp only [halloc, Bool.not_true, Bool.false_eq_true, if_false] at h
      have hcons : ∀ kvs', updateSec name (addAll kvs') (updateSec name (keyvalAdd kv) secs) =
          updateSec name (addAll (kv :: kvs')) secs := by
        intro kvs'
        rw [updateSec_updateSec (f := keyvalAdd kv) fun _ => rfl]
        congr 1
        funext sec
        simp [addAll, keyvalAdd]
      rcases ih (secFind_updateSec (f := keyvalAdd kv) (fun _ => rfl) hsec) h with
        ⟨rfl, rfl⟩ | ⟨rfl, ⟨j, hj, hfail⟩, n, rfl⟩
      · exact Or.inl ⟨rfl, hcons kvs⟩
      · refine Or.inr ⟨rfl, ⟨j + 1, Nat.succ_lt_succ hj, ?_⟩, n + 1, hcons _⟩
        rwa [Nat.add_comm j 1, ← Nat.add_assoc]

/-- Where a section may be restored: there is none of its name, or one without any of its keys while
there is memory for all of them. -/
def Restorable (s : State) (alloc : ℕ → Bool) (sec : Section) : Prop :=
  secFind s.secList sec.nameText = none ∨ ((∀ kv ∈ sec.params, keyValGet s.secList sec.nameText kv.keyText = none) ∧
      ∀ i < sec.params.length, alloc (1 + i) = true)

lemma restoreSection_of_some {old : Section} (hsec : secFind secs sec.nameText = some old)
    (h : restoreSection alloc sec secs = (secs', err)) :
    (err = none ∧ secs' = updateSec sec.nameText (addAll sec.params) secs) ∨
      (err = some .noMem ∧ (∃ j < sec.params.length, alloc (1 + j) = false) ∧
        ∃ n, secs' = sectionDel sec.nameText (updateSec sec.nameText (addAll (sec.params.take n)) secs)) := by
  have hadd : sectionAdd (alloc 0) sec.name.1 secs = (secs, none) := by
    unfold sectionAdd
    rw [show secFind secs sec.name.1 = some old from hsec]
  unfold restoreSection at h
  rw [hadd] at h
  dsimp only at h
  split at h
  next secs₁ hloop =>
    cases h
    rcases restoreLoop_spec hsec hloop with ⟨-, heq⟩ | ⟨herr, -⟩
    · exact Or.inl ⟨rfl, heq⟩
    · cases herr
  next secs₁ e hloop =>
    cases h
    rcases restoreLoop_spec hsec hloop with ⟨herr, -⟩ | ⟨herr, hfail, n, rfl⟩
    · cases herr
    · exact Or.inr ⟨herr, hfail, n, rfl⟩

lemma restoreSection_of_none (hsec : secFind secs sec.nameText = none) : restoreSection alloc sec secs =
      if alloc 0 then restoreSection alloc sec (secs ++ [⟨sec.name, []⟩])
      else (secs, some .noMem) := by
  have hadd : sectionAdd (alloc 0) sec.name.1 secs =
      if !alloc 0 then (secs, some .noMem) else (secs ++ [⟨sec.name, []⟩], none) := by
    unfold sectionAdd
    rw [show secFind secs sec.name.1 = none from hsec, strlcpy_val]
  have hagain : sectionAdd (alloc 0) sec.name.1 (secs ++ [⟨sec.name, []⟩]) = (secs ++ [⟨sec.name, []⟩], none) := by
    unfold sectionAdd
    rw [show secFind (secs ++ [⟨sec.name, []⟩]) sec.name.1 = some ⟨sec.name, []⟩ from
      secFind_append hsec]
  unfold restoreSection
  rw [hadd, hagain]
  cases alloc 0 with
  | false | true => rfl

lemma restoreSection_simulates (hinv : StoreInv s) (hsaved : s.saved var = some sec)
    (hplace : Restorable s alloc sec) (h : restoreSection alloc sec s.secList = (secs', err)) :
    Simulates s ⟨.restoreSection var, alloc, err⟩ { s with secList := secs' } := by
  have hupdate : s.abs.update (.restoreSection var) = s.abs.setSection sec.nameText
      (some fun key => (contentsOf sec.params key).or (s.abs.contents sec.nameText key)) := by
    have habs : s.abs.saved var = some (sec.nameText, contentsOf sec.params) :=
      congrArg (Option.map fun sec : Section => (sec.nameText, contentsOf sec.params)) hsaved
    simp only [MapState.update, habs]
  have hunique := hinv.saved var sec hsaved
  cases hsec : secFind s.secList sec.nameText with
  | some old =>
    obtain ⟨hnew, halloc⟩ := hplace.resolve_left (hsec ▸ some_ne_none old)
    have hnew : ∀ kv ∈ sec.params, keyValueFind old.params kv.keyText = none := by
      intro kv hkv
      rw [keyValueFind_eq_none, ← keyValGet_of_some hsec]
      exact hnew kv hkv
    rcases restoreSection_of_some hsec h with ⟨rfl, rfl⟩ | ⟨-, ⟨j, hj, hfail⟩, -⟩
    · have hadded : (addAll sec.params old).Unique :=
        (hinv.list.keys old (Assoc.mem_of_find hsec)).append hunique hnew
      refine ⟨⟨hinv.list.updateSec (fun _ => rfl) hsec hadded, hinv.saved⟩, .done rfl rfl ?_⟩
      rw [hupdate, abs_contents hsec, ← contentsOf_append_list hnew]
      exact abs_setSection (sectionsOf_updateSec (fun _ => rfl) hsec)
    · exact absurd (halloc j hj) (hfail ▸ Bool.false_ne_true)
  | none =>
    rw [restoreSection_of_none hsec] at h
    split_ifs at h with halloc
    · have hlist : ListOk (s.secList ++ [⟨sec.name, []⟩]) := hinv.list.append hsec nodup_nil
      have hsections : sectionsOf (s.secList ++ [⟨sec.name, []⟩]) =
          update (sectionsOf s.secList) sec.nameText (some (contentsOf [])) :=
        sectionsOf_append hsec
      have hfound := secFind_append hsec
      rcases restoreSection_of_some hfound h with ⟨rfl, rfl⟩ | ⟨rfl, -, n, rfl⟩
      · refine ⟨⟨hlist.updateSec (fun _ => rfl) hfound hunique, hinv.saved⟩, .done rfl rfl ?_⟩
        rw [hupdate]
        refine abs_setSection ?_
        rw [sectionsOf_updateSec (f := addAll _) (fun _ => rfl) hfound, hsections, update_idem]
        unfold MapState.contents
        simp only [abs_sections_of_none hsec, getD_none, or_none]
        rfl
      · -- the section is deleted again
        have htake : Assoc.Unique KeyVal.keyText (sec.params.take n) := hunique.sublist ((take_sublist n _).map _)
        have hlist' := hlist.updateSec (f := addAll (sec.params.take n)) (fun _ => rfl) hfound htake
        refine ⟨⟨hlist'.sectionDel, hinv.saved⟩, .noMem (some_ne_none _).symm rfl rfl ?_⟩
        have hsame : s.abs.setSection sec.nameText none = s.abs := by
          unfold MapState.setSection
          rw [← abs_sections_of_none hsec, update_eq_self]
        refine Eq.trans (abs_setSection ?_) hsame
        rw [sectionsOf_sectionDel hlist', sectionsOf_updateSec (f := addAll _) (fun _ => rfl) hfound,
          hsections, update_idem, update_idem]
    · cases h
      exact ⟨hinv, .noMem (some_ne_none _).symm rfl rfl rfl⟩

/-! ## Runs -/

/-- A step that is as it should be: new names fit, and nothing is restored over a key that is
there. -/
def Careful (s : State) (e : Event) : Prop :=
  match e.op with
  | .sectionAdd name => name.length < maxStrLen
  | .addKeyValueParam _ key _ => key.length < maxStrLen
  | .restoreSection var => ∀ sec, s.saved var = some sec → Restorable s e.alloc sec
  | .restoreKeyValueParam sec key _ _ => key.length < maxStrLen ∧ keyValGet s.secList sec key = none
  | _ => True

/-- **Every such step is one of the map.** -/
theorem storeStep_simulates {e : Event} {s' : State} (hinv : StoreInv s)
    (h : guarded Careful storeStep s e s') : StoreInv s' ∧ MapStep s.abs e s'.abs := by
  obtain ⟨hcareful, hstep⟩ := h
  obtain ⟨op, alloc, err⟩ := e
  obtain ⟨rfl, rfl⟩ : (step op alloc s).1 = s' ∧ (step op alloc s).2 = err := Prod.ext_iff.mp hstep
  have hsim : Simulates s ⟨op, alloc, (step op alloc s).2⟩ (step op alloc s).1 := by
    cases op with
    | sectionAdd name => exact sectionAdd_simulates hinv hcareful
    | addKeyValueParam sec key val => exact addKeyValueParam_simulates hinv hcareful
    | removeKeyParam sec key => exact removeKeyParam_simulates hinv
    | sectionDel name => exact sectionDel_simulates hinv
    | delAll => exact delAll_simulates hinv
    | saveSection name var => exact saveSection_simulates hinv
    | restoreSection var =>
      cases hsaved : s.saved var with
      | none =>
        simp only [step, hsaved]
        refine ⟨hinv, .done rfl rfl ?_⟩
        simp [MapState.update, State.abs, hsaved]
      | some sec =>
        simp only [step, hsaved]
        exact restoreSection_simulates hinv hsaved (hcareful sec hsaved) rfl
    | restoreKeyValueParam sec key val type => exact restoreKeyValueParam_simulates hinv hcareful.1 hcareful.2
  exact ⟨hsim.inv, hsim.map⟩

structure RoundTrip (s : State) (name : Text) (var : ℕ) (sec : Section) : Prop where
  possible : ∃ s', Run storeStep s
    [⟨.saveSection name var, fun _ => true, none⟩, ⟨.delAll, fun _ => true, none⟩,
      ⟨.restoreSection var, fun _ => true, none⟩] s'
  restored : ∀ alloc₁ alloc₂ alloc₃ s', Run storeStep s
    [⟨.saveSection name var, alloc₁, none⟩, ⟨.delAll, alloc₂, none⟩,
      ⟨.restoreSection var, alloc₃, none⟩] s' → s'.secList = [sec]

lemma restoreSection_nil (h : restoreSection alloc sec [] = (secs', err)) :
    (err = none ∧ secs' = [sec]) ∨ (err = some .noMem ∧ ∃ i, alloc i = false) := by
  rw [restoreSection_of_none rfl] at h
  split_ifs at h with halloc
  · rcases restoreSection_of_some (secFind_append rfl) h with ⟨rfl, rfl⟩ | ⟨rfl, ⟨j, -, hj⟩, -⟩
    · refine Or.inl ⟨rfl, ?_⟩
      exact if_pos rfl
    · exact Or.inr ⟨rfl, 1 + j, hj⟩
  · cases h
    exact Or.inr ⟨rfl, 0, Bool.not_eq_true _ ▸ halloc⟩

lemma roundTrip_of_secFind (hsec : secFind s.secList name = some sec) (var : ℕ) : RoundTrip s name var sec := by
  constructor
  · have hsave : step (.saveSection name var) (fun _ => true) s =
        ({ s with saved := update s.saved var (some sec) }, none) := by
      rw [step_saveSection hsec, if_pos (all_eq_true.mpr fun _ _ => rfl)]
    rcases hrestore : restoreSection (fun _ => true) sec [] with ⟨secs', err⟩
    rcases restoreSection_nil hrestore with ⟨rfl, -⟩ | ⟨-, i, hi⟩
    · refine ⟨⟨secs', update s.saved var (some sec)⟩, .cons hsave (.cons rfl (.single ?_))⟩
      simp [storeStep, step, hrestore]
    · exact absurd hi.symm Bool.false_ne_true
  · intro alloc₁ alloc₂ alloc₃ s' hrun
    cases hrun with
    | cons hsave hrun =>
    cases hrun with
    | cons hdel hrun =>
    cases hrun with
    | cons hrestore hrun =>
    cases hrun
    unfold storeStep at hsave
    rw [step_saveSection hsec] at hsave
    split_ifs at hsave
    · cases hsave
      cases hdel
      simp only [storeStep, step, update_self] at hrestore
      obtain ⟨rfl, herr⟩ := Prod.mk.inj hrestore
      rcases restoreSection_nil rfl with ⟨-, hsecs⟩ | ⟨hnomem, -⟩
      · exact hsecs
      · exact absurd (hnomem.symm.trans herr) (some_ne_none _)
    · exact absurd (Prod.mk.inj hsave).2 (some_ne_none _)

structure RefinesMap (events : List Event) (s : State) : Prop where
  /-- The same operations, with the same results, lead to the map that the store stands for. -/
  run : Run MapStep MapState.empty events s.abs
  found : ∀ sec key, getParamValue s sec key = s.abs.lookup sec key
  once : ListOk s.secList
  roundTrip : ∀ name var sec, secFind s.secList name = some sec → RoundTrip s name var sec

/-- **The store refines a finite map**, in every run in which new names fit and nothing is restored
over a key that is there. -/
theorem store_refines_map {events : List Event}
    (h : Run (guarded Careful storeStep) State.init events s) : RefinesMap events s := by
  have hinit : StoreInv State.init := by
    refine ⟨⟨nodup_nil, nofun⟩, nofun⟩
  have hstep : ∀ s e s', StoreInv s → guarded Careful storeStep s e s' →
      StoreInv s' ∧ MapStep s.abs e s'.abs := fun _ _ _ hinv h => storeStep_simulates hinv h
  obtain ⟨hinv, hrun⟩ := h.simulation hstep hinit
  exact ⟨hrun, getParamValue_eq_lookup s, hinv.list, fun _ var _ hsec => roundTrip_of_secFind hsec var⟩

/-- For instance: a section gets a key, the key another value, and the section is saved, deleted and
restored. -/
theorem saved_section_restored : ∃ (events : List Event) (s : State),
      events.length = 6 ∧ getParamValue s ['G'] ['k'] = some (strlcpy ['0', 'x', '1', 'f']) ∧
      RefinesMap events s := by
  have hfits : 1 < maxStrLen := by decide
  have hrun : Run (guarded Careful storeStep) State.init [⟨.sectionAdd ['G'], fun _ => true, none⟩,
      ⟨.addKeyValueParam ['G'] ['k'] (.dec 31), fun _ => true, none⟩,
      ⟨.addKeyValueParam ['G'] ['k'] (.hex 31), fun _ => true, none⟩, ⟨.saveSection ['G'] 0, fun _ => true, none⟩,
      ⟨.delAll, fun _ => true, none⟩, ⟨.restoreSection 0, fun _ => true, none⟩] _ :=
    .cons ⟨hfits, rfl⟩ (.cons ⟨hfits, rfl⟩ (.cons ⟨hfits, rfl⟩
      (.cons ⟨trivial, rfl⟩ (.cons ⟨trivial, rfl⟩ (.single ⟨fun _ _ => Or.inl rfl, rfl⟩)))))
  exact ⟨_, _, rfl, rfl, store_refines_map hrun⟩

/-- **A restored key hides the values that are added later:** they take the place of its second copy, but the
first one is found. -/
theorem restored_key_hides_value : ∃ (events : List Event) (s : State), Run storeStep State.init events s ∧
      events.getLast? = some ⟨.addKeyValueParam ['G'] ['k'] (.dec 2), fun _ => true, none⟩ ∧
      getParamValue s ['G'] ['k'] = some (strlcpy ['1']) ∧ ¬ RefinesMap events s := by
  have hrun : Run storeStep State.init [⟨.sectionAdd ['G'], fun _ => true, none⟩,
      ⟨.addKeyValueParam ['G'] ['k'] (.dec 1), fun _ => true, none⟩, ⟨.saveSection ['G'] 0, fun _ => true, none⟩,
      ⟨.restoreSection 0, fun _ => true, none⟩, ⟨.addKeyValueParam ['G'] ['k'] (.dec 2), fun _ => true, none⟩] _ :=
    .cons rfl (.cons rfl (.cons rfl (.cons rfl (.single rfl))))
  refine ⟨_, _, hrun, rfl, rfl, ?_⟩
  intro hmap
  have hkeys := hmap.once.keys _ mem_cons_self
  exact absurd hkeys (by decide)

end QuickAssist.Cfg.Store
