import Mathlib.Data.List.Nodup
import PgAdapt.Proofs.Catalogue.Builtin

/-!
# Registering the loaders of all arrays

The loaders of arrays are registered over every built-in type that has arrays and can be loaded,
`PgAdapt.Registry.arrayBases`, and which these are is asked while the loaders are being registered.
What comes of it is determined by the registry before all the same, whatever is in it, and whatever
the order in which the types are gone through: `PgAdapt.registerAllArrays_effect`.

No two built-in types have the same arrays, so that no two of the registrations are under one key
(`PgAdapt.BuiltinType.nodup_keys_allArrayRegistrations`). Then it makes no difference which of them
comes last, `PgAdapt.Registration.last?_of_perm`.
-/

namespace PgAdapt

open Registration BuiltinType

/-! ### Registrations under different keys -/

namespace Registration

variable {rs rs' : List Registration} {k : Registry.Key} {r : Registration}

/-- Where no two registrations are under one key, each of them is the last one under its key. -/
theorem last?_eq_some_iff_of_nodup (h : (rs.map key).Nodup) :
    last? rs k = some r ↔ r ∈ rs ∧ r.key = k := by
  refine ⟨mem_of_last?_eq_some, ?_⟩
  rintro ⟨hr, rfl⟩
  obtain ⟨r', hr'⟩ :=
    Option.isSome_iff_exists.mp (isSome_last?_iff.mpr (List.mem_map_of_mem hr))
  obtain ⟨hmem, hkey⟩ := mem_of_last?_eq_some hr'
  rw [hr', List.inj_on_of_nodup_map h hmem hr hkey]

/-- **The order of registrations under different keys does not matter.** -/
theorem last?_of_perm (hperm : rs.Perm rs') (h : (rs.map key).Nodup) (k : Registry.Key) :
    last? rs k = last? rs' k := by
  have h' : (rs'.map key).Nodup := (hperm.map key).nodup_iff.mp h
  ext r
  rw [last?_eq_some_iff_of_nodup h, last?_eq_some_iff_of_nodup h', hperm.mem_iff]

end Registration

namespace BuiltinType

/-- No two built-in types have the same arrays. -/
theorem pairwise_arrayOid_table :
    table.Pairwise fun info info' => ∀ array, info.arrayOid = some array →
      info'.arrayOid ≠ some array := by
  have h : table.Pairwise fun info info' =>
      info.arrayOid = none ∨ info.arrayOid ≠ info'.arrayOid := by
    decide
  refine h.imp fun hne array harray harray' => ?_
  rcases hne with hnone | hne
  · rw [hnone] at harray
    cases harray
  · exact hne (harray.trans harray'.symm)

/-- The loaders of arrays are registered under different keys. -/
theorem nodup_keys_allArrayRegistrations (canLoad : Oid → Bool) :
    ((allArrayRegistrations canLoad).map Registration.key).Nodup := by
  rw [allArrayRegistrations, List.map_flatMap, List.nodup_flatMap]
  constructor
  · rintro info -
    rw [arrayRegistrationsIf]
    split
    · exact List.nodup_nil
    · split_ifs
      · simp [arrayRegistrations, Registration.key]
      · exact List.nodup_nil
  · refine pairwise_arrayOid_table.imp fun {info info'} hne key hkey hkey' => ?_
    obtain ⟨r, hr, rfl⟩ := List.mem_map.mp hkey
    obtain ⟨r', hr', hsame⟩ := List.mem_map.mp hkey'
    obtain ⟨array, format, harray, hkey⟩ := exists_of_mem_arrayRegistrationsIf hr
    obtain ⟨array', format', harray', hkey'⟩ := exists_of_mem_arrayRegistrationsIf hr'
    rw [hkey, hkey'] at hsame
    cases hsame
    exact hne array harray harray'

end BuiltinType

/-! ### What is registered -/

namespace Registry

/-- The built-in types that **have arrays and can be loaded**. -/
def arrayBases (registry : Registry) : List BuiltinType :=
  table.filter fun info => info.arrayOid.isSome && registry.canLoad info.oid

/-- A key is one of the loaders of **arrays over what can be loaded**. -/
def IsArrayKey (registry : Registry) (key : Key) : Prop :=
  ∃ info ∈ registry.arrayBases, ∃ array format,
    info.arrayOid = some array ∧ key = .loader array format

theorem mem_arrayBases_iff {registry : Registry} {info : BuiltinType} :
    info ∈ registry.arrayBases ↔
      info ∈ table ∧ info.arrayOid.isSome ∧ registry.canLoad info.oid := by
  rw [arrayBases, List.mem_filter, Bool.and_eq_true]

/-- The loaders over a type that has arrays and can be loaded. -/
theorem exists_arrayRegistrations_eq {registry : Registry} {info : BuiltinType}
    (h : info ∈ registry.arrayBases) : ∃ array, info.arrayOid = some array ∧
      arrayRegistrationsIf registry.canLoad info =
        arrayRegistrations array info.oid (some info.name) := by
  obtain ⟨-, harray, hload⟩ := mem_arrayBases_iff.mp h
  obtain ⟨array, harray⟩ := Option.isSome_iff_exists.mp harray
  refine ⟨array, harray, ?_⟩
  simp only [arrayRegistrationsIf, harray, if_pos hload]

theorem mem_allArrayRegistrations {registry : Registry} {info : BuiltinType} {r : Registration}
    (h : info ∈ registry.arrayBases) (hr : r ∈ arrayRegistrationsIf registry.canLoad info) :
    r ∈ allArrayRegistrations registry.canLoad :=
  List.mem_flatMap.mpr ⟨info, (mem_arrayBases_iff.mp h).1, hr⟩

/-- The keys of the registrations are those of the loaders of arrays over what can be loaded. -/
theorem mem_keys_iff_isArrayKey {registry : Registry} {key : Key} :
    key ∈ (allArrayRegistrations registry.canLoad).map Registration.key ↔
      registry.IsArrayKey key := by
  constructor
  · intro hkey
    obtain ⟨r, hr, rfl⟩ := List.mem_map.mp hkey
    obtain ⟨info, hinfo, hr⟩ := List.mem_flatMap.mp hr
    obtain ⟨array, format, harray, hkey⟩ := exists_of_mem_arrayRegistrationsIf hr
    refine ⟨info, mem_arrayBases_iff.mpr ⟨hinfo, ?_, ?_⟩, array, format, harray, hkey⟩
    · rw [harray]
      rfl
    · -- Nothing would be registered over a type that cannot be loaded.
      by_contra hload
      simp only [arrayRegistrationsIf, harray, if_neg hload, List.not_mem_nil] at hr
  · rintro ⟨info, hinfo, array, format, harray, rfl⟩
    obtain ⟨array', harray', heq⟩ := exists_arrayRegistrations_eq hinfo
    obtain rfl : array = array' := Option.some.inj (harray.symm.trans harray')
    have hmem : ∀ r ∈ arrayRegistrations array info.oid (some info.name),
        r.key ∈ (allArrayRegistrations registry.canLoad).map Registration.key := by
      intro r hr
      rw [← heq] at hr
      exact List.mem_map_of_mem (mem_allArrayRegistrations hinfo hr)
    cases format with
    | text => exact hmem _ List.mem_cons_self
    | binary => exact hmem _ (List.mem_cons_of_mem _ List.mem_cons_self)

end Registry

theorem count_map_true {α : Type} (p : α → Bool) (l : List α) :
    (l.map p).count true = (l.filter p).length := by
  induction l with
  | nil => rfl
  | cons a l ih => cases h : p a <;> simp [h, ih]

/-! ### Registering them -/

namespace Action

variable (id : RegistryId) (s : Session)

/-- The loaders of arrays are registered over the built-in types that have arrays and can be loaded,
and these are counted. -/
theorem carriesOutAnew_arrayBases : CarriesOutAnew id (registerAllArrays id) s
    (allArrayRegistrations (s.registries id).canLoad) (s.registries id).arrayBases.length := by
  rw [Registry.arrayBases, ← count_map_true]
  exact carriesOutAnew_registerAllArrays s

/-- **Registering the loaders of arrays does not change what they are registered over.** -/
theorem canLoad_registerAllArrays {info : BuiltinType} (h : info ∈ table) :
    (((registerAllArrays id).after s).registries id).canLoad info.oid =
      (s.registries id).canLoad info.oid := by
  rw [(carriesOutAnew_arrayBases id s).canLoad_eq, loads_allArrayRegistrations h, Bool.false_or]

/-- So the second time the same registrations are carried out. -/
theorem carriesOutAnew_again : CarriesOutAnew id (registerAllArrays id)
    ((registerAllArrays id).after s) (allArrayRegistrations (s.registries id).canLoad)
    (s.registries id).arrayBases.length := by
  have hbases : (((registerAllArrays id).after s).registries id).arrayBases =
      (s.registries id).arrayBases :=
    List.filter_congr fun info hinfo => by rw [canLoad_registerAllArrays id s hinfo]
  rw [← hbases, ← allArrayRegistrations_congr fun info => canLoad_registerAllArrays id s]
  exact carriesOutAnew_arrayBases id _

/-- **The order of the built-in types does not matter.** -/
theorem looksLike_of_perm {infos : List BuiltinType} (h : infos.Perm table) :
    ∃ done, (infos.mapM (registerArrayOver id)).result s = .ok done ∧
      done.count true = (s.registries id).arrayBases.length ∧
      (((infos.mapM (registerArrayOver id)).after s).registries id).LooksLike
        (((registerAllArrays id).after s).registries id) := by
  have hinfos : CarriesOutAnew id (infos.mapM (registerArrayOver id)) s _ _ :=
    carriesOutAnew_mapM_registerArrayOver infos h.subset s fun _ _ => rfl
  refine ⟨_, hinfos.result_eq, ?_, .of_inForce fun key => ?_⟩
  · rw [count_map_true]
    exact (h.filter _).length_eq
  · have hnodup := nodup_keys_allArrayRegistrations (s.registries id).canLoad
    rw [hinfos.inForce_eq, (carriesOutAnew_arrayBases id s).inForce_eq,
      ← last?_of_perm (h.flatMap_right _).symm hnodup]
    rfl

end Action

/-- **The effect of registering the loaders of all arrays**, in a registry with any makers in it.
The number of built-in types is given that have arrays and could be loaded before, in either format.
Afterwards, under the arrays over just these types, there are loaders of arrays in both formats, the
one in text with the type for its elements. Their makers are new: their numbers have been given to
nothing before, and each to one of them only. Under all other keys, of loaders and of dumpers, the
maker is found that was found before. When it is done again, the same number is given and the
registry looks as it did; and so it does if the built-in types are gone through in another order. -/
theorem registerAllArrays_effect (id : RegistryId) (s : Session) :
    let run := Action.registerAllArrays id
    let bases := (s.registries id).arrayBases
    let isArrayKey := (s.registries id).IsArrayKey
    let s₁ := run.after s
    run.result s = .ok bases.length ∧
    (∀ info ∈ bases, ∃ array, info.arrayOid = some array ∧
      ∀ r ∈ arrayRegistrations array info.oid (some info.name),
        (s₁.registries id).inForce r.key = some r) ∧
    (∀ key, isArrayKey key → ∃ maker, (s₁.registries id).maker? key = some maker ∧
      s.next ≤ maker.number ∧ maker.number < s₁.next ∧
      ∀ key', isArrayKey key' → ∀ maker', (s₁.registries id).maker? key' = some maker' →
        maker.number = maker'.number → key = key') ∧
    (∀ key, ¬isArrayKey key → (s₁.registries id).maker? key = (s.registries id).maker? key) ∧
    (run.result s₁ = .ok bases.length ∧
      ((run.after s₁).registries id).LooksLike (s₁.registries id)) ∧
    ∀ infos : List BuiltinType, infos.Perm table →
      ∃ done, (infos.mapM (Action.registerArrayOver id)).result s = .ok done ∧
        done.count true = bases.length ∧
        (((infos.mapM (Action.registerArrayOver id)).after s).registries id).LooksLike
          (s₁.registries id) := by
  intro run bases isArrayKey s₁
  have hrun := Action.carriesOutAnew_arrayBases id s
  have hagain := Action.carriesOutAnew_again id s
  refine ⟨hrun.result_eq, fun info hinfo => ?_, fun key hkey => ?_, fun key hkey => ?_,
    ⟨hagain.result_eq, hrun.looksLike_again hagain.toCarriesOut⟩,
    fun infos => Action.looksLike_of_perm id s⟩
  · obtain ⟨array, harray, heq⟩ := Registry.exists_arrayRegistrations_eq hinfo
    refine ⟨array, harray, fun r hr => ?_⟩
    have hmem := Registry.mem_allArrayRegistrations hinfo (heq ▸ hr)
    have hlast := (last?_eq_some_iff_of_nodup (nodup_keys_allArrayRegistrations _)).mpr ⟨hmem, rfl⟩
    rw [hrun.inForce_eq, hlast, Option.some_or]
  · have hmem := Registry.mem_keys_iff_isArrayKey.mpr hkey
    obtain ⟨maker, hmaker⟩ := Option.isSome_iff_exists.mp (hrun.numbered.isSome key hmem)
    obtain ⟨hlow, hhigh⟩ := hrun.numbered.bounds key hmem maker hmaker
    refine ⟨maker, hmaker, hlow, hhigh, fun key' hkey' maker' hmaker' => ?_⟩
    exact hrun.numbered.injective key hmem key' (Registry.mem_keys_iff_isArrayKey.mpr hkey')
      maker hmaker maker' hmaker'
  · exact hrun.maker?_eq key
      (last?_eq_none_iff.mpr (mt Registry.mem_keys_iff_isArrayKey.mp hkey))

/-! ### Types that can be loaded in one format only -/

/-- A session in which numbers of four bytes are loaded from text and truth values from binary form,
and in which there already is a loader of arrays of texts, but none of texts. -/
def halfLoadedSession : Session where
  registries _ := Registry.empty
    |>.addLoader .int4 .text ⟨0, "", .scalar (IntType.int32.textLoader .reference)⟩
    |>.addLoader .bool .binary ⟨1, "", .scalar (Singleton.boolBinaryLoader .reference)⟩
    |>.addLoader .textArray .text ⟨2, "", .arrayText .text⟩
  next := 3

theorem arrayBases_halfLoadedSession : (halfLoadedSession.registries .shared).arrayBases =
    [⟨"bool", .bool, some ⟨1000⟩⟩, ⟨"int4", .int4, some ⟨1007⟩⟩] := by
  decide

/-- Loaders of arrays are registered over the two types, and the loader of arrays of texts stays. -/
theorem registerAllArrays_effect_halfLoadedSession :
    (Action.registerAllArrays .shared).result halfLoadedSession = .ok 2 ∧
      (((Action.registerAllArrays .shared).after halfLoadedSession).registries .shared).inForce
        (.loader ⟨1007⟩ .text) = some (.loader ⟨1007⟩ .text
          (Action.arrayLoaderName .int4 (some "int4") ++ "ArrayLoader") (.arrayText .int4)) ∧
      (((Action.registerAllArrays .shared).after halfLoadedSession).registries .shared).maker?
        (.loader .textArray .text) = some (.loader ⟨2, "", .arrayText .text⟩) := by
  obtain ⟨hresult, hregistered, -, hkept, -⟩ := registerAllArrays_effect .shared halfLoadedSession
  rw [arrayBases_halfLoadedSession] at hresult hregistered
  obtain ⟨array, harray, hinForce⟩ := hregistered ⟨"int4", .int4, some ⟨1007⟩⟩ (by simp)
  obtain rfl := Option.some.inj harray
  refine ⟨hresult, hinForce _ List.mem_cons_self, (hkept _ ?_).trans rfl⟩
  rintro ⟨info, hinfo, array, format, harray, hkey⟩
  rw [arrayBases_halfLoadedSession] at hinfo
  cases hkey
  have hne : ∀ info ∈ ([⟨"bool", .bool, some ⟨1000⟩⟩, ⟨"int4", .int4, some ⟨1007⟩⟩] :
      List BuiltinType), info.arrayOid ≠ some .textArray := by
    decide
  exact hne info hinfo harray

end PgAdapt
