import Mathlib.Data.List.Basic
import Mathlib.Tactic.SplitIfs
import PgAdapt.Catalogue.Install
import PgAdapt.Proofs.Registry.History

/-!
# Registrations in a list

A registry is filled by a list of registrations, the last of which is in force under its key. The
list can be told before the first registration is carried out, that of the loaders of arrays
included (`PgAdapt.Action.carriesOutAnew_registerAllArrays`).
-/

namespace PgAdapt

/-! ## Registrations over registrations

To fill a registry is to carry out a list of registrations. Under each key the last one of the list
is **in force** afterwards (`PgAdapt.Registry.inForce`), with the name and the recipe of its maker;
where the list has none, the very maker is found that was found before. This is what
`PgAdapt.Action.CarriesOut` says of an operation and a list, and a chain of operations carries out
their lists one behind the other.
-/

/-! ### Lists of registrations -/

namespace Registration

/-- The key of a registration. -/
def key : Registration → Registry.Key
  | .dumper source format _ _ => .dumper source format
  | .loader oid format _ _ => .loader oid format

/-- The **last** registration of a list under a key. -/
def last? (registrations : List Registration) (key : Registry.Key) : Option Registration :=
  (registrations.filter fun r => r.key = key).getLast?

@[simp]
theorem last?_nil (key : Registry.Key) : last? [] key = none := rfl

theorem last?_singleton (r : Registration) (key : Registry.Key) :
    last? [r] key = if r.key = key then some r else none := by
  by_cases h : r.key = key <;> simp [last?, h]

/-- Of two lists one behind the other, the second one has the last word. -/
theorem last?_append (rs rs' : List Registration) (key : Registry.Key) :
    last? (rs ++ rs') key = (last? rs' key).or (last? rs key) := by
  rw [last?, List.filter_append, List.getLast?_append]
  rfl

theorem last?_eq_none_iff {rs : List Registration} {key : Registry.Key} :
    last? rs key = none ↔ key ∉ rs.map Registration.key := by
  simp [last?]

/-- There is a last registration under the keys of the list. -/
theorem isSome_last?_iff {rs : List Registration} {key : Registry.Key} :
    (last? rs key).isSome ↔ key ∈ rs.map Registration.key := by
  rw [← Option.ne_none_iff_isSome, Ne, last?_eq_none_iff, not_not]

theorem mem_of_last?_eq_some {rs : List Registration} {key : Registry.Key} {r : Registration}
    (h : last? rs key = some r) : r ∈ rs ∧ r.key = key := by
  simpa using List.mem_filter.mp (List.mem_of_getLast? h)

/-- Whether a list registers a loader for a type, in either format. -/
def loads (rs : List Registration) (oid : Oid) : Bool :=
  (last? rs (.loader oid .text)).isSome || (last? rs (.loader oid .binary)).isSome

theorem loads_append (rs rs' : List Registration) (oid : Oid) :
    loads (rs ++ rs') oid = (loads rs oid || loads rs' oid) := by
  simp only [loads, last?_append, Option.isSome_or]
  ac_rfl

theorem loads_eq_false {rs : List Registration} {oid : Oid}
    (h : ∀ format, .loader oid format ∉ rs.map Registration.key) : loads rs oid = false := by
  rw [loads, last?_eq_none_iff.mpr (h .text), last?_eq_none_iff.mpr (h .binary)]
  rfl

end Registration

open Registration

/-! ### Registrations in force -/

namespace Registry

/-- The registration that is **in force** under a key: the maker without its number. -/
def inForce (registry : Registry) : Key → Option Registration
  | .dumper source format => (registry.dumper? source format).map fun factory =>
    .dumper source format factory.name factory.recipe
  | .loader oid format => (registry.loader? oid format).map fun factory =>
    .loader oid format factory.name factory.recipe

theorem isSome_inForce (registry : Registry) (key : Key) :
    (registry.inForce key).isSome = (registry.maker? key).isSome := by
  cases key <;> simp [inForce, maker?]

theorem inForce_addDumper (registry : Registry) (source : ValueType) (format : Format)
    (factory : DumperFactory) (key : Key) :
    (registry.addDumper source format factory).inForce key =
      if .dumper source format = key then
        some (.dumper source format factory.name factory.recipe)
      else registry.inForce key := by
  rcases key with ⟨source', format'⟩ | ⟨oid, format'⟩
  · simp only [inForce, dumper?, addDumper, Table.get?_insert, Key.dumper.injEq, Prod.mk.injEq]
    split_ifs with h
    · obtain ⟨rfl, rfl⟩ := h
      rfl
    · rfl
  · rfl

theorem inForce_addLoader (registry : Registry) (oid : Oid) (format : Format)
    (factory : LoaderFactory) (key : Key) :
    (registry.addLoader oid format factory).inForce key =
      if .loader oid format = key then some (.loader oid format factory.name factory.recipe)
      else registry.inForce key := by
  rcases key with ⟨source, format'⟩ | ⟨oid', format'⟩
  · rfl
  · simp only [inForce, loader?, addLoader, Table.get?_insert, Key.loader.injEq, Prod.mk.injEq]
    split_ifs with h
    · obtain ⟨rfl, rfl⟩ := h
      rfl
    · rfl

/-- Whether a type can be loaded is seen from the registrations in force. -/
theorem canLoad_eq (registry : Registry) (oid : Oid) : registry.canLoad oid =
    ((registry.inForce (.loader oid .text)).isSome ||
      (registry.inForce (.loader oid .binary)).isSome) := by
  simp [canLoad, inForce]

/-- Registries with makers under the same keys have the same counts. -/
theorem count_eq_of_isSome_inForce {registry registry' : Registry}
    (h : ∀ key, (registry.inForce key).isSome = (registry'.inForce key).isSome) (side : Side) :
    registry.count side = registry'.count side := by
  simp only [isSome_inForce] at h
  simp only [count_eq_ncard, h]

end Registry

/-! ### Operations -/

namespace Action

variable {α β : Type} {id : RegistryId} {s : Session}

/-- An operation gives a value and **carries out** the registrations of a list in a registry. -/
structure CarriesOut (id : RegistryId) (a : Action α) (s : Session) (rs : List Registration)
    (x : α) : Prop where
  result_eq : a.result s = .ok x
  inForce_eq (key : Registry.Key) : ((a.after s).registries id).inForce key =
    (last? rs key).or ((s.registries id).inForce key)
  maker?_eq (key : Registry.Key) (h : last? rs key = none) :
    ((a.after s).registries id).maker? key = (s.registries id).maker? key

namespace CarriesOut

/-- An operation that leaves the registry as it is carries out nothing. -/
theorem nothing {a : Action α} {x : α} (hresult : a.result s = .ok x)
    (hafter : (a.after s).registries id = s.registries id) : CarriesOut id a s [] x where
  result_eq := hresult
  inForce_eq key := by rw [hafter, last?_nil, Option.none_or]
  maker?_eq key _ := by rw [hafter]

theorem pure (x : α) : CarriesOut id (Pure.pure x : Action α) s [] x := .nothing rfl rfl

/-- A chain of operations carries out their lists one behind the other. -/
theorem bind {a : Action α} {f : α → Action β} {p q : List Registration} {x : α} {y : β}
    (ha : CarriesOut id a s p x) (hf : CarriesOut id (f x) (a.after s) q y) :
    CarriesOut id (a >>= f) s (p ++ q) y where
  result_eq := by rw [result_bind_ok ha.result_eq, hf.result_eq]
  inForce_eq key := by
    rw [after_bind_ok ha.result_eq, hf.inForce_eq, ha.inForce_eq, last?_append, Option.or_assoc]
  maker?_eq key h := by
    rw [last?_append, Option.or_eq_none_iff] at h
    rw [after_bind_ok ha.result_eq, hf.maker?_eq key h.1, ha.maker?_eq key h.2]

/-- Operations for each member of a list. -/
theorem forM {a : β → Action PUnit} {rs : β → List Registration}
    (h : ∀ x s, CarriesOut id (a x) s (rs x) ⟨⟩) (l : List β) (s : Session) :
    CarriesOut id (l.forM a) s (l.flatMap rs) ⟨⟩ := by
  induction l generalizing s with
  | nil => exact .pure _
  | cons x l ih => exact (h x s).bind (ih _)

/-- What can be loaded afterwards is what could be loaded before, and what the list loads. -/
theorem canLoad_eq {a : Action α} {rs : List Registration} {x : α}
    (h : CarriesOut id a s rs x) (oid : Oid) :
    ((a.after s).registries id).canLoad oid = (loads rs oid || (s.registries id).canLoad oid) := by
  rw [Registry.canLoad_eq, Registry.canLoad_eq, h.inForce_eq, h.inForce_eq, loads]
  simp only [Option.isSome_or]
  ac_rfl

end CarriesOut

theorem carriesOut_register (maker : Nat) (r : Registration) (s : Session) :
    CarriesOut id (register id maker r) s [r] ⟨⟩ := by
  rcases r with ⟨source, format, name, recipe⟩ | ⟨oid, format, name, recipe⟩
  · have hafter : ((registerDumper id source format ⟨maker, name, recipe⟩).after s).registries id =
        (s.registries id).addDumper source format ⟨maker, name, recipe⟩ := assign_self _ _ _
    refine ⟨rfl, fun key => ?_, fun key h => ?_⟩
    · rw [register, hafter, Registry.inForce_addDumper, last?_singleton, Registration.key]
      split_ifs <;> rfl
    · rw [last?_singleton, Registration.key] at h
      rw [register, hafter, Registry.maker?_addDumper]
      split_ifs at h ⊢
      rfl
  · have hafter : ((registerLoader id oid format ⟨maker, name, recipe⟩).after s).registries id =
        (s.registries id).addLoader oid format ⟨maker, name, recipe⟩ := assign_self _ _ _
    refine ⟨rfl, fun key => ?_, fun key h => ?_⟩
    · rw [register, hafter, Registry.inForce_addLoader, last?_singleton, Registration.key]
      split_ifs <;> rfl
    · rw [last?_singleton, Registration.key] at h
      rw [register, hafter, Registry.maker?_addLoader]
      split_ifs at h ⊢
      rfl

theorem carriesOut_registerEntries (entries : List Entry) (s : Session) :
    CarriesOut id (registerEntries id entries) s (entries.map Entry.registration) ⟨⟩ := by
  have hreserve : CarriesOut id (reserve (entries.length + 1)) s [] s.next := .nothing rfl rfl
  have hentries (base : Nat) (s : Session) :
      CarriesOut id (entries.forM fun entry => register id (base + entry.maker) entry.registration)
        s (entries.flatMap fun entry => [entry.registration]) ⟨⟩ :=
    .forM (fun entry => carriesOut_register _ _) entries s
  rw [List.map_eq_flatMap]
  exact hreserve.bind (hentries _ _)

end Action

/-- The **registrations of a catalogue**, group by group. -/
def Catalogue.registrations (c : Catalogue) : List Registration :=
  CodecGroup.order.flatMap fun group => (c.content group).map Entry.registration

theorem Action.carriesOut_installCatalogue {id : RegistryId} (c : Catalogue) (s : Session) :
    CarriesOut id (installCatalogue id c) s c.registrations ⟨⟩ := by
  refine .forM (fun group s => ?_) CodecGroup.order s
  rw [← List.append_nil (List.map _ _)]
  refine (carriesOut_registerEntries (c.content group) s).bind ?_
  exact .nothing rfl rfl

/-! ## The registrations of the loaders of arrays

The loaders of arrays are registered behind everything else, and they are the delicate part, because
which of them are registered is read off the registry that is being filled. But what is read are
types of elements, what is written are types of arrays, and no built-in type is both
(`PgAdapt.BuiltinType.arrayOid_ne_oid`). So the list of their registrations can be told from the
registry before: `PgAdapt.Action.carriesOutAnew_registerAllArrays`.

Each of the loaders is made by a maker of its own. That makers are new can be seen from their
numbers, `PgAdapt.Registry.Numbered`, and is kept along a chain of operations,
`PgAdapt.Action.CarriesOutAnew`.
-/

open Registration

/-! ### Makers with numbers of their own -/

namespace Registry

/-- The number of a maker. -/
def Maker.number : Maker → Nat
  | .dumper factory => factory.id
  | .loader factory => factory.id

/-- The makers under some keys **have numbers of their own** in a range. -/
structure Numbered (registry : Registry) (keys : List Key) (low high : Nat) : Prop where
  le : low ≤ high
  isSome : ∀ key ∈ keys, (registry.maker? key).isSome
  bounds : ∀ key ∈ keys, ∀ maker ∈ registry.maker? key, low ≤ maker.number ∧ maker.number < high
  injective : ∀ key ∈ keys, ∀ key' ∈ keys, ∀ maker ∈ registry.maker? key,
    ∀ maker' ∈ registry.maker? key', maker.number = maker'.number → key = key'

/-- Makers with later numbers may be entered, and the others stay. -/
theorem Numbered.append {registry registry' : Registry} {keys keys' : List Key}
    {low mid high : Nat} (h : registry.Numbered keys low mid)
    (h' : registry'.Numbered keys' mid high)
    (hkeep : ∀ key ∉ keys', registry'.maker? key = registry.maker? key) :
    registry'.Numbered (keys ++ keys') low high := by
  have hcases : ∀ key ∈ keys ++ keys',
      key ∈ keys' ∨ key ∈ keys ∧ registry'.maker? key = registry.maker? key := by
    intro key hkey
    by_cases hkey' : key ∈ keys'
    · exact .inl hkey'
    · exact .inr ⟨(List.mem_append.mp hkey).resolve_right hkey', hkeep key hkey'⟩
  refine ⟨h.le.trans h'.le, fun key hkey => ?_, fun key hkey maker hmaker => ?_,
    fun key₁ hkey₁ key₂ hkey₂ maker₁ h₁ maker₂ h₂ heq => ?_⟩
  · rcases hcases key hkey with hkey' | ⟨hkey', hsame⟩
    · exact h'.isSome key hkey'
    · rw [hsame]
      exact h.isSome key hkey'
  · rcases hcases key hkey with hkey' | ⟨hkey', hsame⟩
    · exact (h'.bounds key hkey' maker hmaker).imp_left h.le.trans
    · rw [hsame] at hmaker
      exact (h.bounds key hkey' maker hmaker).imp_right fun hlt => Nat.lt_of_lt_of_le hlt h'.le
  · rcases hcases key₁ hkey₁ with hkey₁ | ⟨hkey₁, hsame₁⟩ <;>
      rcases hcases key₂ hkey₂ with hkey₂ | ⟨hkey₂, hsame₂⟩
    · exact h'.injective key₁ hkey₁ key₂ hkey₂ maker₁ h₁ maker₂ h₂ heq
    · -- One of the two is later than the other.
      rw [hsame₂] at h₂
      have hlow := (h'.bounds key₁ hkey₁ maker₁ h₁).1
      have hhigh := (h.bounds key₂ hkey₂ maker₂ h₂).2
      omega
    · rw [hsame₁] at h₁
      have hhigh := (h.bounds key₁ hkey₁ maker₁ h₁).2
      have hlow := (h'.bounds key₂ hkey₂ maker₂ h₂).1
      omega
    · rw [hsame₁] at h₁
      rw [hsame₂] at h₂
      exact h.injective key₁ hkey₁ key₂ hkey₂ maker₁ h₁ maker₂ h₂ heq

end Registry

namespace Action

variable {α β : Type} {id : RegistryId} {s : Session}

/-- An operation carries out the registrations of a list **with new makers**: each under a number
that has been given to nothing before, and to nothing else. -/
structure CarriesOutAnew (id : RegistryId) (a : Action α) (s : Session) (rs : List Registration)
    (x : α) : Prop extends CarriesOut id a s rs x where
  numbered : ((a.after s).registries id).Numbered (rs.map Registration.key) s.next (a.after s).next

namespace CarriesOutAnew

theorem nothing {a : Action α} {x : α} (hresult : a.result s = .ok x)
    (hafter : (a.after s).registries id = s.registries id) (hnext : (a.after s).next = s.next) :
    CarriesOutAnew id a s [] x where
  toCarriesOut := .nothing hresult hafter
  numbered := ⟨hnext.ge, by simp, by simp, by simp⟩

theorem pure (x : α) : CarriesOutAnew id (Pure.pure x : Action α) s [] x := .nothing rfl rfl rfl

theorem bind {a : Action α} {f : α → Action β} {p q : List Registration} {x : α} {y : β}
    (ha : CarriesOutAnew id a s p x) (hf : CarriesOutAnew id (f x) (a.after s) q y) :
    CarriesOutAnew id (a >>= f) s (p ++ q) y where
  toCarriesOut := ha.toCarriesOut.bind hf.toCarriesOut
  numbered := by
    rw [after_bind_ok ha.result_eq, List.map_append]
    exact ha.numbered.append hf.numbered fun key hkey =>
      hf.maker?_eq key (last?_eq_none_iff.mpr hkey)

end CarriesOutAnew

theorem carriesOutAnew_registerLoader (oid : Oid) (format : Format) (name : String)
    (recipe : LoaderRecipe) (s : Session) :
    CarriesOutAnew id (newLoaderFactory name recipe >>= registerLoader id oid format) s
      [.loader oid format name recipe] ⟨⟩ := by
  have hfactory : CarriesOut id (newLoaderFactory name recipe) s [] ⟨s.next, name, recipe⟩ :=
    .nothing rfl rfl
  have hafter : (((newLoaderFactory name recipe >>= registerLoader id oid format).after s).registries
      id).maker? (.loader oid format) = some (.loader ⟨s.next, name, recipe⟩) := by
    have hadd : ((newLoaderFactory name recipe >>= registerLoader id oid format).after s).registries
        id = (s.registries id).addLoader oid format ⟨s.next, name, recipe⟩ := assign_self _ _ _
    rw [hadd, Registry.maker?_addLoader, if_pos rfl]
  refine ⟨hfactory.bind (carriesOut_register s.next (.loader oid format name recipe) _),
    Nat.le_succ s.next, ?_, ?_, ?_⟩
  · simp [key, hafter]
  · rintro _ hkey maker hmaker
    obtain rfl := List.mem_singleton.mp hkey
    obtain rfl := Option.some.inj (hafter.symm.trans hmaker)
    exact ⟨Nat.le_refl s.next, Nat.lt_succ_self s.next⟩
  · simp [key]

end Action

/-! ### Arrays -/

/-- The registrations of the loaders of arrays of a type over elements of another type. -/
def arrayRegistrations (array element : Oid) (name : Option String) : List Registration :=
  [.loader array .text (Action.arrayLoaderName element name ++ "ArrayLoader") (.arrayText element),
    .loader array .binary (Action.arrayLoaderName element name ++ "ArrayBinaryLoader") .arrayBinary]

namespace BuiltinType

/-- The registrations of the loaders of arrays over a built-in type, if there are such arrays and
the type can be loaded. -/
def arrayRegistrationsIf (canLoad : Oid → Bool) (info : BuiltinType) : List Registration :=
  match info.arrayOid with
  | none => []
  | some array =>
    if canLoad info.oid then arrayRegistrations array info.oid (some info.name) else []

/-- The registrations of the loaders of arrays over all built-in types that can be loaded. -/
def allArrayRegistrations (canLoad : Oid → Bool) : List Registration :=
  table.flatMap (arrayRegistrationsIf canLoad)

/-- **No built-in type is also a type of arrays.** -/
theorem arrayOid_ne_oid : ∀ info ∈ table, ∀ info' ∈ table, info.arrayOid ≠ some info'.oid := by
  decide

/-- The loaders of arrays are registered for types of arrays. -/
theorem exists_of_mem_arrayRegistrationsIf {canLoad : Oid → Bool} {info : BuiltinType}
    {r : Registration} (h : r ∈ arrayRegistrationsIf canLoad info) :
    ∃ array format, info.arrayOid = some array ∧ r.key = .loader array format := by
  rw [arrayRegistrationsIf] at h
  split at h
  · cases h
  · rename_i array harray
    split_ifs at h
    · simp only [arrayRegistrations, List.mem_cons, List.not_mem_nil, or_false] at h
      rcases h with rfl | rfl
      · exact ⟨array, .text, harray, rfl⟩
      · exact ⟨array, .binary, harray, rfl⟩
    · cases h

/-- The loaders of arrays do not load a built-in type. -/
theorem loads_arrayRegistrationsIf {canLoad : Oid → Bool} {info info' : BuiltinType}
    (h : info ∈ table) (h' : info' ∈ table) :
    loads (arrayRegistrationsIf canLoad info) info'.oid = false := by
  refine loads_eq_false fun format hmem => ?_
  obtain ⟨r, hr, hkey⟩ := List.mem_map.mp hmem
  obtain ⟨array, format', harray, hkey'⟩ := exists_of_mem_arrayRegistrationsIf hr
  rw [hkey] at hkey'
  cases hkey'
  exact arrayOid_ne_oid info h info' h' harray

end BuiltinType

namespace Action

open BuiltinType

variable {id : RegistryId}

theorem carriesOutAnew_registerArray (array element : Oid) (name : Option String) (s : Session) :
    CarriesOutAnew id (registerArray id array element name) s (arrayRegistrations array element name)
      ⟨⟩ := by
  have htwo : registerArray id array element name =
      (newLoaderFactory (arrayLoaderName element name ++ "ArrayLoader") (.arrayText element) >>=
        registerLoader id array .text) >>= fun _ =>
      newLoaderFactory (arrayLoaderName element name ++ "ArrayBinaryLoader") .arrayBinary >>=
        registerLoader id array .binary := by
    simp only [registerArray, bind_assoc]
  rw [htwo]
  exact (carriesOutAnew_registerLoader array .text _ _ s).bind
    (carriesOutAnew_registerLoader array .binary _ _ _)

theorem carriesOutAnew_registerArrayOver (info : BuiltinType) (s : Session) :
    CarriesOutAnew id (registerArrayOver id info) s
      (arrayRegistrationsIf (s.registries id).canLoad info)
      (info.arrayOid.isSome && (s.registries id).canLoad info.oid) := by
  cases harray : info.arrayOid with
  | none =>
    simp only [registerArrayOver, arrayRegistrationsIf, harray]
    exact .pure false
  | some array =>
    simp only [registerArrayOver, arrayRegistrationsIf, harray, Option.isSome_some, Bool.true_and]
    have hregistry : CarriesOutAnew id (registry id) s [] (s.registries id) := .nothing rfl rfl rfl
    cases hload : (s.registries id).canLoad info.oid with
    | false =>
      refine hregistry.bind (q := []) ?_
      rw [hload]
      exact .pure false
    | true =>
      refine hregistry.bind (q := arrayRegistrations array info.oid (some info.name)) ?_
      rw [hload, if_pos rfl, ← List.append_nil (arrayRegistrations _ _ _)]
      exact (carriesOutAnew_registerArray array info.oid _ s).bind (.pure true)

/-- The loaders of arrays over some of the built-in types. What can be loaded stays the same while
they are registered. -/
theorem carriesOutAnew_mapM_registerArrayOver {canLoad : Oid → Bool} (infos : List BuiltinType)
    (hinfos : infos ⊆ table) (s : Session)
    (h : ∀ info ∈ table, (s.registries id).canLoad info.oid = canLoad info.oid) :
    CarriesOutAnew id (infos.mapM (registerArrayOver id)) s
      (infos.flatMap (arrayRegistrationsIf canLoad))
      (infos.map fun info => info.arrayOid.isSome && canLoad info.oid) := by
  induction infos generalizing s with
  | nil => exact .pure []
  | cons info infos ih =>
    rw [List.cons_subset] at hinfos
    have hinfo : arrayRegistrationsIf (s.registries id).canLoad info =
        arrayRegistrationsIf canLoad info := by
      simp only [arrayRegistrationsIf, h info hinfos.1]
    have hfirst : CarriesOutAnew id (registerArrayOver id info) s _ _ :=
      carriesOutAnew_registerArrayOver info s
    rw [hinfo, h info hinfos.1] at hfirst
    have hrest := ih hinfos.2 ((registerArrayOver id info).after s) fun info' hinfo' => by
      rw [hfirst.canLoad_eq, loads_arrayRegistrationsIf hinfos.1 hinfo', Bool.false_or,
        h info' hinfo']
    rw [List.mapM_cons, List.flatMap_cons, List.map_cons]
    refine hfirst.bind ?_
    rw [← List.append_nil (infos.flatMap _)]
    exact hrest.bind (.pure _)

/-- **The loaders of arrays that are registered can be told from the registry before.** -/
theorem carriesOutAnew_registerAllArrays (s : Session) :
    CarriesOutAnew id (registerAllArrays id) s (allArrayRegistrations (s.registries id).canLoad)
      ((table.map fun info => info.arrayOid.isSome && (s.registries id).canLoad info.oid).count
        true) := by
  rw [← List.append_nil (allArrayRegistrations _)]
  refine (carriesOutAnew_mapM_registerArrayOver table (List.Subset.refl _) s fun _ _ => rfl).bind ?_
  exact .nothing rfl rfl rfl

end Action

end PgAdapt
