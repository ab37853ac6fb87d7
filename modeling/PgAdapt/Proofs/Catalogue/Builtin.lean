import PgAdapt.Proofs.Catalogue.Overlay

/-!
# Both catalogues in one registry

The reference catalogue is installed with its arrays, and the optimized one over it. Each of the two
steps carries out a list of registrations (`PgAdapt.Action.carriesOut_installBuiltin`), and the
lists can be told from the registry that one starts with: they depend on it only through the types
that can be loaded, and of the built-in types no more can be loaded after a second step than after
the first one. So a session stays steady (`PgAdapt.Session.Steady`).

The catalogues have the same keys (`PgAdapt.Catalogue.mem_keys_iff`), so the second step covers what
is in force after the first one and adds no key, and repeating the steps changes nothing but the
numbers of the makers: `PgAdapt.overlaid_installBuiltin`.
-/

namespace PgAdapt

open Registration BuiltinType

/-! ### The keys of the catalogues -/

namespace Registry.Key

/-- Whether a key is one of dumpers of arrays. -/
def isArrayDumper : Key → Bool
  | .dumper source _ => source = .array
  | .loader .. => false

/-- Whether a key is one of loaders of arrays over a built-in type. -/
def isArrayLoader : Key → Bool
  | .dumper .. => false
  | .loader oid _ => table.any fun info => info.arrayOid = some oid

end Registry.Key

open Registry (Key)

namespace Catalogue

/-- The keys of a catalogue. -/
def keys (c : Catalogue) : List Key := c.registrations.map Registration.key

/-- **The catalogues have the same keys.** -/
theorem mem_keys_iff (c c' : Catalogue) (key : Key) : key ∈ c.keys ↔ key ∈ c'.keys := by
  have hsubset : ∀ c c' : Catalogue, ∀ key ∈ c.keys, key ∈ c'.keys := by
    intro c c'
    cases c <;> cases c' <;> decide
  exact ⟨hsubset c c' key, hsubset c' c key⟩

/-- The keys of arrays are none of a catalogue. -/
theorem isArray_eq_false (c : Catalogue) {key : Key} (h : key ∈ c.keys) :
    key.isArrayDumper = false ∧ key.isArrayLoader = false := by
  have hall : ∀ key ∈ reference.keys, key.isArrayDumper = false ∧ key.isArrayLoader = false := by
    decide
  exact hall key ((mem_keys_iff c reference key).mp h)

theorem isSome_last?_registrations (c c' : Catalogue) (key : Key) :
    (last? c.registrations key).isSome = (last? c'.registrations key).isSome := by
  rw [Bool.eq_iff_iff, isSome_last?_iff, isSome_last?_iff]
  exact mem_keys_iff c c' key

/-- The catalogues load the same types. -/
theorem loads_registrations (c c' : Catalogue) (oid : Oid) :
    loads c.registrations oid = loads c'.registrations oid := by
  simp only [loads, isSome_last?_registrations c c']

end Catalogue

/-! ### The registrations of arrays -/

namespace Catalogue

variable (c : Catalogue)

/-- The registrations of the dumpers of arrays, which come with the reference catalogue. -/
def arrayDumperRegistrations : List Registration :=
  if c = .reference then arrayDumpers.map Entry.registration else []

theorem last?_arrayDumperRegistrations_eq_none {key : Key} (h : key.isArrayDumper = false) :
    last? c.arrayDumperRegistrations key = none := by
  have hall : ∀ key ∈ c.arrayDumperRegistrations.map Registration.key,
      key.isArrayDumper = true := by
    cases c <;> decide
  refine last?_eq_none_iff.mpr fun hmem => ?_
  rw [hall key hmem] at h
  cases h

end Catalogue

namespace BuiltinType

theorem isArrayLoader_of_mem {canLoad : Oid → Bool} {key : Key}
    (h : key ∈ (allArrayRegistrations canLoad).map Registration.key) :
    key.isArrayLoader = true := by
  obtain ⟨r, hr, rfl⟩ := List.mem_map.mp h
  obtain ⟨info, hinfo, hr⟩ := List.mem_flatMap.mp hr
  obtain ⟨array, format, harray, hkey⟩ := exists_of_mem_arrayRegistrationsIf hr
  rw [hkey, Key.isArrayLoader, List.any_eq_true]
  exact ⟨info, hinfo, decide_eq_true harray⟩

theorem last?_allArrayRegistrations_eq_none {canLoad : Oid → Bool} {key : Key}
    (h : key.isArrayLoader = false) : last? (allArrayRegistrations canLoad) key = none := by
  refine last?_eq_none_iff.mpr fun hmem => ?_
  rw [isArrayLoader_of_mem hmem] at h
  cases h

/-- The registrations of arrays do not load a built-in type. -/
theorem loads_allArrayRegistrations {canLoad : Oid → Bool} {info : BuiltinType}
    (h : info ∈ table) : loads (allArrayRegistrations canLoad) info.oid = false := by
  refine loads_eq_false fun format hmem => ?_
  have hloader := isArrayLoader_of_mem hmem
  rw [Key.isArrayLoader, List.any_eq_true] at hloader
  obtain ⟨info', hinfo', harray⟩ := hloader
  exact arrayOid_ne_oid info' hinfo' info h (of_decide_eq_true harray)

/-- Only what can be loaded of the built-in types counts. -/
theorem allArrayRegistrations_congr {canLoad canLoad' : Oid → Bool}
    (h : ∀ info ∈ table, canLoad info.oid = canLoad' info.oid) :
    allArrayRegistrations canLoad = allArrayRegistrations canLoad' := by
  refine List.flatMap_congr fun info hinfo => ?_
  simp only [arrayRegistrationsIf, h info hinfo]

end BuiltinType

/-! ### A catalogue with its arrays -/

/-- The **registrations of a catalogue with its arrays**, over the types that can be loaded. -/
def Catalogue.builtinRegistrations (c : Catalogue) (canLoad : Oid → Bool) : List Registration :=
  c.registrations ++ (c.arrayDumperRegistrations ++ allArrayRegistrations canLoad)

/-- What can be loaded once a catalogue has been registered. -/
def Registry.loadable (registry : Registry) (oid : Oid) : Bool :=
  loads Catalogue.reference.registrations oid || registry.canLoad oid

namespace Action

variable {id : RegistryId}

/-- **What installing a catalogue carries out**, told from the registry before. -/
theorem carriesOut_installBuiltin (c : Catalogue) (s : Session) :
    CarriesOut id (installBuiltin id c) s
      (c.builtinRegistrations (s.registries id).loadable) ⟨⟩ := by
  have hcatalogue : CarriesOut id (installCatalogue id c) s c.registrations ⟨⟩ :=
    carriesOut_installCatalogue c s
  have hloadable : (((installCatalogue id c).after s).registries id).canLoad =
      (s.registries id).loadable := by
    funext oid
    rw [hcatalogue.canLoad_eq, c.loads_registrations .reference]
    rfl
  have harrays (s' : Session) (h : (s'.registries id).canLoad = (s.registries id).loadable) :
      CarriesOut id (do let _ ← registerAllArrays id) s'
        (allArrayRegistrations (s.registries id).loadable) ⟨⟩ := by
    rw [← h, ← List.append_nil (allArrayRegistrations _)]
    exact (carriesOutAnew_registerAllArrays s').toCarriesOut.bind (.pure _)
  refine hcatalogue.bind ?_
  cases c with
  | optimized => exact harrays _ hloadable
  | reference =>
    have hdumpers (s' : Session) : CarriesOut id (registerArrayDumpers id) s'
        Catalogue.reference.arrayDumperRegistrations ⟨⟩ :=
      carriesOut_registerEntries arrayDumpers s'
    -- The dumpers of arrays change nothing about what can be loaded.
    refine (hdumpers _).bind (harrays _ ?_)
    funext oid
    rw [(hdumpers _).canLoad_eq, hloadable]
    rfl

end Action

/-- A session is **steady** if whatever catalogue is installed, the registrations are those over the
types that can be loaded according to a given function. -/
def Session.Steady (id : RegistryId) (canLoad : Oid → Bool) (s : Session) : Prop :=
  ∀ c : Catalogue,
    c.builtinRegistrations (s.registries id).loadable = c.builtinRegistrations canLoad

namespace Session.Steady

variable {id : RegistryId} {canLoad : Oid → Bool} {s : Session}

theorem carriesOut (h : s.Steady id canLoad) (c : Catalogue) :
    Action.CarriesOut id (Action.installBuiltin id c) s (c.builtinRegistrations canLoad) ⟨⟩ := by
  rw [← h c]
  exact Action.carriesOut_installBuiltin c s

/-- **Installing a catalogue leaves a session steady**: of the built-in types, no more can be loaded
than before. -/
theorem after (h : s.Steady id canLoad) (c : Catalogue) :
    ((Action.installBuiltin id c).after s).Steady id canLoad := by
  have hloadable : ∀ info ∈ table,
      (((Action.installBuiltin id c).after s).registries id).loadable info.oid =
        (s.registries id).loadable info.oid := by
    intro info hinfo
    have hdumpers : loads c.arrayDumperRegistrations info.oid = false := by
      cases c <;> rfl
    rw [Registry.loadable, (Action.carriesOut_installBuiltin c s).canLoad_eq,
      Catalogue.builtinRegistrations, loads_append, loads_append, hdumpers,
      loads_allArrayRegistrations hinfo, c.loads_registrations .reference, Registry.loadable]
    simp only [Bool.or_false, ← Bool.or_assoc, Bool.or_self]
  intro c'
  rw [← h c', Catalogue.builtinRegistrations, Catalogue.builtinRegistrations,
    allArrayRegistrations_congr hloadable]

end Session.Steady

/-! ### What is in force under which key -/

namespace Catalogue

variable {canLoad : Oid → Bool} {key : Key}

theorem last?_builtinRegistrations (c : Catalogue) (canLoad : Oid → Bool) (key : Key) :
    last? (c.builtinRegistrations canLoad) key =
      ((last? (allArrayRegistrations canLoad) key).or (last? c.arrayDumperRegistrations key)).or
        (last? c.registrations key) := by
  rw [builtinRegistrations, last?_append, last?_append]

/-- Under its own keys a catalogue has the last word. -/
theorem last?_builtinRegistrations_of_mem_keys (c : Catalogue) (h : key ∈ c.keys) :
    last? (c.builtinRegistrations canLoad) key = last? c.registrations key := by
  obtain ⟨hdumper, hloader⟩ := c.isArray_eq_false h
  rw [last?_builtinRegistrations, c.last?_arrayDumperRegistrations_eq_none hdumper,
    last?_allArrayRegistrations_eq_none hloader]
  rfl

/-- A key that is neither one of the catalogues nor one of arrays is left alone. -/
theorem last?_builtinRegistrations_eq_none (c : Catalogue) (h : key ∉ c.keys)
    (hdumper : key.isArrayDumper = false) (hloader : key.isArrayLoader = false) :
    last? (c.builtinRegistrations canLoad) key = none := by
  rw [last?_builtinRegistrations, c.last?_arrayDumperRegistrations_eq_none hdumper,
    last?_allArrayRegistrations_eq_none hloader, last?_eq_none_iff.mpr h]
  rfl

/-- The dumpers of arrays come with the reference catalogue. -/
theorem last?_builtinRegistrations_array (c : Catalogue) (format : Format) :
    last? (c.builtinRegistrations canLoad) (.dumper .array format) =
      if c = .reference then
        some (.dumper .array format (Dumper.arrayName format) (.array format))
      else none := by
  have hkeys : .dumper .array format ∉ c.keys := by
    intro h
    have hfalse := (c.isArray_eq_false h).1
    cases hfalse
  rw [last?_builtinRegistrations, last?_allArrayRegistrations_eq_none rfl,
    last?_eq_none_iff.mpr hkeys]
  cases c <;> cases format <;> rfl

/-- **The optimized catalogue adds no key.** -/
theorem isSome_last?_builtinRegistrations
    (h : (last? (optimized.builtinRegistrations canLoad) key).isSome) :
    (last? (reference.builtinRegistrations canLoad) key).isSome := by
  have hdumpers : last? optimized.arrayDumperRegistrations key = none := rfl
  rw [last?_builtinRegistrations, hdumpers, Option.or_none, Option.isSome_or,
    isSome_last?_registrations optimized reference, Bool.or_eq_true] at h
  rw [last?_builtinRegistrations, Option.isSome_or, Option.isSome_or, Bool.or_eq_true,
    Bool.or_eq_true]
  exact h.imp_left .inl

end Catalogue

/-! ### Both catalogues -/

namespace Registry

/-- A registry **looks like** another one: the same registrations are in force, by name and recipe,
and there are as many. -/
structure LooksLike (registry registry' : Registry) : Prop where
  inForce_eq (key : Key) : registry.inForce key = registry'.inForce key
  count_eq (side : Side) : registry.count side = registry'.count side

theorem LooksLike.of_inForce {registry registry' : Registry}
    (h : ∀ key, registry.inForce key = registry'.inForce key) : registry.LooksLike registry' where
  inForce_eq := h
  count_eq := count_eq_of_isSome_inForce fun key => congrArg Option.isSome (h key)

end Registry

namespace Action.CarriesOut

variable {α β : Type} {id : RegistryId} {s : Session} {a : Action α} {b : Action β}
variable {p q : List Registration} {x : α} {y : β}

/-- An operation whose registrations are under keys of the registry adds no key. -/
theorem isSome_inForce_eq (h : CarriesOut id a s p x) {key : Key}
    (hcovered : (last? p key).isSome → ((s.registries id).inForce key).isSome) :
    (((a.after s).registries id).inForce key).isSome = ((s.registries id).inForce key).isSome := by
  rw [h.inForce_eq, Option.isSome_or, Bool.or_eq_right_iff_imp]
  exact hcovered

/-- Repeating an operation changes nothing, provided it carries out the same registrations. -/
theorem looksLike_again (h : CarriesOut id a s p x) (hagain : CarriesOut id a (a.after s) p x) :
    ((a.after (a.after s)).registries id).LooksLike ((a.after s).registries id) := by
  refine .of_inForce fun key => ?_
  rw [hagain.inForce_eq, h.inForce_eq, ← Option.or_assoc, Option.or_self]

/-- Repeating two operations changes nothing, provided they carry out the same registrations. -/
theorem looksLike_both_again (ha : CarriesOut id a s p x) (hb : CarriesOut id b (a.after s) q y)
    (ha' : CarriesOut id a (b.after (a.after s)) p x)
    (hb' : CarriesOut id b (a.after (b.after (a.after s))) q y) :
    ((b.after (a.after (b.after (a.after s)))).registries id).LooksLike
      ((b.after (a.after s)).registries id) := by
  refine .of_inForce fun key => ?_
  rw [hb'.inForce_eq, ha'.inForce_eq, hb.inForce_eq, ha.inForce_eq]
  -- What the second list has no registration for is decided by the first one, then as before.
  cases last? q key with
  | some r => rfl
  | none => rw [Option.none_or, Option.none_or, ← Option.or_assoc, Option.or_self]

end Action.CarriesOut

/-- **The optimized catalogue over the reference catalogue**, in a registry with any makers in it.
Both steps succeed. Afterwards the registration of the optimized catalogue is in force under every
key of the reference catalogue, and arrays are dumped by the dumpers of arrays. Under keys that are
neither of the catalogues nor of arrays, the maker is found that was found at first. The second
step adds no key. And when it is repeated, or both steps are, the registry looks as it did. -/
theorem overlaid_installBuiltin (id : RegistryId) (s : Session) :
    let reference := Action.installBuiltin id .reference
    let optimized := Action.installBuiltin id .optimized
    let s₁ := reference.after s
    let s₂ := optimized.after s₁
    (reference.result s = .ok () ∧ optimized.result s₁ = .ok ()) ∧
    (∀ key ∈ Catalogue.reference.keys, ∃ r ∈ Catalogue.optimized.registrations,
      r.key = key ∧ (s₂.registries id).inForce key = some r) ∧
    (∀ format, (s₂.registries id).inForce (.dumper .array format) =
      some (.dumper .array format (Dumper.arrayName format) (.array format))) ∧
    (∀ key, key ∉ Catalogue.reference.keys → key.isArrayDumper = false →
      key.isArrayLoader = false → (s₂.registries id).maker? key = (s.registries id).maker? key) ∧
    (∀ key, ((s₂.registries id).maker? key).isSome = ((s₁.registries id).maker? key).isSome) ∧
    (∀ side, (s₂.registries id).count side = (s₁.registries id).count side) ∧
    (optimized.result s₂ = .ok () ∧
      ((optimized.after s₂).registries id).LooksLike (s₂.registries id)) ∧
    (reference.result s₂ = .ok () ∧ optimized.result (reference.after s₂) = .ok () ∧
      ((optimized.after (reference.after s₂)).registries id).LooksLike (s₂.registries id)) := by
  -- The same registrations are carried out whenever a step is taken.
  have hs : s.Steady id (s.registries id).loadable := fun _ => rfl
  have h₁ := hs.carriesOut .reference
  have h₂ := (hs.after .reference).carriesOut .optimized
  have hs' := (hs.after .reference).after .optimized
  have hboth := (hs'.after .reference).carriesOut .optimized
  have hreference := hs'.carriesOut .reference
  have hoptimized := hs'.carriesOut .optimized
  -- From here on nothing else counts of what the two steps are.
  generalize Action.installBuiltin id .reference = reference at *
  generalize Action.installBuiltin id .optimized = optimized at *
  have hkeys (key : Key) :
      (((optimized.after (reference.after s)).registries id).inForce key).isSome =
        (((reference.after s).registries id).inForce key).isSome := by
    refine h₂.isSome_inForce_eq fun h => ?_
    rw [h₁.inForce_eq, Option.isSome_or, Catalogue.isSome_last?_builtinRegistrations h,
      Bool.true_or]
  refine ⟨⟨h₁.result_eq, h₂.result_eq⟩, fun key hkey => ?_, fun format => ?_,
    fun key hkey hdumper hloader => ?_, fun key => ?_, Registry.count_eq_of_isSome_inForce hkeys,
    ⟨hoptimized.result_eq, h₂.looksLike_again hoptimized⟩,
    hreference.result_eq, hboth.result_eq, h₁.looksLike_both_again h₂ hreference hboth⟩
  · have hmem := (Catalogue.mem_keys_iff .reference .optimized key).mp hkey
    obtain ⟨r, hr⟩ := Option.isSome_iff_exists.mp (isSome_last?_iff.mpr hmem)
    refine ⟨r, (mem_of_last?_eq_some hr).1, (mem_of_last?_eq_some hr).2, ?_⟩
    rw [h₂.inForce_eq, Catalogue.optimized.last?_builtinRegistrations_of_mem_keys hmem, hr,
      Option.some_or]
  · rw [h₂.inForce_eq, h₁.inForce_eq, Catalogue.last?_builtinRegistrations_array,
      Catalogue.last?_builtinRegistrations_array]
    rfl
  · have hkey' := mt (Catalogue.mem_keys_iff .reference .optimized key).mpr hkey
    rw [h₂.maker?_eq key (Catalogue.optimized.last?_builtinRegistrations_eq_none hkey' hdumper
      hloader), h₁.maker?_eq key (Catalogue.reference.last?_builtinRegistrations_eq_none hkey
      hdumper hloader)]
  · rw [← Registry.isSome_inForce, ← Registry.isSome_inForce]
    exact hkeys key

/-- A session with a dumper of 32-bit numbers that is going to be covered, and one of 8-bit numbers
that no catalogue has. -/
def earlierSession : Session where
  registries _ := Registry.empty
    |>.addDumper (.int .int32) .text ⟨0, "", .scalar (IntType.int16.textDumper .reference)⟩
    |>.addDumper (.int .uint8) .text ⟨1, "", .scalar (IntType.int16.textDumper .reference)⟩

/-- The first one of the two dumpers is covered, the second one stays. -/
theorem overlaid_installBuiltin_earlierSession :
    (∃ r ∈ Catalogue.optimized.registrations, r.key = .dumper (.int .int32) .text ∧
      (((Action.installBuiltin .shared .optimized).after
        ((Action.installBuiltin .shared .reference).after earlierSession)).registries
          .shared).inForce (.dumper (.int .int32) .text) = some r) ∧
    (((Action.installBuiltin .shared .optimized).after
      ((Action.installBuiltin .shared .reference).after earlierSession)).registries
        .shared).maker? (.dumper (.int .uint8) .text) =
      some (.dumper ⟨1, "", .scalar (IntType.int16.textDumper .reference)⟩) := by
  obtain ⟨-, hcovered, -, hkept, -⟩ := overlaid_installBuiltin .shared earlierSession
  refine ⟨hcovered (.dumper (.int .int32) .text) (by decide), ?_⟩
  exact hkept (.dumper (.int .uint8) .text) (by decide) rfl rfl

end PgAdapt
