import Mathlib.Tactic.ByContra
import Mathlib.Tactic.SplitIfs
import PgAdapt.Catalogue.Install
import PgAdapt.Proofs.Action

/-!
# Recipes under keys

What a registry has under its keys once a catalogue has been registered, apart from the numbers of
the makers: the recipes of the catalogue, on top of those that were there
(`PgAdapt.Recipes.installCatalogue_eq_onTopOf`).
-/

namespace PgAdapt

/-! ## What a catalogue leaves in a registry

A maker has a number, and the number depends on the session; the rest of what is registered does
not. `PgAdapt.Recipes` is that rest, the recipe under each key, and for each operation that fills
a registry there is a function on recipes that says what it does: `PgAdapt.Action.Enters`. A chain
of operations enters what its members enter, one after the other, so the function for a whole
catalogue, `PgAdapt.Recipes.installBuiltin`, is put together like the operation.
-/

/-! ### Recipes -/

/-- **What a registry makes** under each key. -/
@[ext]
structure Recipes where
  /-- The recipe for the dumpers of a type of values in a format. -/
  dumper : ValueType → Format → Option DumperRecipe
  /-- The recipe for the loaders of a type of the server in a format. -/
  loader : Oid → Format → Option LoaderRecipe

/-- The recipes of the makers in a registry. -/
def Registry.recipes (registry : Registry) : Recipes where
  dumper source format := (registry.dumper? source format).map DumperFactory.recipe
  loader oid format := (registry.loader? oid format).map LoaderFactory.recipe

theorem Registry.exists_dumper? {registry : Registry} {source : ValueType} {format : Format}
    {recipe : DumperRecipe} (h : registry.recipes.dumper source format = some recipe) :
    ∃ factory, registry.dumper? source format = some factory ∧ factory.recipe = recipe :=
  Option.map_eq_some_iff.mp h

theorem Registry.exists_loader? {registry : Registry} {oid : Oid} {format : Format}
    {recipe : LoaderRecipe} (h : registry.recipes.loader oid format = some recipe) :
    ∃ factory, registry.loader? oid format = some factory ∧ factory.recipe = recipe :=
  Option.map_eq_some_iff.mp h

namespace Recipes

/-- The recipes after a registration of a dumper. -/
def enterDumper (r : Recipes) (source : ValueType) (format : Format) (recipe : DumperRecipe) :
    Recipes where
  dumper source' format' :=
    if (source, format) = (source', format') then some recipe else r.dumper source' format'
  loader := r.loader

/-- The recipes after a registration of a loader. -/
def enterLoader (r : Recipes) (oid : Oid) (format : Format) (recipe : LoaderRecipe) :
    Recipes where
  dumper := r.dumper
  loader oid' format' :=
    if (oid, format) = (oid', format') then some recipe else r.loader oid' format'

/-- The recipes after a registration. -/
def enter (r : Recipes) : Registration → Recipes
  | .dumper source format _ recipe => r.enterDumper source format recipe
  | .loader oid format _ recipe => r.enterLoader oid format recipe

/-- The recipes after the registrations of a list. -/
def enterAll (r : Recipes) (entries : List Entry) : Recipes :=
  entries.foldl (fun r entry => r.enter entry.registration) r

/-- The recipes after a **catalogue** has been registered. -/
def installCatalogue (r : Recipes) (c : Catalogue) : Recipes :=
  CodecGroup.order.foldl (fun r group => r.enterAll (c.content group)) r

/-- Whether there is a recipe for the loaders of a type, in either format. -/
def canLoad (r : Recipes) (oid : Oid) : Bool :=
  (r.loader oid .text).isSome || (r.loader oid .binary).isSome

/-- The recipes after the loaders of arrays of a type have been registered. -/
def enterArray (r : Recipes) (array element : Oid) : Recipes :=
  (r.enterLoader array .text (.arrayText element)).enterLoader array .binary .arrayBinary

/-- The recipes after the loaders of arrays over a built-in type have been registered, if there
are such arrays and the type can be loaded. -/
def enterArrayOver (r : Recipes) (info : BuiltinType) : Recipes :=
  match info.arrayOid with
  | none => r
  | some array => if r.canLoad info.oid then r.enterArray array info.oid else r

/-- The recipes after the loaders of arrays have been registered. -/
def enterAllArrays (r : Recipes) : Recipes := BuiltinType.table.foldl enterArrayOver r

/-- The recipes after a **catalogue with its arrays** has been registered. -/
def installBuiltin (r : Recipes) (c : Catalogue) : Recipes :=
  let r := r.installCatalogue c
  (if c = .reference then r.enterAll arrayDumpers else r).enterAllArrays

/-! ### What the loaders of arrays leave alone -/

theorem dumper_enterArrayOver (r : Recipes) (info : BuiltinType) :
    (r.enterArrayOver info).dumper = r.dumper := by
  rw [enterArrayOver]
  split
  · rfl
  · split_ifs <;> rfl

theorem loader_enterArrayOver (r : Recipes) {info : BuiltinType} {oid : Oid}
    (h : info.arrayOid ≠ some oid) (format : Format) :
    (r.enterArrayOver info).loader oid format = r.loader oid format := by
  rw [enterArrayOver]
  split
  · rfl
  · rename_i array harray
    have hne : array ≠ oid := by
      rintro rfl
      exact h harray
    split_ifs
    · simp [enterArray, enterLoader, hne]
    · rfl

/-- The loaders of arrays leave all dumpers alone. -/
theorem dumper_enterAllArrays (r : Recipes) : r.enterAllArrays.dumper = r.dumper := by
  rw [enterAllArrays]
  induction BuiltinType.table generalizing r with
  | nil => rfl
  | cons info table ih => rw [List.foldl_cons, ih, dumper_enterArrayOver]

/-- The loaders of arrays leave all loaders alone except those for the types of arrays. -/
theorem loader_enterAllArrays (r : Recipes) {oid : Oid}
    (h : ∀ info ∈ BuiltinType.table, info.arrayOid ≠ some oid) (format : Format) :
    r.enterAllArrays.loader oid format = r.loader oid format := by
  rw [enterAllArrays]
  generalize BuiltinType.table = table at h
  induction table generalizing r with
  | nil => rfl
  | cons info table ih =>
    rw [List.forall_mem_cons] at h
    rw [List.foldl_cons, ih _ h.2, loader_enterArrayOver r h.1]

/-- A dumper of a catalogue stays when the arrays are registered, unless it is one of arrays. -/
theorem dumper_installBuiltin (r : Recipes) (c : Catalogue) {source : ValueType}
    (h : source ≠ .array) (format : Format) :
    (r.installBuiltin c).dumper source format = (r.installCatalogue c).dumper source format := by
  rw [installBuiltin, dumper_enterAllArrays]
  split_ifs
  · cases format <;>
      simp [arrayDumpers, Entry.separate, Format.all, enterAll, enter, enterDumper, Ne.symm h]
  · rfl

/-- A loader of a catalogue stays when the arrays are registered, unless it is one of arrays. -/
theorem loader_installBuiltin (r : Recipes) (c : Catalogue) {oid : Oid}
    (h : ∀ info ∈ BuiltinType.table, info.arrayOid ≠ some oid) (format : Format) :
    (r.installBuiltin c).loader oid format = (r.installCatalogue c).loader oid format := by
  rw [installBuiltin, loader_enterAllArrays _ h]
  split_ifs <;> rfl

end Recipes

/-! ### Operations -/

namespace Action

variable {α β : Type} {id : RegistryId}

/-- An operation gives something in every session, and changes the recipes of a registry in a given
way. -/
def Enters (id : RegistryId) (a : Action α) (f : Recipes → Recipes) : Prop :=
  ∀ s, (∃ x, a.result s = .ok x) ∧
    ((a.after s).registries id).recipes = f (s.registries id).recipes

namespace Enters

theorem pure (x : α) : Enters id (Pure.pure x : Action α) fun r => r :=
  fun _ => ⟨⟨x, rfl⟩, rfl⟩

/-- A chain of operations enters what its members enter. -/
theorem bind {a : Action α} {b : α → Action β} {f g : Recipes → Recipes} (ha : Enters id a f)
    (hb : ∀ x, Enters id (b x) g) : Enters id (a >>= b) fun r => g (f r) := by
  intro s
  obtain ⟨⟨x, hx⟩, hf⟩ := ha s
  obtain ⟨⟨y, hy⟩, hg⟩ := hb x (a.after s)
  refine ⟨⟨y, ?_⟩, ?_⟩
  · rw [result_bind_ok hx, hy]
  · rw [after_bind_ok hx, hg, hf]

/-- Operations for each member of a list enter what they enter, one after the other. -/
theorem forM {a : β → Action PUnit} {f : β → Recipes → Recipes} (h : ∀ x, Enters id (a x) (f x))
    (l : List β) : Enters id (l.forM a) fun r => l.foldl (fun r x => f x r) r := by
  induction l with
  | nil => exact .pure _
  | cons x l ih => exact (h x).bind fun _ => ih

theorem mapM {a : β → Action α} {f : β → Recipes → Recipes} (h : ∀ x, Enters id (a x) (f x))
    (l : List β) : Enters id (l.mapM a) fun r => l.foldl (fun r x => f x r) r := by
  induction l with
  | nil => exact .pure _
  | cons x l ih =>
    rw [List.mapM_cons]
    exact (h x).bind fun _ => ih.bind fun _ => .pure _

end Enters

theorem enters_report (event : Event) : Enters id (report event) fun r => r :=
  fun _ => ⟨⟨(), rfl⟩, rfl⟩

theorem enters_fresh : Enters id fresh fun r => r := fun s => ⟨⟨s.next, rfl⟩, rfl⟩

theorem enters_registry (id' : RegistryId) : Enters id (registry id') fun r => r :=
  fun s => ⟨⟨s.registries id', rfl⟩, rfl⟩

theorem enters_registerDumper (source : ValueType) (format : Format) (factory : DumperFactory) :
    Enters id (registerDumper id source format factory)
      (·.enterDumper source format factory.recipe) := by
  intro s
  refine ⟨⟨(), rfl⟩, ?_⟩
  have hafter : ((registerDumper id source format factory).after s).registries id =
      (s.registries id).addDumper source format factory := assign_self _ _ _
  rw [hafter]
  ext source' format' : 3
  · simp only [Registry.recipes, Recipes.enterDumper, Registry.dumper?, Registry.addDumper,
      Table.get?_insert]
    split_ifs <;> rfl
  · rfl

theorem enters_registerLoader (oid : Oid) (format : Format) (factory : LoaderFactory) :
    Enters id (registerLoader id oid format factory)
      (·.enterLoader oid format factory.recipe) := by
  intro s
  refine ⟨⟨(), rfl⟩, ?_⟩
  have hafter : ((registerLoader id oid format factory).after s).registries id =
      (s.registries id).addLoader oid format factory := assign_self _ _ _
  rw [hafter]
  ext oid' format' : 3
  · rfl
  · simp only [Registry.recipes, Recipes.enterLoader, Registry.loader?, Registry.addLoader,
      Table.get?_insert]
    split_ifs <;> rfl

theorem enters_register (maker : Nat) (registration : Registration) :
    Enters id (register id maker registration) (·.enter registration) := by
  cases registration with
  | dumper source format name recipe => exact enters_registerDumper source format _
  | loader oid format name recipe => exact enters_registerLoader oid format _

theorem enters_registerEntries (entries : List Entry) :
    Enters id (registerEntries id entries) (·.enterAll entries) := by
  have hreserve : Enters id (reserve (entries.length + 1)) fun r => r :=
    fun s => ⟨⟨s.next, rfl⟩, rfl⟩
  exact hreserve.bind fun base => .forM (fun entry => enters_register _ _) entries

theorem enters_installCatalogue (c : Catalogue) :
    Enters id (installCatalogue id c) (·.installCatalogue c) :=
  .forM (fun group => (enters_registerEntries (c.content group)).bind fun _ =>
    (enters_registry id).bind fun _ => enters_report _) _

theorem enters_registerArray (array element : Oid) (name : Option String) :
    Enters id (registerArray id array element name) (·.enterArray array element) := by
  simp only [registerArray, newLoaderFactory, bind_assoc, pure_bind]
  refine enters_fresh.bind fun _ => (enters_registerLoader array .text _).bind
    (g := (·.enterLoader array .binary .arrayBinary)) fun _ => ?_
  exact enters_fresh.bind fun _ => enters_registerLoader array .binary _

/-- Whether the arrays are registered is seen from the recipes. -/
theorem canLoad_recipes (registry : Registry) (oid : Oid) :
    registry.recipes.canLoad oid = registry.canLoad oid := by
  simp [Recipes.canLoad, Registry.canLoad, Registry.recipes]

theorem enters_registerArrayOver (info : BuiltinType) :
    Enters id (registerArrayOver id info) (·.enterArrayOver info) := by
  cases harray : info.arrayOid with
  | none =>
    simp only [registerArrayOver, Recipes.enterArrayOver, harray]
    exact .pure false
  | some array =>
    simp only [registerArrayOver, Recipes.enterArrayOver, harray]
    -- Here what is entered depends on the registry, so `Enters.bind` does not apply.
    intro s
    rw [result_bind_ok (result_registry id s), after_bind_ok (result_registry id s), after_registry]
    simp only [canLoad_recipes]
    split_ifs
    · exact (enters_registerArray array info.oid _).bind (fun _ => .pure true) s
    · exact Enters.pure false s

theorem enters_registerAllArrays :
    Enters id (registerAllArrays id) Recipes.enterAllArrays :=
  (Enters.mapM enters_registerArrayOver BuiltinType.table).bind fun _ =>
    (enters_report _).bind fun _ => .pure _

/-- **What a catalogue with its arrays leaves in a registry.** -/
theorem enters_installBuiltin (c : Catalogue) :
    Enters id (installBuiltin id c) (·.installBuiltin c) := by
  have harrays : Enters id (do let _ ← registerAllArrays id) Recipes.enterAllArrays :=
    enters_registerAllArrays.bind fun _ => .pure _
  refine (enters_installCatalogue c).bind (g := fun r =>
    (if c = .reference then r.enterAll arrayDumpers else r).enterAllArrays) fun _ => ?_
  cases c with
  | reference => exact (enters_registerEntries arrayDumpers).bind fun _ => harrays
  | optimized => exact harrays

end Action

/-! ## Registries that carry a catalogue

Registering a catalogue lays its recipes on top of those that are there:
`PgAdapt.Recipes.installCatalogue_eq_onTopOf`. So what is found under a key of the catalogue does
not depend on what was registered before, and a registry **carries** the catalogue
(`PgAdapt.Registry.Carries`), whether the catalogue has been registered alone or together with its
arrays, which have keys of their own: `PgAdapt.Action.carries_installCatalogue` and
`PgAdapt.Action.carries_installBuiltin`.
-/

namespace Recipes

/-! ### Recipes on top of recipes -/

/-- No recipes at all. -/
def empty : Recipes where
  dumper _ _ := none
  loader _ _ := none

/-- Recipes laid **on top of** others, which show through where there are none. -/
def onTopOf (r below : Recipes) : Recipes where
  dumper source format := (r.dumper source format).or (below.dumper source format)
  loader oid format := (r.loader oid format).or (below.loader oid format)

theorem dumper_onTopOf {r : Recipes} {source : ValueType} {format : Format} {recipe : DumperRecipe}
    (h : r.dumper source format = some recipe) (below : Recipes) :
    (r.onTopOf below).dumper source format = some recipe := by
  change (r.dumper source format).or _ = _
  rw [h, Option.some_or]

theorem loader_onTopOf {r : Recipes} {oid : Oid} {format : Format} {recipe : LoaderRecipe}
    (h : r.loader oid format = some recipe) (below : Recipes) :
    (r.onTopOf below).loader oid format = some recipe := by
  change (r.loader oid format).or _ = _
  rw [h, Option.some_or]

theorem empty_onTopOf (r : Recipes) : empty.onTopOf r = r := rfl

theorem enter_onTopOf (r below : Recipes) (registration : Registration) :
    (r.onTopOf below).enter registration = (r.enter registration).onTopOf below := by
  rcases registration with ⟨source, format, name, recipe⟩ | ⟨oid, format, name, recipe⟩
  · ext source' format' : 3
    · simp only [enter, enterDumper, onTopOf]
      split_ifs <;> rfl
    · rfl
  · ext oid' format' : 3
    · rfl
    · simp only [enter, enterLoader, onTopOf]
      split_ifs <;> rfl

theorem enterAll_onTopOf (r below : Recipes) (entries : List Entry) :
    (r.onTopOf below).enterAll entries = (r.enterAll entries).onTopOf below := by
  induction entries generalizing r with
  | nil => rfl
  | cons entry entries ih =>
    change ((r.onTopOf below).enter entry.registration).enterAll entries = _
    rw [enter_onTopOf, ih]
    rfl

theorem installCatalogue_onTopOf (r below : Recipes) (c : Catalogue) :
    (r.onTopOf below).installCatalogue c = (r.installCatalogue c).onTopOf below := by
  rw [installCatalogue, installCatalogue]
  induction CodecGroup.order generalizing r with
  | nil => rfl
  | cons group groups ih => rw [List.foldl_cons, List.foldl_cons, enterAll_onTopOf, ih]

end Recipes

/-- The **recipes of a catalogue**: what it leaves in a registry without makers. -/
def Catalogue.recipes (c : Catalogue) : Recipes := Recipes.empty.installCatalogue c

/-- **Registering a catalogue lays its recipes on top of those that are there.** -/
theorem Recipes.installCatalogue_eq_onTopOf (r : Recipes) (c : Catalogue) :
    r.installCatalogue c = c.recipes.onTopOf r := by
  rw [Catalogue.recipes, ← installCatalogue_onTopOf, empty_onTopOf]

/-! ### The keys of a catalogue -/

namespace Catalogue

/-- The types of numbers of the server that a catalogue loads. -/
def numberOids : List Oid :=
  (dumpedInts ++ [IntType.uint32]).map IntType.oid ++ [FloatType.single, .double].map FloatType.oid

/-- The types of the server that a catalogue loads. -/
def loadedOids : List Oid := Text.serverTypes ++ [.bytea, .bool] ++ numberOids

/-- None of these types is a type of arrays. -/
theorem ne_arrayOid_of_mem_loadedOids {oid : Oid} (h : oid ∈ loadedOids) :
    ∀ info ∈ BuiltinType.table, info.arrayOid ≠ some oid := by
  revert oid
  decide

/-- The type of the server that a registration is for, if it is for a loader. -/
def loadedOid? : Registration → Option Oid
  | .dumper .. => none
  | .loader oid .. => some oid

theorem mem_loadedOids {c : Catalogue} {group : CodecGroup} {entry : Entry}
    (hentry : entry ∈ c.content group) {oid : Oid}
    (h : loadedOid? entry.registration = some oid) : oid ∈ loadedOids := by
  have hall : ∀ oid ∈ (c.content group).filterMap fun entry => loadedOid? entry.registration,
      oid ∈ loadedOids := by
    cases c <;> cases group <;> decide
  exact hall oid (List.mem_filterMap.mpr ⟨entry, hentry, h⟩)

theorem loader_enterAll_of_ne {oid : Oid} {entries : List Entry}
    (h : ∀ entry ∈ entries, loadedOid? entry.registration ≠ some oid) (r : Recipes)
    (format : Format) : (r.enterAll entries).loader oid format = r.loader oid format := by
  induction entries generalizing r with
  | nil => rfl
  | cons entry entries ih =>
    rw [List.forall_mem_cons] at h
    change ((r.enter entry.registration).enterAll entries).loader oid format = _
    rw [ih h.2]
    rcases hregistration : entry.registration with _ | ⟨oid', format', name, recipe⟩
    · rfl
    · have hne : oid' ≠ oid := by
        rintro rfl
        exact h.1 (congrArg loadedOid? hregistration)
      simp [Recipes.enter, Recipes.enterLoader, hne]

/-- A catalogue loads no other types. -/
theorem loader_recipes_eq_none (c : Catalogue) {oid : Oid} (h : oid ∉ loadedOids)
    (format : Format) : c.recipes.loader oid format = none := by
  have hgroups (groups : List CodecGroup) (r : Recipes) :
      (groups.foldl (fun r group => r.enterAll (c.content group)) r).loader oid format =
        r.loader oid format := by
    induction groups generalizing r with
    | nil => rfl
    | cons group groups ih =>
      rw [List.foldl_cons, ih]
      exact loader_enterAll_of_ne (fun entry hentry hoid => h (mem_loadedOids hentry hoid)) r format
  exact hgroups CodecGroup.order .empty

/-- A catalogue loads all types of texts in the same way. -/
theorem loader_recipes_text (c : Catalogue) {oid : Oid} (h : oid ∈ Text.serverTypes)
    (format : Format) :
    c.recipes.loader oid format = some (.scalar (Text.loader c format)) := by
  simp only [Text.serverTypes, List.mem_cons, List.not_mem_nil, or_false] at h
  rcases h with rfl | rfl | rfl | rfl | rfl <;> cases c <;> cases format <;> rfl

/-- A catalogue does not dump arrays. -/
theorem dumper_recipes_array (c : Catalogue) (format : Format) :
    c.recipes.dumper .array format = none := by
  cases c <;> cases format <;> rfl

end Catalogue

/-! ### Registries -/

/-- A registry **carries** a catalogue: under each key of the catalogue there is a maker that makes
what the catalogue makes. -/
structure Registry.Carries (registry : Registry) (c : Catalogue) : Prop where
  dumper : ∀ {source format recipe}, c.recipes.dumper source format = some recipe →
    registry.recipes.dumper source format = some recipe
  loader : ∀ {oid format recipe}, c.recipes.loader oid format = some recipe →
    registry.recipes.loader oid format = some recipe

namespace Registry.Carries

variable {registry : Registry} {r : Recipes} {c : Catalogue}

theorem of_installCatalogue (h : registry.recipes = r.installCatalogue c) : registry.Carries c := by
  rw [Recipes.installCatalogue_eq_onTopOf] at h
  refine ⟨fun hrecipe => ?_, fun hrecipe => ?_⟩
  · rw [h]
    exact Recipes.dumper_onTopOf hrecipe _
  · rw [h]
    exact Recipes.loader_onTopOf hrecipe _

/-- The arrays that are registered with a catalogue hide none of its codecs. -/
theorem of_installBuiltin (h : registry.recipes = r.installBuiltin c) : registry.Carries c := by
  refine ⟨?_, ?_⟩
  -- The keys of arrays are the only ones that are registered after the catalogue.
  · intro source format recipe hrecipe
    have hsource : source ≠ .array := by
      rintro rfl
      rw [Catalogue.dumper_recipes_array] at hrecipe
      cases hrecipe
    rw [h, Recipes.dumper_installBuiltin _ c hsource, Recipes.installCatalogue_eq_onTopOf]
    exact Recipes.dumper_onTopOf hrecipe _
  · intro oid format recipe hrecipe
    have hoid : oid ∈ Catalogue.loadedOids := by
      by_contra hoid
      rw [c.loader_recipes_eq_none hoid] at hrecipe
      cases hrecipe
    rw [h, Recipes.loader_installBuiltin _ c (Catalogue.ne_arrayOid_of_mem_loadedOids hoid),
      Recipes.installCatalogue_eq_onTopOf]
    exact Recipes.loader_onTopOf hrecipe _

end Registry.Carries

namespace Action

variable {id : RegistryId}

/-- **A registry carries the catalogue that has been registered last**, whatever was in it
before. -/
theorem carries_installCatalogue (c : Catalogue) (s : Session) :
    (installCatalogue id c).result s = .ok () ∧
      (((installCatalogue id c).after s).registries id).Carries c := by
  obtain ⟨⟨x, hresult⟩, hrecipes⟩ := enters_installCatalogue c s
  exact ⟨hresult, .of_installCatalogue hrecipes⟩

/-- A registry carries the catalogue that has been registered last with its arrays. -/
theorem carries_installBuiltin (c : Catalogue) (s : Session) :
    (installBuiltin id c).result s = .ok () ∧
      (((installBuiltin id c).after s).registries id).Carries c := by
  obtain ⟨⟨x, hresult⟩, hrecipes⟩ := enters_installBuiltin c s
  exact ⟨hresult, .of_installBuiltin hrecipes⟩

end Action

end PgAdapt
