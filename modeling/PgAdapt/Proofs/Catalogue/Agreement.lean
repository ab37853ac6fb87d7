import PgAdapt.Proofs.Catalogue.Recipes
import PgAdapt.Proofs.Scalar.Alike
import PgAdapt.Proofs.Session.Running

/-!
# The catalogues look alike

A codec of the optimized catalogue does what the codec of the reference catalogue under the same
key does, except for the wording of errors. There are two exceptions: the optimized catalogue
writes floating-point numbers in a style of its own, and it reads whole numbers in a way of its
own. What has been compared codec by codec is put together for whole catalogues,
`PgAdapt.Catalogue.alike_dumper` and `PgAdapt.Catalogue.alike_loader`, and carried over to dumpers
and loaders in a context: `PgAdapt.optimized_alike_reference`.
-/

namespace PgAdapt

/-! ### Catalogues -/

/-- Makers of dumpers of single values make dumpers that **look alike**. -/
inductive DumperRecipe.Alike : DumperRecipe → DumperRecipe → Prop where
  | scalar {codec codec' : ScalarDumper} (h : codec.Alike codec') :
      Alike (.scalar codec) (.scalar codec')

/-- Makers of loaders of single values make loaders that **look alike**. -/
inductive LoaderRecipe.Alike : LoaderRecipe → LoaderRecipe → Prop where
  | scalar {codec codec' : ScalarLoader} (h : codec.Alike codec') :
      Alike (.scalar codec) (.scalar codec')

namespace Catalogue

/-- **The catalogues make dumpers that look alike**, but for floating-point numbers in text. -/
theorem alike_dumper {source : ValueType} {format : Format}
    (h : ∀ t, (source, format) ≠ (.float t, .text)) :
    Option.Rel DumperRecipe.Alike (reference.recipes.dumper source format)
      (optimized.recipes.dumper source format) := by
  rcases source with _ | t | t | _ | _ | _ | _ | _ | _ <;> rcases format with _ | _
  case bool.text => exact .some (.scalar (Singleton.boolTextDumper_alike _ _))
  case bool.binary => exact .some (.scalar (Singleton.boolBinaryDumper_alike _ _))
  case int.text =>
    rcases t with _ | _ | _ | _ | _
    case uint8 | uint32 => exact .none
    all_goals exact .some (.scalar (IntType.textDumper_alike _ _ _))
  case int.binary =>
    rcases t with _ | _ | _ | _ | _
    case uint8 | uint32 => exact .none
    all_goals exact .some (.scalar (IntType.binaryDumper_alike _ _ _))
  case float.text => exact absurd rfl (h t)
  case float.binary =>
    rcases t with _ | _ <;> exact .some (.scalar (FloatType.binaryDumper_alike _ _ _))
  case text.text | staticText.text => exact .some (.scalar (Text.textDumper_alike _ _))
  case text.binary | staticText.binary => exact .some (.scalar (Text.binaryDumper_alike _ _))
  case blob.text | sharedBlob.text => exact .some (.scalar (Blob.textDumper_alike _ _))
  case blob.binary | sharedBlob.binary => exact .some (.scalar (Blob.binaryDumper_alike _ _))
  case null.text => exact .some (.scalar (Singleton.nullDumper_alike _ _))
  case null.binary | array.text | array.binary => exact .none

/-- **The catalogues make loaders that look alike**, but for numbers in text. -/
theorem alike_loader {oid : Oid} {format : Format} (h : format = .text → oid ∉ numberOids) :
    Option.Rel LoaderRecipe.Alike (reference.recipes.loader oid format)
      (optimized.recipes.loader oid format) := by
  by_cases hoid : oid ∈ loadedOids
  · have hcases : oid ∈ Text.serverTypes ∨ oid = .bytea ∨ oid = .bool ∨ oid ∈ numberOids := by
      simpa [loadedOids, or_assoc] using hoid
    rcases hcases with hoid | rfl | rfl | hoid
    · rw [loader_recipes_text _ hoid, loader_recipes_text _ hoid]
      exact .some (.scalar (Text.loader_alike _ _ _))
    · rcases format with _ | _
      · exact .some (.scalar (Blob.textLoader_alike _ _))
      · exact .some (.scalar (Blob.binaryLoader_alike _ _))
    · rcases format with _ | _
      · exact .some (.scalar (Singleton.boolTextLoader_alike _ _))
      · exact .some (.scalar (Singleton.boolBinaryLoader_alike _ _))
    · rcases format with _ | _
      · exact absurd hoid (h rfl)
      · rcases List.mem_append.mp hoid with hint | hfloat
        · obtain ⟨t, -, rfl⟩ := List.mem_map.mp hint
          rcases t with _ | _ | _ | _ | _
          case uint8 => exact .none
          all_goals exact .some (.scalar (IntType.binaryLoader_alike _ _ _))
        · obtain ⟨t, -, rfl⟩ := List.mem_map.mp hfloat
          rcases t with _ | _ <;> exact .some (.scalar (FloatType.binaryLoader_alike _ _ _))
  · rw [loader_recipes_eq_none _ hoid, loader_recipes_eq_none _ hoid]
    exact .none

end Catalogue

/-! ### Dumpers and loaders in a context -/

namespace Dumper

variable {d : Dumper} {codec : ScalarDumper} (h : d.body = .scalar codec)

include h

theorem dump_of_scalar (v : Value) : d.dump v = Action.ofExcept (codec.dump v) := by
  obtain ⟨id, source, format, oid, connection, escape, body⟩ := d
  obtain rfl : body = .scalar codec := h
  rcases v with _ | _ | _ | _ | _ | _ | _ | _ | _ <;> rfl

theorem quote_of_literal {literal : Value → Except AdaptError Bytes}
    (hliteral : codec.literal = some literal) (v : Value) :
    d.quote v = Action.ofExcept (literal v) := by
  simp only [quote, h, hliteral]

theorem quote_of_scalar (hliteral : codec.literal = none) (v : Value) :
    d.quote v = Action.ofExcept (codec.dump v) >>= quoteWith d.connection d.escape := by
  simp only [quote, h, hliteral, dump_of_scalar h]

end Dumper

/-- Dumpers that **look alike**: they announce the same type and format, and what they make of any
value is alike, as bytes and as a literal. -/
structure Dumper.Alike (d d' : Dumper) : Prop where
  oid : d.oid = d'.oid
  format : d.format = d'.format
  dump : ∀ v, Action.Alike (d.dump v) (d'.dump v)
  quote : ∀ v, Action.Alike (d.quote v) (d'.quote v)

/-- Loaders that **look alike**: they take the same format, and what they make of any bytes is
alike. -/
structure Loader.Alike (l l' : Loader) : Prop where
  format : l.format = l'.format
  load : ∀ data, Action.Alike (l.load data) (l'.load data)

/-- Codecs that look alike make dumpers that look alike. -/
theorem ScalarDumper.Alike.dumper {codec codec' : ScalarDumper} (h : codec.Alike codec')
    {d d' : Dumper} (hd : d.body = .scalar codec) (hd' : d'.body = .scalar codec')
    (hoid : d.oid = d'.oid) (hformat : d.format = d'.format)
    (hconnection : d.connection = d'.connection) (hescape : d.escape = d'.escape) :
    d.Alike d' where
  oid := hoid
  format := hformat
  dump v := by
    rw [Dumper.dump_of_scalar hd, Dumper.dump_of_scalar hd']
    exact .ofExcept (h.dump v)
  quote v := by
    have hliteral := h.literal
    rcases hown : codec.literal with _ | literal <;> rcases hown' : codec'.literal with _ | literal'
    all_goals rw [hown, hown'] at hliteral
    · rw [Dumper.quote_of_scalar hd hown, Dumper.quote_of_scalar hd' hown', hconnection, hescape]
      exact .bind (.ofExcept (h.dump v)) _
    · cases hliteral
    · cases hliteral
    · rw [Dumper.quote_of_literal hd hown, Dumper.quote_of_literal hd' hown']
      rcases hliteral with ⟨hliteral⟩ | _
      exact .ofExcept (hliteral v)

theorem ScalarLoader.Alike.loader {codec codec' : ScalarLoader} (h : codec.Alike codec')
    {l l' : Loader} (hl : l.body = .scalar codec) (hl' : l'.body = .scalar codec')
    (hformat : l.format = l'.format) : l.Alike l' where
  format := hformat
  load data := by
    rw [Loader.load, Loader.load, Loader.loadWithin_eq, Loader.loadWithin_eq, hl, hl']
    exact .ofExcept (h.load data)

/-! ### Both catalogues -/

/-- The dumper that a maker of dumpers of single values makes. -/
theorem DumperFactory.result_build_scalar {factory : DumperFactory} {codec : ScalarDumper}
    (h : factory.recipe = .scalar codec) (source : ValueType) (ctx : Context) (s : Session) :
    ∃ id, (factory.build source ctx).result s = .ok
      { id, source, format := codec.format, oid := (s.scope ctx).announced codec.oid,
        connection := ctx.connection, escape := ctx.config.escape, body := .scalar codec } := by
  obtain ⟨d, hd, hbuilt⟩ := factory.exists_result_build source ctx s
  rw [h] at hbuilt
  obtain ⟨id, _⟩ := hbuilt
  exact ⟨id, hd⟩

/-- The loader that a maker of loaders of single values makes. -/
theorem LoaderFactory.result_build_scalar {factory : LoaderFactory} {codec : ScalarLoader}
    (h : factory.recipe = .scalar codec) (oid : Oid) (ctx : Context) (s : Session) :
    ∃ id, (factory.build oid ctx).result s = .ok
      { id, oid, format := codec.format, connection := ctx.connection, body := .scalar codec } := by
  obtain ⟨l, hl, hbuilt⟩ := factory.exists_result_build oid ctx s
  rw [h] at hbuilt
  obtain ⟨id, _⟩ := hbuilt
  exact ⟨id, hl⟩

/-- **The optimized catalogue looks like the reference catalogue.** Let one registry carry the
reference catalogue and another one the optimized catalogue, as they do once it has been registered
there, alone or with its arrays. Under each key that both catalogues have, except for floating-point
numbers in text, both registries have a maker of dumpers, and in contexts that differ at most in
their registry – whatever their connection, if they have one, and its state – these make dumpers
that look alike. Likewise the makers of loaders under each key of both catalogues, except for
numbers in text, make loaders that look alike. -/
theorem optimized_alike_reference :
    (∀ (c : Catalogue) (id : RegistryId) (s : Session),
      ((Action.installCatalogue id c).result s = .ok () ∧
        (((Action.installCatalogue id c).after s).registries id).Carries c) ∧
      ((Action.installBuiltin id c).result s = .ok () ∧
        (((Action.installBuiltin id c).after s).registries id).Carries c)) ∧
    ∀ {registry registry' : Registry},
      registry.Carries .reference → registry'.Carries .optimized →
        (∀ (source : ValueType) (format : Format),
          (Catalogue.reference.recipes.dumper source format).isSome →
          (Catalogue.optimized.recipes.dumper source format).isSome →
          (∀ t, (source, format) ≠ (.float t, .text)) →
          ∃ factory factory', registry.dumper? source format = some factory ∧
            registry'.dumper? source format = some factory' ∧
            ∀ (ctx : Context) (id : RegistryId) (s s' : Session), s'.connections = s.connections →
              ∃ d d', (factory.build source ctx).result s = .ok d ∧
                (factory'.build source { ctx with registry := id }).result s' = .ok d' ∧
                d.Alike d') ∧
        ∀ (oid : Oid) (format : Format),
          (Catalogue.reference.recipes.loader oid format).isSome →
          (Catalogue.optimized.recipes.loader oid format).isSome →
          (format = .text → oid ∉ Catalogue.numberOids) →
          ∃ factory factory', registry.loader? oid format = some factory ∧
            registry'.loader? oid format = some factory' ∧
            ∀ (ctx : Context) (id : RegistryId) (s s' : Session),
              ∃ l l', (factory.build oid ctx).result s = .ok l ∧
                (factory'.build oid { ctx with registry := id }).result s' = .ok l' ∧
                l.Alike l' := by
  refine ⟨fun c id s => ⟨Action.carries_installCatalogue c s, Action.carries_installBuiltin c s⟩,
    fun {registry registry'} hregistry hregistry' => ⟨?_, ?_⟩⟩
  · intro source format hsome hsome' hfloat
    obtain ⟨recipe, hrecipe⟩ := Option.isSome_iff_exists.mp hsome
    obtain ⟨recipe', hrecipe'⟩ := Option.isSome_iff_exists.mp hsome'
    have hrel := Catalogue.alike_dumper hfloat
    rw [hrecipe, hrecipe'] at hrel
    obtain ⟨@⟨codec, codec', hcodec⟩⟩ := hrel
    obtain ⟨factory, hfactory, hscalar⟩ := Registry.exists_dumper? (hregistry.dumper hrecipe)
    obtain ⟨factory', hfactory', hscalar'⟩ := Registry.exists_dumper? (hregistry'.dumper hrecipe')
    refine ⟨factory, factory', hfactory, hfactory', fun ctx id s s' hconnections => ?_⟩
    obtain ⟨number, hd⟩ := DumperFactory.result_build_scalar hscalar source ctx s
    obtain ⟨number', hd'⟩ := DumperFactory.result_build_scalar hscalar' source
      { ctx with registry := id } s'
    -- A type that is left open is announced as the connection demands, which both contexts share.
    have hoid : (s.scope ctx).announced codec.oid =
        (s'.scope { ctx with registry := id }).announced codec'.oid := by
      simp only [Scope.announced, Session.scope, hconnections, hcodec.oid]
    exact ⟨_, _, hd, hd', hcodec.dumper rfl rfl hoid hcodec.format rfl rfl⟩
  · intro oid format hsome hsome' hnumber
    obtain ⟨recipe, hrecipe⟩ := Option.isSome_iff_exists.mp hsome
    obtain ⟨recipe', hrecipe'⟩ := Option.isSome_iff_exists.mp hsome'
    have hrel := Catalogue.alike_loader hnumber
    rw [hrecipe, hrecipe'] at hrel
    obtain ⟨@⟨codec, codec', hcodec⟩⟩ := hrel
    obtain ⟨factory, hfactory, hscalar⟩ := Registry.exists_loader? (hregistry.loader hrecipe)
    obtain ⟨factory', hfactory', hscalar'⟩ := Registry.exists_loader? (hregistry'.loader hrecipe')
    refine ⟨factory, factory', hfactory, hfactory', fun ctx id s s' => ?_⟩
    obtain ⟨number, hl⟩ := LoaderFactory.result_build_scalar hscalar oid ctx s
    obtain ⟨number', hl'⟩ := LoaderFactory.result_build_scalar hscalar' oid
      { ctx with registry := id } s'
    exact ⟨_, _, hl, hl', hcodec.loader rfl rfl hcodec.format⟩

/-! ### One registry of each -/

/-- A registry with the reference catalogue. -/
def referenceRegistry : Registry :=
  ((Action.installCatalogue .shared .reference).after default).registries .shared

/-- A registry with the optimized catalogue and its arrays. -/
def optimizedRegistry : Registry :=
  ((Action.installBuiltin .shared .optimized).after default).registries .shared

/-- On a connection that has been dropped, both registries make dumpers for texts, and loaders for
strings of bytes, that look alike. -/
theorem optimized_alike_reference_dropped :
    (∃ factory factory' d d', referenceRegistry.dumper? .staticText .text = some factory ∧
      optimizedRegistry.dumper? .staticText .text = some factory' ∧
      (factory.build .staticText { connection := some ⟨0⟩ }).result default = .ok d ∧
      (factory'.build .staticText { connection := some ⟨0⟩, registry := .separate 0 }).result
        default = .ok d' ∧ d.Alike d') ∧
    ∃ factory factory' l l', referenceRegistry.loader? .bytea .text = some factory ∧
      optimizedRegistry.loader? .bytea .text = some factory' ∧
      (factory.build .bytea { connection := some ⟨0⟩ }).result default = .ok l ∧
      (factory'.build .bytea { connection := some ⟨0⟩, registry := .separate 0 }).result
        default = .ok l' ∧ l.Alike l' := by
  have hreference : referenceRegistry.Carries .reference :=
    (optimized_alike_reference.1 .reference .shared default).1.2
  have hoptimized : optimizedRegistry.Carries .optimized :=
    (optimized_alike_reference.1 .optimized .shared default).2.2
  obtain ⟨hdumpers, hloaders⟩ := optimized_alike_reference.2 hreference hoptimized
  obtain ⟨factory, factory', hfactory, hfactory', hbuild⟩ :=
    hdumpers .staticText .text rfl rfl (by rintro _ ⟨⟩)
  obtain ⟨d, d', hd, hd', hdumper⟩ :=
    hbuild { connection := some ⟨0⟩ } (.separate 0) default default rfl
  obtain ⟨maker, maker', hmaker, hmaker', hmake⟩ :=
    hloaders .bytea .text rfl rfl (by decide)
  obtain ⟨l, l', hl, hl', hloader⟩ :=
    hmake { connection := some ⟨0⟩ } (.separate 0) default default
  exact ⟨⟨factory, factory', d, d', hfactory, hfactory', hd, hd', hdumper⟩,
    maker, maker', l, l', hmaker, hmaker', hl, hl', hloader⟩

end PgAdapt
