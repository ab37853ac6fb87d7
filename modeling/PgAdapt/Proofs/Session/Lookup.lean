import PgAdapt.Proofs.Session.World

/-!
# Codecs that are found in a trusted cache

A trusted cache never hands out a codec other than the one that the registry stands for. If there
is a maker in the registry, then what is found has been made by it, now or earlier
(`PgAdapt.World.makes_dumperNamed`, `PgAdapt.World.makes_loaderFor`); if there is none, nothing is
found (`PgAdapt.World.gives_dumperNamed_of_none`, `PgAdapt.World.gives_loaderFor_of_none`).
-/

namespace PgAdapt

namespace World

variable {sc : Scope}

/-! ### Making a codec -/

/-- The trusted caches hold what they held. -/
def Keeps (w w' : World sc) : Prop :=
  ∀ id ∈ w.live, w'.session.transformers id = w.session.transformers id

theorem Keeps.trans {w w' w'' : World sc} (h : Keeps w w') (hle : w ≤ w') (h' : Keeps w' w'') :
    Keeps w w'' := fun id hid => (h' id (hle hid)).trans (h id hid)

theorem makes_fresh (w : World sc) : w.Makes Action.fresh fun w' _ => Keeps w w' :=
  ⟨_, rfl, w.goOn (Action.fresh.after w.session) w.scope_eq (Nat.le_succ _) fun _ _ => rfl,
    le_refl w.live, rfl, fun _ _ => rfl⟩

theorem makes_announced (w : World sc) (oid : Oid) :
    w.Makes (sc.context.announced oid) fun w' x => x = sc.announced oid ∧ Keeps w w' := by
  obtain ⟨hresult, events, hafter⟩ := Context.announced_eq w.session sc.context oid
  rw [w.scope_eq] at hresult
  exact ⟨_, hresult, w.goOn { w.session with events } w.scope_eq (Nat.le_refl _) fun _ _ => rfl,
    le_refl w.live, hafter.symm, rfl, fun _ _ => rfl⟩

theorem makes_newTransformer (w : World sc) :
    w.Makes (Action.newTransformer sc.context) fun w' id => id ∈ w'.live ∧ Keeps w w' := by
  refine ⟨_, rfl, w.openCache, w.le_openCache, rfl, w.mem_live_openCache, fun id hid => ?_⟩
  exact assign_of_ne (w.ne_next hid)

/-- What a maker of dumpers makes. -/
theorem makes_build_dumper (w : World sc) (factory : DumperFactory) (source : ValueType) :
    w.Makes (factory.build source sc.context) fun w' d =>
      BuiltDumper sc w'.live source factory.recipe d ∧ Keeps w w' := by
  rcases factory with ⟨number, name, codec | format⟩
  · refine (makes_fresh w).bind fun w' id hw' hkeep => ?_
    refine (makes_announced w' codec.oid).bind fun w'' oid hw'' h => ?_
    obtain ⟨rfl, hkeep'⟩ := h
    exact .pure ⟨.scalar id codec, hkeep.trans hw' hkeep'⟩
  · refine (makes_fresh w).bind fun w' id hw' hkeep => ?_
    refine (makes_newTransformer w').bind fun w'' elements hw'' h => ?_
    exact .pure ⟨.array id format h.1, hkeep.trans hw' h.2⟩

/-- What a maker of loaders makes. -/
theorem makes_build_loader (w : World sc) (factory : LoaderFactory) (oid : Oid) :
    w.Makes (factory.build oid sc.context) fun w' l =>
      BuiltLoader sc w'.live oid factory.recipe l ∧ Keeps w w' := by
  rcases factory with ⟨number, name, codec | element | _⟩
  · refine (makes_fresh w).bind fun w' id hw' hkeep => ?_
    exact .pure ⟨.scalar id codec, hkeep⟩
  · refine (makes_fresh w).bind fun w' id hw' hkeep => ?_
    refine (makes_newTransformer w').bind fun w'' elements hw'' h => ?_
    exact .pure ⟨.arrayText id element h.1, hkeep.trans hw' h.2⟩
  · refine (makes_fresh w).bind fun w' id hw' hkeep => ?_
    refine (makes_newTransformer w').bind fun w'' elements hw'' h => ?_
    exact .pure ⟨.arrayBinary id h.1, hkeep.trans hw' h.2⟩

/-! ### Looking into a cache -/

/-- The registry of a world is the one that its context looks into. -/
theorem registry_eq (w : World sc) : w.session.registries sc.context.registry = sc.registry :=
  congrArg Scope.registry w.scope_eq

section Dumper

variable (w : World sc) {id : TransformerId} (hid : id ∈ w.live) {source : ValueType}
  {format : Format}

include hid

/-- Without a maker no dumper is found. -/
theorem gives_dumperNamed_of_none (h : sc.registry.dumper? source format = none)
    (label : String) : w.Gives (Transformer.dumperNamed id source label format)
      (throw (.dumperNotFound label format)) := by
  have hcache := w.coherent id hid
  have hmiss : (w.session.transformers id).dumpers.get? (source, format) = none := by
    cases hget : (w.session.transformers id).dumpers.get? (source, format) with
    | none => rfl
    | some d =>
      obtain ⟨factory, hfactory, -⟩ := hcache.dumper hget
      rw [h] at hfactory
      cases hfactory
  have hnone : (w.session.registries (w.session.transformers id).context.registry).dumper? source
      format = none := by
    rw [hcache.context_eq, w.registry_eq, h]
  have hrun : (Transformer.dumperNamed id source label format).result w.session =
        .error (.dumperNotFound label format) ∧
      (Transformer.dumperNamed id source label format).after w.session = w.session := by
    constructor <;>
      simp [Transformer.dumperNamed, Action.result_bind, Action.after_bind, hmiss, hnone]
  exact ⟨hrun.1, w, le_refl w, hrun.2.symm⟩

/-- **The dumper that is found has been made by the maker in the registry.** -/
theorem makes_dumperNamed {factory : DumperFactory}
    (h : sc.registry.dumper? source format = some factory) (label : String) :
    w.Makes (Transformer.dumperNamed id source label format) fun w' d =>
      BuiltDumper sc w'.live source factory.recipe d := by
  have hcache := w.coherent id hid
  cases hget : (w.session.transformers id).dumpers.get? (source, format) with
  | some d =>
    obtain ⟨factory', hfactory', hd⟩ := hcache.dumper hget
    obtain rfl : factory = factory' := by
      rw [h] at hfactory'
      exact Option.some.inj hfactory'
    refine ⟨d, ?_, w, le_refl w, ?_, hd⟩ <;>
      simp [Transformer.dumperNamed, Action.result_bind, Action.after_bind, hget]
  | none =>
    -- A new dumper is entered into a cache that has not changed while it was made.
    obtain ⟨d, hresult, w', hle, hafter, hd, hkeep⟩ := makes_build_dumper w factory source
    have hentered := (hkeep id hid ▸ w'.coherent id (hle hid)).insertDumper h hd
    refine ⟨d, ?_, w'.setCache id _ hentered, hle, ?_, hd⟩
    · simp [Transformer.dumperNamed, Action.result_bind, hget, hcache.context_eq, w.registry_eq, h,
        hresult, Except.map]
    · simp [Transformer.dumperNamed, Action.after_bind, hget, hcache.context_eq, w.registry_eq, h,
        hresult, hafter, World.setCache]

end Dumper

section Loader

variable (w : World sc) {id : TransformerId} (hid : id ∈ w.live) {oid : Oid} {format : Format}

include hid

/-- Without a maker no loader is found. -/
theorem gives_loaderFor_of_none (h : sc.registry.loader? oid format = none) :
    w.Gives (Transformer.loaderFor id oid format) (throw (.loaderNotFound oid format)) := by
  have hcache := w.coherent id hid
  have hmiss : (w.session.transformers id).loaders.get? (oid, format) = none := by
    cases hget : (w.session.transformers id).loaders.get? (oid, format) with
    | none => rfl
    | some l =>
      obtain ⟨factory, hfactory, -⟩ := hcache.loader hget
      rw [h] at hfactory
      cases hfactory
  have hnone : (w.session.registries (w.session.transformers id).context.registry).loader? oid
      format = none := by
    rw [hcache.context_eq, w.registry_eq, h]
  have hrun : (Transformer.loaderFor id oid format).result w.session =
        .error (.loaderNotFound oid format) ∧
      (Transformer.loaderFor id oid format).after w.session = w.session := by
    constructor <;>
      simp [Transformer.loaderFor, Action.result_bind, Action.after_bind, hmiss, hnone]
  exact ⟨hrun.1, w, le_refl w, hrun.2.symm⟩

/-- **The loader that is found has been made by the maker in the registry.** -/
theorem makes_loaderFor {factory : LoaderFactory}
    (h : sc.registry.loader? oid format = some factory) :
    w.Makes (Transformer.loaderFor id oid format) fun w' l =>
      BuiltLoader sc w'.live oid factory.recipe l := by
  have hcache := w.coherent id hid
  cases hget : (w.session.transformers id).loaders.get? (oid, format) with
  | some l =>
    obtain ⟨factory', hfactory', hl⟩ := hcache.loader hget
    obtain rfl : factory = factory' := by
      rw [h] at hfactory'
      exact Option.some.inj hfactory'
    refine ⟨l, ?_, w, le_refl w, ?_, hl⟩ <;>
      simp [Transformer.loaderFor, Action.result_bind, Action.after_bind, hget]
  | none =>
    obtain ⟨l, hresult, w', hle, hafter, hl, hkeep⟩ := makes_build_loader w factory oid
    have hentered := (hkeep id hid ▸ w'.coherent id (hle hid)).insertLoader h hl
    refine ⟨l, ?_, w'.setCache id _ hentered, hle, ?_, hl⟩
    · simp [Transformer.loaderFor, Action.result_bind, hget, hcache.context_eq, w.registry_eq, h,
        hresult, Except.map]
    · simp [Transformer.loaderFor, Action.after_bind, hget, hcache.context_eq, w.registry_eq, h,
        hresult, hafter, World.setCache]

end Loader

end World

/-! ### Codecs on their own -/

/-- **What a maker of dumpers makes** in any session. -/
theorem DumperFactory.exists_result_build (factory : DumperFactory) (source : ValueType)
    (ctx : Context) (s : Session) :
    ∃ d, (factory.build source ctx).result s = .ok d ∧
      BuiltDumper (s.scope ctx) Set.univ source factory.recipe d := by
  obtain ⟨d, hd, w, -, -, hbuilt, -⟩ :=
    World.makes_build_dumper (World.start s rfl : World (s.scope ctx)) factory source
  exact ⟨d, hd, hbuilt.mono (Set.subset_univ _)⟩

/-- **What a maker of loaders makes** in any session. -/
theorem LoaderFactory.exists_result_build (factory : LoaderFactory) (oid : Oid) (ctx : Context)
    (s : Session) :
    ∃ l, (factory.build oid ctx).result s = .ok l ∧
      BuiltLoader (s.scope ctx) Set.univ oid factory.recipe l := by
  obtain ⟨l, hl, w, -, -, hbuilt, -⟩ :=
    World.makes_build_loader (World.start s rfl : World (s.scope ctx)) factory oid
  exact ⟨l, hl, hbuilt.mono (Set.subset_univ _)⟩

end PgAdapt
