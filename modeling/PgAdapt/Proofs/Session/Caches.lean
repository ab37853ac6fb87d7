import PgAdapt.Catalogue.Install
import PgAdapt.Proofs.Session.World

/-!
# What leaves the caches alone

A cache changes when something is looked up in it, and in no other way. An operation that looks
nothing up may open new caches, but those that are there stay as they are:
`PgAdapt.Action.KeepsCaches`. Registrations, catalogues, changes of a connection and the makers of
codecs are of this kind.
-/

namespace PgAdapt

/-- A session is followed by one in which the caches that were there are **kept**. -/
structure Session.CachesKept (s s' : Session) : Prop where
  next_le : s.next ≤ s'.next
  transformers_eq : ∀ id, id.number < s.next → s'.transformers id = s.transformers id

namespace Session.CachesKept

variable {s s' s'' : Session}

theorem refl (s : Session) : s.CachesKept s := ⟨Nat.le_refl _, fun _ _ => rfl⟩

theorem trans (h : s.CachesKept s') (h' : s'.CachesKept s'') : s.CachesKept s'' where
  next_le := Nat.le_trans h.next_le h'.next_le
  transformers_eq id hid :=
    (h'.transformers_eq id (Nat.lt_of_lt_of_le hid h.next_le)).trans (h.transformers_eq id hid)

end Session.CachesKept

namespace Action

variable {α β : Type}

/-- An operation **keeps the caches** that are there, in every session. -/
def KeepsCaches (a : Action α) : Prop :=
  ∀ s : Session, s.CachesKept (a.after s)

namespace KeepsCaches

/-! ### Chains of operations -/

theorem pure (x : α) : (Pure.pure x : Action α).KeepsCaches := fun s => .refl s

theorem bind {a : Action α} {f : α → Action β} (ha : a.KeepsCaches)
    (hf : ∀ x, (f x).KeepsCaches) : (a >>= f).KeepsCaches := by
  intro s
  rw [after_bind]
  split
  · exact (ha s).trans (hf _ _)
  · exact ha s

theorem map {a : Action α} (g : α → β) (ha : a.KeepsCaches) : (g <$> a).KeepsCaches := by
  intro s
  rw [after_map]
  exact ha s

theorem forM {a : β → Action PUnit} (h : ∀ x, (a x).KeepsCaches) (l : List β) :
    (l.forM a).KeepsCaches := by
  induction l with
  | nil => exact .pure _
  | cons x l ih => exact (h x).bind fun _ => ih

theorem mapM {a : β → Action α} (h : ∀ x, (a x).KeepsCaches) (l : List β) :
    (l.mapM a).KeepsCaches := by
  induction l with
  | nil => exact .pure _
  | cons x l ih =>
    rw [List.mapM_cons]
    exact (h x).bind fun _ => ih.bind fun _ => .pure _

/-! ### Single operations -/

/-- An operation that neither opens nor replaces a cache keeps them all. -/
theorem of_eq {a : Action α} (hnext : ∀ s, s.next ≤ (a.after s).next)
    (htransformers : ∀ s, (a.after s).transformers = s.transformers) : a.KeepsCaches :=
  fun s => ⟨hnext s, fun _ _ => by rw [htransformers]⟩

theorem fresh : Action.fresh.KeepsCaches := of_eq (fun _ => Nat.le_succ _) fun _ => rfl

theorem report (event : Event) : (Action.report event).KeepsCaches :=
  of_eq (fun _ => Nat.le_refl _) fun _ => rfl

theorem reserve (count : Nat) : (Action.reserve count).KeepsCaches :=
  of_eq (fun _ => Nat.le_add_right _ _) fun _ => rfl

theorem connection (id : ConnectionId) : (Action.connection id).KeepsCaches :=
  fun s => .refl s

theorem setConnection (id : ConnectionId) (connection : Connection) :
    (Action.setConnection id connection).KeepsCaches :=
  of_eq (fun _ => Nat.le_refl _) fun _ => rfl

theorem newConnection (connection : Connection) : (Action.newConnection connection).KeepsCaches :=
  fresh.bind fun _ => (setConnection _ _).bind fun _ => .pure _

theorem registry (id : RegistryId) : (Action.registry id).KeepsCaches := fun s => .refl s

theorem setRegistry (id : RegistryId) (registry : Registry) :
    (Action.setRegistry id registry).KeepsCaches :=
  of_eq (fun _ => Nat.le_refl _) fun _ => rfl

theorem newRegistry (start : Registry) : (Action.newRegistry start).KeepsCaches :=
  fresh.bind fun _ => (setRegistry _ _).bind fun _ => .pure _

theorem snapshot (id : RegistryId) : (Action.snapshot id).KeepsCaches :=
  (registry id).bind fun _ => newRegistry _

theorem newTransformer (ctx : Context) : (Action.newTransformer ctx).KeepsCaches := fun s =>
  ⟨Nat.le_succ _, fun id hid => assign_of_ne (by rintro rfl; exact Nat.lt_irrefl _ hid)⟩

/-! ### Registrations -/

theorem registerDumper (id : RegistryId) (source : ValueType) (format : Format)
    (factory : DumperFactory) : (Action.registerDumper id source format factory).KeepsCaches :=
  (registry id).bind fun _ => (setRegistry _ _).bind fun _ => report _

theorem registerLoader (id : RegistryId) (oid : Oid) (format : Format)
    (factory : LoaderFactory) : (Action.registerLoader id oid format factory).KeepsCaches :=
  (registry id).bind fun _ => (setRegistry _ _).bind fun _ => report _

theorem registerEntries (id : RegistryId) (entries : List Entry) :
    (Action.registerEntries id entries).KeepsCaches := by
  refine (reserve _).bind fun base => forM (fun entry => ?_) entries
  cases hregistration : entry.registration with
  | dumper source format name recipe => exact registerDumper _ _ _ _
  | loader oid format name recipe => exact registerLoader _ _ _ _

theorem installCatalogue (id : RegistryId) (catalogue : Catalogue) :
    (Action.installCatalogue id catalogue).KeepsCaches :=
  forM (fun _ => (registerEntries id _).bind fun _ => (registry id).bind fun _ => report _) _

theorem registerArray (id : RegistryId) (array element : Oid) (name : Option String) :
    (Action.registerArray id array element name).KeepsCaches := by
  have hfactory (name : String) (recipe : LoaderRecipe) :
      (Action.newLoaderFactory name recipe).KeepsCaches := fresh.bind fun _ => .pure _
  exact (hfactory _ _).bind fun _ => (registerLoader _ _ _ _).bind fun _ =>
    (hfactory _ _).bind fun _ => registerLoader _ _ _ _

theorem registerAllArrays (id : RegistryId) : (Action.registerAllArrays id).KeepsCaches := by
  refine (mapM (fun info => ?_) _).bind fun _ => (report _).bind fun _ => .pure _
  rw [registerArrayOver]
  split
  · exact .pure false
  · refine (registry id).bind fun _ => ?_
    split
    · exact (registerArray _ _ _ _).bind fun _ => .pure true
    · exact .pure false

theorem installBuiltin (id : RegistryId) (catalogue : Catalogue) :
    (Action.installBuiltin id catalogue).KeepsCaches := by
  refine (installCatalogue id catalogue).bind fun _ => ?_
  have harrays : (do let _ ← Action.registerAllArrays id : Action Unit).KeepsCaches :=
    (registerAllArrays id).bind fun _ => .pure _
  cases catalogue with
  | reference => exact (registerEntries id arrayDumpers).bind fun _ => harrays
  | optimized => exact harrays

/-! ### Makers -/

theorem announced (ctx : Context) (oid : Oid) : (ctx.announced oid).KeepsCaches := fun s => by
  obtain ⟨-, events, hafter⟩ := Context.announced_eq s ctx oid
  rw [hafter]
  exact ⟨Nat.le_refl _, fun _ _ => rfl⟩

end KeepsCaches

end Action

/-! ### Making a codec -/

/-- Making a dumper takes a number and keeps the caches that are there. -/
theorem DumperFactory.cachesKept_build (factory : DumperFactory) (source : ValueType)
    (ctx : Context) (s : Session) :
    (Action.fresh.after s).CachesKept ((factory.build source ctx).after s) := by
  rw [build, Action.after_bind_ok (Action.result_fresh s)]
  cases factory.recipe with
  | scalar codec => exact (Action.KeepsCaches.announced ctx codec.oid).bind (fun _ => .pure _) _
  | array format => exact (Action.KeepsCaches.newTransformer ctx).bind (fun _ => .pure _) _

/-- Making a loader takes a number and keeps the caches that are there. -/
theorem LoaderFactory.cachesKept_build (factory : LoaderFactory) (oid : Oid) (ctx : Context)
    (s : Session) : (Action.fresh.after s).CachesKept ((factory.build oid ctx).after s) := by
  rw [build, Action.after_bind_ok (Action.result_fresh s)]
  cases factory.recipe with
  | scalar codec => exact .refl _
  | arrayText element => exact (Action.KeepsCaches.newTransformer ctx).bind (fun _ => .pure _) _
  | arrayBinary => exact (Action.KeepsCaches.newTransformer ctx).bind (fun _ => .pure _) _

/-- The number of a dumper is the one that was next when it was made. -/
theorem DumperFactory.id_of_build {factory : DumperFactory} {source : ValueType} {ctx : Context}
    {s : Session} {d : Dumper} (h : (factory.build source ctx).result s = .ok d) :
    d.id = s.next := by
  rw [build, Action.result_bind_ok (Action.result_fresh s)] at h
  rcases factory with ⟨number, name, codec | format⟩
  · rw [Action.result_bind_ok (Context.announced_eq _ ctx codec.oid).1] at h
    cases h
    rfl
  · cases h
    rfl

/-- The number of a loader is the one that was next when it was made. -/
theorem LoaderFactory.id_of_build {factory : LoaderFactory} {oid : Oid} {ctx : Context}
    {s : Session} {l : Loader} (h : (factory.build oid ctx).result s = .ok l) :
    l.id = s.next := by
  rw [build, Action.result_bind_ok (Action.result_fresh s)] at h
  rcases factory with ⟨number, name, codec | element | _⟩ <;> cases h <;> rfl

end PgAdapt
