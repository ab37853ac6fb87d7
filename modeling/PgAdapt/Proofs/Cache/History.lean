import Mathlib.Data.List.Induction
import PgAdapt.Proofs.Cache.Lookup

/-!
# The history of a cache

While makers are registered, over each other and again, by single registrations and by whole
catalogues, while connections change and other caches are used, a cache answers lookups. A
`PgAdapt.Cache.Step` is one such event, and `PgAdapt.Cache.found` is what the lookups under a key
of a cache have found in a run so far.

Whatever happens, a cache holds under each key what the first lookup under it found
(`PgAdapt.Cache.Tracks`): a step either leaves the cache alone or enters a codec where there was
none (`PgAdapt.Cache.step_cases`). So the first codec that is found stays the one that is found,
and until then each lookup asks the registry as it is at that moment
(`PgAdapt.Cache.answers_of_run`).
-/

namespace PgAdapt

namespace Cache

/-! ### Steps and runs -/

/-- A **step** in the history of the caches. -/
inductive Step where
  /-- A registration, into a registry or by way of a context, or a new registry. -/
  | registry (step : Registry.Step)
  /-- A catalogue is registered. -/
  | install (target : Registry.Target) (catalogue : Catalogue)
  /-- A catalogue is registered with its arrays. -/
  | installBuiltin (target : Registry.Target) (catalogue : Catalogue)
  /-- There is a new connection. -/
  | connect (connection : Connection)
  /-- A connection changes: it gets another version, is closed, or its owner lets go of it. -/
  | change (id : ConnectionId) (connection : Connection)
  /-- A new cache is opened for a context. -/
  | newCache (ctx : Context)
  /-- Something is looked up in a cache. -/
  | lookUp (id : TransformerId) (lookup : Lookup)

/-- The session after a step. -/
def Step.after (s : Session) : Step → Session
  | .registry step => step.act.after s
  | .install target catalogue => (Action.installCatalogue target.registry catalogue).after s
  | .installBuiltin target catalogue => (Action.installBuiltin target.registry catalogue).after s
  | .connect connection => (Action.newConnection connection).after s
  | .change id connection => (Action.setConnection id connection).after s
  | .newCache ctx => (Action.newTransformer ctx).after s
  | .lookUp id lookup => (lookup.on id).after s

/-- What a step finds under a key of a cache, with the session in which it looks. -/
def Step.finds (id : TransformerId) (key : Registry.Key) (s : Session) :
    Step → List (Session × Codec)
  | .lookUp id' lookup =>
    if id' = id ∧ lookup.key = key then
      match (lookup.on id').result s with
      | .ok c => [(s, c)]
      | .error _ => []
    else []
  | _ => []

/-- The session after the steps of a run. -/
def run (s : Session) (steps : List Step) : Session := steps.foldl Step.after s

/-- What the lookups under a key of a cache **have found** in a run, the first one first. -/
def found (id : TransformerId) (key : Registry.Key) (s : Session) :
    List Step → List (Session × Codec)
  | [] => []
  | step :: steps => step.finds id key s ++ found id key (step.after s) steps

theorem run_append_singleton (s : Session) (steps : List Step) (step : Step) :
    run s (steps ++ [step]) = step.after (run s steps) := by
  rw [run, List.foldl_append]
  rfl

theorem found_append_singleton (id : TransformerId) (key : Registry.Key) (s : Session)
    (steps : List Step) (step : Step) :
    found id key s (steps ++ [step]) = found id key s steps ++ step.finds id key (run s steps) := by
  induction steps generalizing s with
  | nil => simp [found, run]
  | cons first steps ih => simp [found, run, ih]

/-! ### One step -/

section Step

variable {s : Session} {id : TransformerId}

/-- A step leaves a cache alone: what is found in it, if anything, was there. -/
structure Step.Leaves (id : TransformerId) (s : Session) (step : Step) : Prop where
  next_le : s.next ≤ (step.after s).next
  transformers_eq : (step.after s).transformers id = s.transformers id
  codec?_eq : ∀ key, ∀ p ∈ step.finds id key s, (s.transformers id).codec? key = some p.2

/-- A step enters a codec into a cache: the codec is made on the spot, and it is what is found. -/
structure Step.Enters (id : TransformerId) (key : Registry.Key) (c : Codec) (s : Session)
    (step : Step) : Prop where
  codec?_eq_none : (s.transformers id).codec? key = none
  makes : (s.scope (s.transformers id).context).MakesCodec key c
  id_eq : c.id = s.next
  entered : s.CodecEntered id key c (step.after s)
  finds_eq : ∀ key', step.finds id key' s = if key = key' then [(s, c)] else []

theorem Step.Leaves.of_cachesKept {step : Step} (hid : id.number < s.next)
    (h : s.CachesKept (step.after s)) (hfinds : ∀ key, step.finds id key s = []) :
    step.Leaves id s where
  next_le := h.next_le
  transformers_eq := h.transformers_eq id hid
  codec?_eq key p hp := by
    rw [hfinds key] at hp
    cases hp

theorem keepsCaches_registryStep (step : Registry.Step) : step.act.KeepsCaches := by
  cases step with
  | create => exact .newRegistry _
  | snapshot of => exact .snapshot of
  | seed => exact ((Action.KeepsCaches.snapshot .shared).bind fun _ => .pure _).map _
  | dumper target source format factory =>
    exact (Action.KeepsCaches.registerDumper _ _ _ _).bind fun _ => .pure _
  | loader target oid format factory =>
    exact (Action.KeepsCaches.registerLoader _ _ _ _).bind fun _ => .pure _

/-- A lookup in the cache itself. -/
theorem lookUp_cases (lookup : Lookup) :
    (Step.lookUp id lookup).Leaves id s ∨
      ∃ c, (Step.lookUp id lookup).Enters id lookup.key c s := by
  have hlooks : LooksUp id lookup.key lookup.notFound s ((lookup.on id).result s)
      ((Step.lookUp id lookup).after s) := lookup.looksUp id s
  generalize hresult : (lookup.on id).result s = r,
    hafter : (Step.lookUp id lookup).after s = s' at hlooks
  cases hlooks with
  | hit hc =>
    refine .inl ⟨?_, ?_, ?_⟩
    · exact Nat.le_of_eq (congrArg Session.next hafter.symm)
    · exact congrArg (fun s => s.transformers id) hafter
    · intro key p hp
      simp only [Step.finds, hresult, true_and] at hp
      split_ifs at hp with hkey
      · cases List.mem_singleton.mp hp
        rw [← hkey, hc]
      · cases hp
  | miss _ _ =>
    refine .inl ⟨?_, ?_, ?_⟩
    · exact Nat.le_of_eq (congrArg Session.next hafter.symm)
    · exact congrArg (fun s => s.transformers id) hafter
    · intro key p hp
      simp [Step.finds, hresult] at hp
  | made hnone hmakes hnumber hentered =>
    refine .inr ⟨_, hnone, hmakes, hnumber, hafter ▸ hentered, fun key => ?_⟩
    simp [Step.finds, hresult]

/-- A lookup in another cache. -/
theorem leaves_lookUp_of_ne {id' : TransformerId} (hid : id.number < s.next) (hne : id ≠ id')
    (lookup : Lookup) : (Step.lookUp id' lookup).Leaves id s := by
  have hlooks : LooksUp id' lookup.key lookup.notFound s ((lookup.on id').result s)
      ((Step.lookUp id' lookup).after s) := lookup.looksUp id' s
  generalize (lookup.on id').result s = r, hafter : (Step.lookUp id' lookup).after s = s' at hlooks
  have hfinds (key : Registry.Key) : (Step.lookUp id' lookup).finds id key s = [] := by
    simp [Step.finds, Ne.symm hne]
  refine ⟨?_, ?_, fun key p hp => ?_⟩
  · rw [hafter]
    cases hlooks with
    | hit _ | miss _ _ => exact Nat.le_refl _
    | made _ _ _ hentered => exact hentered.next_lt.le
  · rw [hafter]
    cases hlooks with
    | hit _ | miss _ _ => rfl
    | made _ _ _ hentered => exact hentered.transformers_eq id hid hne
  · rw [hfinds key] at hp
    cases hp

/-- A step either leaves a cache alone or enters a codec where there was none. -/
theorem step_cases (hid : id.number < s.next) (step : Step) :
    step.Leaves id s ∨ ∃ key c, step.Enters id key c s := by
  cases step with
  | registry step => exact .inl (.of_cachesKept hid (keepsCaches_registryStep step s) fun _ => rfl)
  | install target catalogue =>
    exact .inl (.of_cachesKept hid (Action.KeepsCaches.installCatalogue _ catalogue s) fun _ => rfl)
  | installBuiltin target catalogue =>
    exact .inl (.of_cachesKept hid (Action.KeepsCaches.installBuiltin _ catalogue s) fun _ => rfl)
  | connect connection =>
    exact .inl (.of_cachesKept hid (Action.KeepsCaches.newConnection connection s) fun _ => rfl)
  | change id' connection =>
    exact .inl (.of_cachesKept hid (Action.KeepsCaches.setConnection id' connection s) fun _ => rfl)
  | newCache ctx =>
    exact .inl (.of_cachesKept hid (Action.KeepsCaches.newTransformer ctx s) fun _ => rfl)
  | lookUp id' lookup =>
    by_cases hne : id = id'
    · subst hne
      exact (lookUp_cases lookup).imp_right fun ⟨c, hc⟩ => ⟨_, c, hc⟩
    · exact .inl (leaves_lookUp_of_ne hid hne lookup)

end Step

/-! ### Runs -/

/-- **A cache tracks its history**: it holds under each key what has been found under it, which was
made when it was first found; and the codecs that it holds under different keys are different. -/
structure Tracks (ctx : Context) (id : TransformerId) (s : Session)
    (history : Registry.Key → List (Session × Codec)) : Prop where
  lt_next : id.number < s.next
  context_eq : (s.transformers id).context = ctx
  codec?_eq_some : ∀ key, ∀ p ∈ history key, (s.transformers id).codec? key = some p.2
  codec?_eq_none : ∀ key, history key = [] → (s.transformers id).codec? key = none
  makes : ∀ key p later, history key = p :: later → (p.1.scope ctx).MakesCodec key p.2
  id_lt_next : ∀ key c, (s.transformers id).codec? key = some c → c.id < s.next
  key_eq : ∀ key key' c c', (s.transformers id).codec? key = some c →
    (s.transformers id).codec? key' = some c' → c.id = c'.id → key = key'

namespace Tracks

variable {ctx : Context} {id : TransformerId} {s : Session}
  {history : Registry.Key → List (Session × Codec)} {step : Step}

/-- A new cache has no history and holds nothing. -/
theorem new (ctx : Context) (s : Session) :
    Tracks ctx ⟨s.next⟩ ((Action.newTransformer ctx).after s) fun _ => [] := by
  have hcache : ((Action.newTransformer ctx).after s).transformers ⟨s.next⟩ =
      { context := ctx } := assign_self _ _ _
  have hnone (key : Registry.Key) : (((Action.newTransformer ctx).after s).transformers
      ⟨s.next⟩).codec? key = none := by
    rw [hcache]
    cases key <;> rfl
  refine ⟨Nat.lt_succ_self _, by rw [hcache], by simp, fun key _ => hnone key, by simp, ?_, ?_⟩
  · intro key c h
    cases (hnone key).symm.trans h
  · intro key _ c _ h
    cases (hnone key).symm.trans h

/-- Nothing has been found under a key under which there is nothing. -/
theorem history_eq_nil (h : Tracks ctx id s history) {key : Registry.Key}
    (hnone : (s.transformers id).codec? key = none) : history key = [] := by
  refine List.eq_nil_iff_forall_not_mem.mpr fun p hp => ?_
  rw [h.codec?_eq_some key p hp] at hnone
  cases hnone

theorem snoc_of_leaves (h : Tracks ctx id s history) (hstep : step.Leaves id s) :
    Tracks ctx id (step.after s) fun key => history key ++ step.finds id key s := by
  obtain ⟨hnext, hcache, hfinds⟩ := hstep
  constructor
  · exact Nat.lt_of_lt_of_le h.lt_next hnext
  · rw [hcache, h.context_eq]
  · intro key p hp
    rw [hcache]
    rcases List.mem_append.mp hp with hp | hp
    · exact h.codec?_eq_some key p hp
    · exact hfinds key p hp
  · intro key hnil
    rw [hcache]
    exact h.codec?_eq_none key (List.append_eq_nil_iff.mp hnil).1
  · intro key p later hp
    cases hhistory : history key with
    | nil =>
      -- Nothing is found for the first time, for the cache holds nothing under the key.
      rw [hhistory, List.nil_append] at hp
      have hsome := hfinds key p (hp ▸ List.mem_cons_self)
      rw [h.codec?_eq_none key hhistory] at hsome
      cases hsome
    | cons first rest =>
      rw [hhistory] at hp
      cases hp
      exact h.makes key p rest hhistory
  · intro key c hc
    rw [hcache] at hc
    exact Nat.lt_of_lt_of_le (h.id_lt_next key c hc) hnext
  · rw [hcache]
    exact h.key_eq

theorem snoc_of_enters (h : Tracks ctx id s history) {key : Registry.Key} {c : Codec}
    (hstep : step.Enters id key c s) :
    Tracks ctx id (step.after s) fun key => history key ++ step.finds id key s := by
  obtain ⟨hnone, hmakes, hnumber, hentered, hfinds⟩ := hstep
  rw [h.context_eq] at hmakes
  have hnil := h.history_eq_nil hnone
  constructor
  · exact Nat.lt_trans h.lt_next hentered.next_lt
  · rw [hentered.context_eq, h.context_eq]
  · intro key' p hp
    rw [hentered.codec?_eq]
    rw [hfinds] at hp
    split_ifs at hp ⊢ with hkey
    · subst hkey
      rw [hnil, List.nil_append, List.mem_singleton] at hp
      rw [hp]
    · rw [List.append_nil] at hp
      exact h.codec?_eq_some key' p hp
  · intro key' hnil'
    rw [hfinds] at hnil'
    rw [hentered.codec?_eq]
    split_ifs at hnil' ⊢ with hkey
    · simp at hnil'
    · rw [List.append_nil] at hnil'
      exact h.codec?_eq_none key' hnil'
  · intro key' p later hp
    rw [hfinds] at hp
    split_ifs at hp with hkey
    · subst hkey
      rw [hnil] at hp
      cases hp
      exact hmakes
    · rw [List.append_nil] at hp
      exact h.makes key' p later hp
  · intro key' c' hc'
    rw [hentered.codec?_eq] at hc'
    split_ifs at hc' with hkey
    · cases hc'
      exact hnumber ▸ hentered.next_lt
    · exact Nat.lt_trans (h.id_lt_next key' c' hc') hentered.next_lt
  · intro key₁ key₂ c₁ c₂ h₁ h₂ heq
    rw [hentered.codec?_eq] at h₁ h₂
    -- The number of the new codec is larger than those of the codecs that were there.
    split_ifs at h₁ h₂ with hkey₁ hkey₂ hkey₂
    · exact hkey₁.symm.trans hkey₂
    · cases h₁
      exact absurd (h.id_lt_next key₂ c₂ h₂) (by omega)
    · cases h₂
      exact absurd (h.id_lt_next key₁ c₁ h₁) (by omega)
    · exact h.key_eq key₁ key₂ c₁ c₂ h₁ h₂ heq

/-- A cache tracks its history through every step. -/
theorem snoc (h : Tracks ctx id s history) (step : Step) :
    Tracks ctx id (step.after s) fun key => history key ++ step.finds id key s := by
  rcases step_cases h.lt_next step with hleaves | ⟨key, c, henters⟩
  · exact h.snoc_of_leaves hleaves
  · exact h.snoc_of_enters henters

end Tracks

/-- A cache tracks its history through every run. -/
theorem tracks_run (ctx : Context) (s : Session) (steps : List Step) :
    Tracks ctx ⟨s.next⟩ (run ((Action.newTransformer ctx).after s) steps)
      fun key => found ⟨s.next⟩ key ((Action.newTransformer ctx).after s) steps := by
  induction steps using List.reverseRecOn with
  | nil => exact .new ctx s
  | append_singleton steps step ih =>
    simp only [run_append_singleton, found_append_singleton]
    exact ih.snoc step

/-- **How a lookup is answered** in a session, given what the lookups under its key have found
before; and what it leaves. -/
inductive Answers (ctx : Context) (lookup : Lookup) (s : Session) :
    List (Session × Codec) → Except AdaptError Codec → Session → Prop where
  /-- What was found first is found again, as it was made then. -/
  | again {first : Session} {c : Codec} {later : List (Session × Codec)}
      (h : (first.scope ctx).MakesCodec lookup.key c) :
      Answers ctx lookup s ((first, c) :: later) (.ok c) s
  /-- Otherwise a new codec is made by the maker that is registered now. -/
  | made {c : Codec} {s' : Session} (h : (s.scope ctx).MakesCodec lookup.key c)
      (hid : c.id = s.next) : Answers ctx lookup s [] (.ok c) s'
  /-- Otherwise there is none, and that leaves no trace. -/
  | none (h : (s.registries ctx.registry).maker? lookup.key = .none) :
      Answers ctx lookup s [] (.error lookup.notFound) s

/-- A lookup is answered from the history that the cache tracks. -/
theorem Tracks.answers {ctx : Context} {id : TransformerId} {s : Session}
    {history : Registry.Key → List (Session × Codec)} (h : Tracks ctx id s history)
    (lookup : Lookup) :
    Answers ctx lookup s (history lookup.key) ((lookup.on id).result s)
      ((lookup.on id).after s) := by
  have hlooks := lookup.looksUp id s
  generalize (lookup.on id).result s = r, (lookup.on id).after s = s' at hlooks ⊢
  cases hlooks with
  | hit hc =>
    cases hhistory : history lookup.key with
    | nil =>
      rw [h.codec?_eq_none _ hhistory] at hc
      cases hc
    | cons first later =>
      have hfirst := h.codec?_eq_some _ first (hhistory ▸ List.mem_cons_self)
      rw [hc] at hfirst
      cases hfirst
      exact .again (h.makes _ first later hhistory)
  | miss hnone hmaker =>
    rw [h.history_eq_nil hnone]
    exact .none (h.context_eq ▸ hmaker)
  | made hnone hmakes hid hentered =>
    rw [h.history_eq_nil hnone]
    exact .made (h.context_eq ▸ hmakes) hid

/-- **What a cache finds after any run.** Each lookup finds again what the first lookup under its key
found, or else what the maker that is registered now makes, or else nothing. So lookups under the
same key have found the same codec, and lookups under different keys different ones; and a dumper
announces what it announced when it was first found, whatever the connection has become since. -/
theorem answers_of_run (ctx : Context) (s : Session) (id : TransformerId)
    (h : (Action.newTransformer ctx).result s = .ok id) (steps : List Step) :
    let start := (Action.newTransformer ctx).after s
    (∀ lookup : Lookup, Answers ctx lookup (run start steps) (found id lookup.key start steps)
      ((lookup.on id).result (run start steps)) ((lookup.on id).after (run start steps))) ∧
    (∀ key key', ∀ p ∈ found id key start steps, ∀ p' ∈ found id key' start steps,
      if key = key' then p.2 = p'.2 else p.2.id ≠ p'.2.id) ∧
    ∀ source format first d later,
      found id (.dumper source format) start steps = (first, .dumper d) :: later →
      ∃ factory, (first.registries ctx.registry).dumper? source format = some factory ∧
        d.oid = factory.recipe.announced (first.scope ctx) := by
  intro start
  cases h
  have htracks := tracks_run ctx s steps
  refine ⟨htracks.answers, fun key key' p hp p' hp' => ?_, fun source format first d later hd => ?_⟩
  · have hc := htracks.codec?_eq_some key p hp
    have hc' := htracks.codec?_eq_some key' p' hp'
    split_ifs with hkey
    · subst hkey
      exact Option.some.inj (hc.symm.trans hc')
    · exact fun hid => hkey (htracks.key_eq key key' _ _ hc hc' hid)
  · cases htracks.makes _ _ later hd with
    | dumper hfactory hbuilt => exact ⟨_, hfactory, hbuilt.oid_eq⟩

/-- A session with an old server. -/
def oldServerSession : Session where
  connections _ :=
    { held := true
      isOpen := true
      version := 90600
      escape := fun buffer _ => (buffer, none)
      errorMessage := "" }

/-- A context that is bound to the server. -/
def oldServerContext : Context where
  connection := some ⟨0⟩

/-- A maker of dumpers that leave the type open. -/
def openTypeMaker (id : Nat) : DumperFactory where
  id := id
  name := "open"
  recipe := .scalar { name := "open", format := .text, oid := .unspecified }

/-- Nothing is found, a maker is registered by way of a copy of the context, a dumper is made; then
the server becomes a newer one and another maker is registered over the first. -/
def shadowedSteps : List Step :=
  [.lookUp ⟨0⟩ (.ofType .text .text),
    .registry (.dumper (.of (some oldServerContext)) .text .text (openTypeMaker 1)),
    .lookUp ⟨0⟩ (.ofValue (.text "") .text),
    .change ⟨0⟩ { oldServerSession.connections ⟨0⟩ with version := 160000 },
    .registry (.dumper (.into .shared) .text .text (openTypeMaker 2))]

/-- After these steps the dumper that was made for the old server is found, by its type as by a
value; it announces `text`, while a new one would leave the type open. -/
theorem answers_of_run_shadowed :
    let start := (Action.newTransformer oldServerContext).after oldServerSession
    let s := run start shadowedSteps
    (Action.newTransformer oldServerContext).result oldServerSession = .ok ⟨0⟩ ∧
      Answers oldServerContext (.ofType .text .text) s
        (found ⟨0⟩ (.dumper .text .text) start shadowedSteps)
        (((Lookup.ofType .text .text).on ⟨0⟩).result s)
        (((Lookup.ofType .text .text).on ⟨0⟩).after s) ∧
      (found ⟨0⟩ (.dumper .text .text) start shadowedSteps).length = 1 ∧
      (∃ d, ((Lookup.ofType .text .text).on ⟨0⟩).result s = .ok (.dumper d) ∧ d.oid = .text) ∧
      (s.scope oldServerContext).announced .unspecified = .unspecified := by
  intro start s
  have h : (Action.newTransformer oldServerContext).result oldServerSession = .ok ⟨0⟩ := rfl
  obtain ⟨hanswers, -⟩ := answers_of_run oldServerContext oldServerSession ⟨0⟩ h shadowedSteps
  exact ⟨h, hanswers (.ofType .text .text), rfl, ⟨_, rfl, rfl⟩, rfl⟩

end Cache

end PgAdapt
