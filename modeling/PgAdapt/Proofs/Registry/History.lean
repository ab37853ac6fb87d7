import Mathlib.Data.List.Basic
import Mathlib.Data.Set.Card
import Mathlib.Tactic.SplitIfs
import PgAdapt.Proofs.Action

/-!
# Keys and history of a registry

A registry finds makers under keys. What it finds is decided by the steps that were directed at it, in
any run: `PgAdapt.Registry.grows_of_run`.
-/

namespace PgAdapt

/-! ## Keys

A registry has two tables, one for dumpers and one for loaders. Here they are looked at as one, with
a `PgAdapt.Registry.Key` that says which table is meant: `PgAdapt.Registry.maker?` finds the maker
under a key, and `PgAdapt.Registry.count` counts the makers on one side.
-/

/-- The size of a table is the number of keys under which there is something. -/
theorem Table.size_eq_ncard {κ α : Type} [DecidableEq κ] (t : Table κ α) :
    t.size = {k | (t.get? k).isSome}.ncard := by
  have hkeys : {k | (t.get? k).isSome} = ((t.entries.map Prod.fst).toFinset : Set κ) := by
    ext k
    rw [List.coe_toFinset, Set.mem_ofPred_eq, Set.mem_ofPred_eq, ← t.contains_iff_mem]
    rfl
  rw [hkeys, Set.ncard_coe_finset, List.toFinset_card_of_nodup t.nodup, List.length_map]
  rfl

namespace Registry

/-! ### Keys -/

/-- A **key** of a registry. -/
inductive Key where
  /-- The key of the makers of dumpers for a type of values in a format. -/
  | dumper (source : ValueType) (format : Format)
  /-- The key of the makers of loaders for a type of the server in a format. -/
  | loader (oid : Oid) (format : Format)
  deriving DecidableEq

/-- A **maker** of either kind. -/
inductive Maker where
  | dumper (factory : DumperFactory)
  | loader (factory : LoaderFactory)

/-- The maker under a key. -/
def maker? (registry : Registry) : Key → Option Maker
  | .dumper source format => (registry.dumper? source format).map .dumper
  | .loader oid format => (registry.loader? oid format).map .loader

@[simp]
theorem maker?_empty (key : Key) : empty.maker? key = none := by
  cases key <;> rfl

theorem maker?_addDumper (registry : Registry) (source : ValueType) (format : Format)
    (factory : DumperFactory) (key : Key) :
    (registry.addDumper source format factory).maker? key =
      if .dumper source format = key then some (.dumper factory) else registry.maker? key := by
  rcases key with ⟨source', format'⟩ | ⟨oid, format'⟩
  · simp only [maker?, dumper?, addDumper, Table.get?_insert, Key.dumper.injEq, Prod.mk.injEq]
    split_ifs <;> rfl
  · rfl

theorem maker?_addLoader (registry : Registry) (oid : Oid) (format : Format)
    (factory : LoaderFactory) (key : Key) :
    (registry.addLoader oid format factory).maker? key =
      if .loader oid format = key then some (.loader factory) else registry.maker? key := by
  rcases key with ⟨source, format'⟩ | ⟨oid', format'⟩
  · rfl
  · simp only [maker?, loader?, addLoader, Table.get?_insert, Key.loader.injEq, Prod.mk.injEq]
    split_ifs <;> rfl

/-! ### Counts -/

/-- A **side** of a registry. -/
inductive Side where
  /-- The makers of dumpers. -/
  | dumpers
  /-- The makers of loaders. -/
  | loaders
  deriving DecidableEq

/-- The side that a key belongs to. -/
def Key.side : Key → Side
  | .dumper .. => .dumpers
  | .loader .. => .loaders

/-- The number of makers on a side. -/
def count (registry : Registry) : Side → Nat
  | .dumpers => registry.dumpers.size
  | .loaders => registry.loaders.size

/-- **Makers are counted by their keys.** -/
theorem count_eq_ncard (registry : Registry) (side : Side) :
    registry.count side = {key | key.side = side ∧ (registry.maker? key).isSome}.ncard := by
  cases side with
  | dumpers =>
    have himage : {key | key.side = .dumpers ∧ (registry.maker? key).isSome} =
        (fun k => Key.dumper k.1 k.2) '' {k | (registry.dumpers.get? k).isSome} := by
      ext key
      rcases key with ⟨source, format⟩ | ⟨oid, format⟩ <;> simp [Key.side, maker?, dumper?]
    rw [himage, Set.ncard_image_of_injective _ fun k k' h => by cases k; cases k'; cases h; rfl]
    exact registry.dumpers.size_eq_ncard
  | loaders =>
    have himage : {key | key.side = .loaders ∧ (registry.maker? key).isSome} =
        (fun k => Key.loader k.1 k.2) '' {k | (registry.loaders.get? k).isSome} := by
      ext key
      rcases key with ⟨source, format⟩ | ⟨oid, format⟩ <;> simp [Key.side, maker?, loader?]
    rw [himage, Set.ncard_image_of_injective _ fun k k' h => by cases k; cases k'; cases h; rfl]
    exact registry.loaders.size_eq_ncard

/-- Whether an event says that a maker was registered on a side under a key that was not taken. -/
def Side.isEnteredBy : Side → Event → Bool
  | .dumpers, .dumperRegistered _ _ _ shadowed => !shadowed
  | .loaders, .loaderRegistered _ _ _ shadowed => !shadowed
  | _, _ => false

theorem count_addDumper (registry : Registry) (source : ValueType) (format : Format)
    (factory : DumperFactory) (side : Side) :
    (registry.addDumper source format factory).count side = registry.count side +
      [Event.dumperRegistered source format factory.name
        (registry.maker? (.dumper source format)).isSome].countP side.isEnteredBy := by
  cases side with
  | dumpers =>
    simp only [count, addDumper, Table.size_insert, Table.contains, maker?, dumper?,
      Option.isSome_map]
    by_cases h : (registry.dumpers.get? (source, format)).isSome <;> simp [h, Side.isEnteredBy]
  | loaders => rfl

theorem count_addLoader (registry : Registry) (oid : Oid) (format : Format)
    (factory : LoaderFactory) (side : Side) :
    (registry.addLoader oid format factory).count side = registry.count side +
      [Event.loaderRegistered oid format factory.name
        (registry.maker? (.loader oid format)).isSome].countP side.isEnteredBy := by
  cases side with
  | dumpers => rfl
  | loaders =>
    simp only [count, addLoader, Table.size_insert, Table.contains, maker?, loader?,
      Option.isSome_map]
    by_cases h : (registry.loaders.get? (oid, format)).isSome <;> simp [h, Side.isEnteredBy]

end Registry

/-! ## History

Registries are referred to by name, from registrations, from contexts and their copies, and from
snapshots, so what a registry holds is a matter of which steps were directed at it. A
`PgAdapt.Registry.Step` is one such step, and a run is a list of steps from the session in which
nothing has happened yet.

A registry comes into being with some content (`PgAdapt.Registry.Origin`): the shared one and new
ones with none, a snapshot with what the other registry holds at that moment. From then on the
last registration under a key that is directed at it decides what is found there, and where there
is none, what it held at first (`PgAdapt.Registry.Grows`). No other step counts, whatever it does
to other registries: the name of a registry is given only once. This is
`PgAdapt.Registry.grows_of_run`.
-/

namespace Registry

/-! ### Steps -/

/-- What a registration is **directed at**. -/
inductive Target where
  /-- A registry. -/
  | into (id : RegistryId)
  /-- The registry of a context, or the shared one without a context. -/
  | of (ctx : Option Context)

/-- The registry that a registration is directed at. -/
def Target.registry : Target → RegistryId
  | .into id => id
  | .of ctx => Context.target ctx

/-- A **step** in the history of the registries. -/
inductive Step where
  /-- A new registry without makers. -/
  | create
  /-- A new registry with the makers that another one has now. -/
  | snapshot (of : RegistryId)
  /-- A new context that looks into a copy of the shared registry. -/
  | seed
  /-- A registration of a maker of dumpers. -/
  | dumper (target : Target) (source : ValueType) (format : Format) (factory : DumperFactory)
  /-- A registration of a maker of loaders. -/
  | loader (target : Target) (oid : Oid) (format : Format) (factory : LoaderFactory)

namespace Step

/-- What a step does. It gives the registry that it is about: the new one, or the one that the
registration is directed at. -/
def act : Step → Action RegistryId
  | .create => Action.newRegistry .empty
  | .snapshot of => Action.snapshot of
  | .seed => Context.registry <$> Context.seeded
  | .dumper target source format factory => do
    Action.registerDumper target.registry source format factory
    return target.registry
  | .loader target oid format factory => do
    Action.registerLoader target.registry oid format factory
    return target.registry

/-- The maker that a step registers under a key of a registry. -/
def registers (id : RegistryId) (key : Key) : Step → Option Maker
  | .dumper target source format factory =>
    if target.registry = id ∧ .dumper source format = key then some (.dumper factory) else none
  | .loader target oid format factory =>
    if target.registry = id ∧ .loader oid format = key then some (.loader factory) else none
  | _ => none

/-- Whether a step is a registration that is directed at a registry. -/
def isDirectedAt (id : RegistryId) : Step → Bool
  | .dumper target _ _ _ | .loader target _ _ _ => target.registry = id
  | _ => false

/-- The events of a step: one for a registration, which says whether the key was taken. -/
def events (s : Session) : Step → List Event
  | .dumper target source format factory =>
    [.dumperRegistered source format factory.name
      ((s.registries target.registry).maker? (.dumper source format)).isSome]
  | .loader target oid format factory =>
    [.loaderRegistered oid format factory.name
      ((s.registries target.registry).maker? (.loader oid format)).isSome]
  | _ => []

end Step

/-- Whether the name of a registry has been given to one. -/
def Given (s : Session) : RegistryId → Prop
  | .shared => True
  | .separate number => number < s.next

section Step

variable {s : Session} {id : RegistryId} (step : Step)

theorem Given.ne_next (h : Given s id) : id ≠ .separate s.next := by
  rintro rfl
  exact Nat.lt_irrefl _ h

theorem Given.act (h : Given s id) : Given (step.act.after s) id := by
  cases id with
  | shared => trivial
  | separate number =>
    cases step with
    | create | snapshot | seed => exact Nat.lt_succ_of_lt h
    | dumper | loader => exact h

/-- A registration reports one event, and it is shadowed exactly if there was a maker under the
key; no other step reports anything. -/
theorem eventsSince_act : (step.act.after s).eventsSince s = step.events s := by
  have hevents : (step.act.after s).events = s.events ++ step.events s := by
    cases step with
    | create | snapshot | seed => exact (List.append_nil _).symm
    | dumper | loader => simp only [Step.events, maker?, Option.isSome_map]; rfl
  rw [Session.eventsSince, hevents, List.drop_left]

/-- **A registry is changed by what is directed at it** and by nothing else. -/
theorem registries_act_of_isDirectedAt_false (h : Given s id)
    (hstep : step.isDirectedAt id = false) :
    (step.act.after s).registries id = s.registries id := by
  cases step with
  | create | snapshot | seed => exact assign_of_ne h.ne_next
  | dumper | loader => exact assign_of_ne (Ne.symm (by simpa [Step.isDirectedAt] using hstep))

@[simp]
theorem registries_act_dumper (target : Target) (source : ValueType) (format : Format)
    (factory : DumperFactory) :
    ((Step.dumper target source format factory).act.after s).registries target.registry =
      (s.registries target.registry).addDumper source format factory :=
  assign_self _ _ _

@[simp]
theorem registries_act_loader (target : Target) (oid : Oid) (format : Format)
    (factory : LoaderFactory) :
    ((Step.loader target oid format factory).act.after s).registries target.registry =
      (s.registries target.registry).addLoader oid format factory :=
  assign_self _ _ _

/-- A registration lies on top of what was there. -/
theorem maker?_act (h : Given s id) (key : Key) :
    ((step.act.after s).registries id).maker? key =
      (step.registers id key).or ((s.registries id).maker? key) := by
  cases hstep : step.isDirectedAt id with
  | false =>
    have hnone : step.registers id key = none := by
      cases step <;> simp_all [Step.isDirectedAt, Step.registers]
    rw [registries_act_of_isDirectedAt_false step h hstep, hnone, Option.none_or]
  | true =>
    cases step with
    | create | snapshot | seed => cases hstep
    | dumper target source format factory =>
      obtain rfl : target.registry = id := by simpa [Step.isDirectedAt] using hstep
      rw [registries_act_dumper, maker?_addDumper]
      by_cases hkey : .dumper source format = key <;> simp [Step.registers, hkey]
    | loader target oid format factory =>
      obtain rfl : target.registry = id := by simpa [Step.isDirectedAt] using hstep
      rw [registries_act_loader, maker?_addLoader]
      by_cases hkey : .loader oid format = key <;> simp [Step.registers, hkey]

/-- What a step reports of a registry: its events, if it is directed at the registry. -/
def reported (id : RegistryId) (s : Session) (step : Step) : List Event :=
  if step.isDirectedAt id then (step.act.after s).eventsSince s else []

/-- A side grows by one when an event says that the key was not taken. -/
theorem count_act (h : Given s id) (side : Side) :
    ((step.act.after s).registries id).count side =
      (s.registries id).count side + (reported id s step).countP side.isEnteredBy := by
  rw [reported, eventsSince_act]
  cases hstep : step.isDirectedAt id with
  | false => rw [registries_act_of_isDirectedAt_false step h hstep]; rfl
  | true =>
    cases step with
    | create | snapshot | seed => cases hstep
    | dumper target source format factory =>
      obtain rfl : target.registry = id := by simpa [Step.isDirectedAt] using hstep
      rw [registries_act_dumper]
      exact count_addDumper _ source format factory side
    | loader target oid format factory =>
      obtain rfl : target.registry = id := by simpa [Step.isDirectedAt] using hstep
      rw [registries_act_loader]
      exact count_addLoader _ oid format factory side

end Step

/-! ### Runs -/

/-- The session after the steps of a run. -/
def run (s : Session) (steps : List Step) : Session :=
  steps.foldl (fun s step => step.act.after s) s

@[simp]
theorem run_append (s : Session) (steps steps' : List Step) :
    run s (steps ++ steps') = run (run s steps) steps' :=
  List.foldl_append

/-- What the steps of a run report of a registry. -/
def reports (id : RegistryId) (s : Session) : List Step → List Event
  | [] => []
  | step :: steps => reported id s step ++ reports id (step.act.after s) steps

theorem reports_append_singleton (id : RegistryId) (s : Session) (steps : List Step) (step : Step) :
    reports id s (steps ++ [step]) = reports id s steps ++ reported id (run s steps) step := by
  induction steps generalizing s with
  | nil => simp [reports, run]
  | cons first steps ih => simp [reports, run, ih]

/-- **How a registry grows** in a run: the last registration under a key decides what is found, and
where there is none, what was there at the start; and a side grows by the events that say that the
key was not taken. -/
structure Grows (id : RegistryId) (s : Session) (steps : List Step) (start : Registry) : Prop where
  maker?_eq (key : Key) : ((run s steps).registries id).maker? key =
    (steps.filterMap (Step.registers id key)).getLast?.or (start.maker? key)
  count_eq (side : Side) : ((run s steps).registries id).count side =
    start.count side + (reports id s steps).countP side.isEnteredBy

namespace Grows

variable {s : Session} {id : RegistryId} {steps : List Step} {start : Registry}

theorem nil (h : s.registries id = start) : Grows id s [] start where
  maker?_eq key := by rw [← h]; rfl
  count_eq side := by rw [← h]; rfl

/-- A registry that is there goes on to grow with every step. -/
theorem snoc (hs : Grows id s steps start) (h : Given (run s steps) id) (step : Step) :
    Grows id s (steps ++ [step]) start where
  maker?_eq key := by
    rw [run_append, List.filterMap_append, List.getLast?_append, Option.or_assoc, ← hs.maker?_eq]
    rw [show run (run s steps) [step] = step.act.after (run s steps) from rfl, maker?_act step h]
    cases hreg : step.registers id key <;> simp [hreg]
  count_eq side := by
    rw [run_append, reports_append_singleton, List.countP_append, ← Nat.add_assoc, ← hs.count_eq]
    exact count_act step h side

end Grows

/-- **The origin of a registry**: the steps at the end of which it comes into being, and what it
holds at first. -/
inductive Origin (id : RegistryId) : List Step → Registry → Prop where
  /-- The shared registry has always been there. -/
  | shared (h : id = .shared) : Origin id [] .empty
  /-- A new registry holds nothing. -/
  | created {steps : List Step} (h : Step.create.act.result (run {} steps) = .ok id) :
      Origin id (steps ++ [.create]) .empty
  /-- A snapshot holds what the other registry holds at that moment. -/
  | copied {steps : List Step} {of : RegistryId}
      (h : (Step.snapshot of).act.result (run {} steps) = .ok id) :
      Origin id (steps ++ [.snapshot of]) ((run {} steps).registries of)
  /-- The registry of a new context holds what the shared one holds at that moment. -/
  | seeded {steps : List Step} (h : Step.seed.act.result (run {} steps) = .ok id) :
      Origin id (steps ++ [.seed]) ((run {} steps).registries .shared)

/-- The name that a step gives to a registry is the one that it had not been given before, and the
registry starts out as its origin says. -/
theorem exists_origin_snoc {steps : List Step} {step : Step} {id : RegistryId}
    (hold : ¬ Given (run {} steps) id) (hnew : Given (run {} (steps ++ [step])) id) :
    ∃ start, Origin id (steps ++ [step]) start ∧
      (run {} (steps ++ [step])).registries id = start := by
  cases id with
  | shared => exact absurd trivial hold
  | separate number =>
    rw [run_append] at hnew ⊢
    cases step with
    | dumper | loader => exact absurd hnew hold
    | create =>
      obtain rfl : number = (run {} steps).next :=
        Nat.le_antisymm (Nat.le_of_lt_succ hnew) (Nat.le_of_not_lt hold)
      exact ⟨_, .created rfl, assign_self _ _ _⟩
    | snapshot of =>
      obtain rfl : number = (run {} steps).next :=
        Nat.le_antisymm (Nat.le_of_lt_succ hnew) (Nat.le_of_not_lt hold)
      exact ⟨_, .copied rfl, assign_self _ _ _⟩
    | seed =>
      obtain rfl : number = (run {} steps).next :=
        Nat.le_antisymm (Nat.le_of_lt_succ hnew) (Nat.le_of_not_lt hold)
      exact ⟨_, .seeded rfl, assign_self _ _ _⟩

/-- Every registry has an origin from which it has grown. -/
theorem exists_origin (steps : List Step) {id : RegistryId} (h : Given (run {} steps) id) :
    ∃ earlier later start, steps = earlier ++ later ∧ Origin id earlier start ∧
      Grows id (run {} earlier) later start := by
  induction steps using List.reverseRecOn with
  | nil =>
    obtain rfl : id = .shared := by
      cases id with
      | shared => rfl
      | separate number => exact absurd h (Nat.not_lt_zero _)
    exact ⟨[], [], .empty, rfl, .shared rfl, .nil rfl⟩
  | append_singleton steps step ih =>
    by_cases hold : Given (run {} steps) id
    · obtain ⟨earlier, later, start, rfl, horigin, hgrows⟩ := ih hold
      rw [run_append] at hold
      exact ⟨earlier, later ++ [step], start, List.append_assoc .., horigin, hgrows.snoc hold step⟩
    · obtain ⟨start, horigin, hstart⟩ := exists_origin_snoc hold h
      exact ⟨steps ++ [step], [], start, (List.append_nil _).symm, horigin, .nil hstart⟩

/-- **What a registry holds after any run.** It has grown from its origin by what was directed at
it since. Its makers are counted by their keys. The next step reports exactly the registration that
it is, if it is one, and leaves the registry alone unless it is directed at it. -/
theorem grows_of_run (steps : List Step) (id : RegistryId) (h : Given (run {} steps) id) :
    (∃ earlier later start, steps = earlier ++ later ∧ Origin id earlier start ∧
      Grows id (run {} earlier) later start) ∧
    (∀ side, ((run {} steps).registries id).count side =
      {key | key.side = side ∧ (((run {} steps).registries id).maker? key).isSome}.ncard) ∧
    ∀ step : Step,
      (step.act.after (run {} steps)).eventsSince (run {} steps) = step.events (run {} steps) ∧
      (step.isDirectedAt id = false →
        (step.act.after (run {} steps)).registries id = (run {} steps).registries id) :=
  ⟨exists_origin steps h, count_eq_ncard _,
    fun step => ⟨eventsSince_act step, registries_act_of_isDirectedAt_false step h⟩⟩

/-- A maker of dumpers that dump nothing. -/
def namedMaker (id : Nat) (name : String) : DumperFactory where
  id := id
  name := name
  recipe := .scalar { name := name, format := .text, oid := .text }

/-- The shared registry is copied into a context, the copy is shadowed by way of the context and is
copied in turn, and the shared registry gets a maker that none of the copies has. -/
def divergingSteps : List Step :=
  [.dumper (.of none) .text .text (namedMaker 1 "reference"),
    .seed,
    .dumper (.of (some { registry := .separate 0 })) .text .text (namedMaker 2 "optimized"),
    .snapshot (.separate 0),
    .dumper (.into .shared) .blob .binary (namedMaker 3 "later")]

/-- The three registries after these steps: in the copy the key is taken once and shadowed, the
shared registry still has the first maker, and the later one is in none of the copies. -/
theorem grows_of_run_diverging :
    Given (run {} divergingSteps) (.separate 0) ∧
      (∃ earlier later start, divergingSteps = earlier ++ later ∧
        Origin (.separate 0) earlier start ∧ Grows (.separate 0) (run {} earlier) later start) ∧
      ((run {} divergingSteps).registries .shared).maker? (.dumper .text .text) =
        some (.dumper (namedMaker 1 "reference")) ∧
      ((run {} divergingSteps).registries (.separate 0)).maker? (.dumper .text .text) =
        some (.dumper (namedMaker 2 "optimized")) ∧
      ((run {} divergingSteps).registries (.separate 1)).maker? (.dumper .text .text) =
        some (.dumper (namedMaker 2 "optimized")) ∧
      ((run {} divergingSteps).registries (.separate 0)).maker? (.dumper .blob .binary) = none ∧
      ((run {} divergingSteps).registries (.separate 0)).count .dumpers = 1 ∧
      (run {} divergingSteps).events =
        [.dumperRegistered .text .text "reference" false,
          .dumperRegistered .text .text "optimized" true,
          .dumperRegistered .blob .binary "later" false] := by
  have hgiven : Given (run {} divergingSteps) (.separate 0) := by
    change 0 < 2
    decide
  refine ⟨hgiven, (grows_of_run divergingSteps (.separate 0) hgiven).1, ?_⟩
  exact ⟨rfl, rfl, rfl, rfl, rfl, rfl⟩

end Registry

end PgAdapt
