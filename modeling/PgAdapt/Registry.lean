import PgAdapt.Codec

/-!
# Registries

A registry finds the maker of a codec under a key. It consists of two tables, one for dumpers and one
for loaders.
-/

namespace PgAdapt

/-! ## Tables

A finite table from keys to values. A key occurs once: entering a value under a key that is
present replaces what was there. Two views pin a table down, `PgAdapt.Table.get?` and
`PgAdapt.Table.size`, and `PgAdapt.Table.get?_insert` and `PgAdapt.Table.size_insert` say what
entering a value does to them.
-/

/-- A **table** from `κ` to `α`. -/
structure Table (κ α : Type) where
  /-- The keys with their values. -/
  entries : List (κ × α)
  /-- No key occurs twice. -/
  nodup : (entries.map Prod.fst).Nodup

namespace Table

variable {κ α : Type}

/-- The table without entries. -/
def empty : Table κ α := ⟨[], by simp⟩

instance : Inhabited (Table κ α) := ⟨empty⟩

/-- The number of keys. -/
def size (t : Table κ α) : Nat := t.entries.length

@[simp]
theorem size_empty : (empty : Table κ α).size = 0 := rfl

variable [DecidableEq κ]

/-- The value under a key. -/
def get? (t : Table κ α) (k : κ) : Option α :=
  (t.entries.find? fun entry => entry.1 = k).map Prod.snd

/-- Whether there is a value under a key. -/
def contains (t : Table κ α) (k : κ) : Bool := (t.get? k).isSome

/-- The table after a value has been entered under a key. -/
def insert (t : Table κ α) (k : κ) (a : α) : Table κ α where
  entries := (k, a) :: t.entries.filter fun entry => entry.1 ≠ k
  nodup := by
    rw [List.map_cons, List.nodup_cons]
    constructor
    · simp
    · exact t.nodup.sublist (List.filter_sublist.map _)

@[simp]
theorem get?_empty (k : κ) : (empty : Table κ α).get? k = none := rfl

/-- Entering a value changes what is under its key and nothing else. -/
theorem get?_insert (t : Table κ α) (k k' : κ) (a : α) :
    (t.insert k a).get? k' = if k = k' then some a else t.get? k' := by
  by_cases h : k = k'
  · simp [get?, insert, h]
  · have hf : t.entries.find? (fun entry => decide (entry.1 ≠ k) && decide (entry.1 = k')) =
        t.entries.find? fun entry => decide (entry.1 = k') := by
      congr 1
      funext entry
      by_cases he : entry.1 = k' <;> simp [he, Ne.symm h]
    simp [get?, insert, h, List.find?_filter]
    simp at hf
    rw [hf]

theorem contains_iff_mem (t : Table κ α) (k : κ) :
    t.contains k = true ↔ k ∈ t.entries.map Prod.fst := by
  simp [contains, get?]

/-- Entering a value adds a key exactly when the key was not there. -/
theorem size_insert (t : Table κ α) (k : κ) (a : α) :
    (t.insert k a).size = if t.contains k then t.size else t.size + 1 := by
  obtain ⟨entries, nodup⟩ := t
  have key : (entries.filter fun entry => decide (entry.1 ≠ k)).length +
      (if k ∈ entries.map Prod.fst then 1 else 0) = entries.length := by
    induction entries with
    | nil => simp
    | cons entry entries ih =>
      rw [List.map_cons, List.nodup_cons] at nodup
      have ih := ih nodup.2
      by_cases h : entry.1 = k
      · rw [← h] at ih ⊢
        rw [if_neg nodup.1] at ih
        rw [List.map_cons, if_pos List.mem_cons_self, List.filter_cons_of_neg (by simp)]
        simp only [List.length_cons]
        omega
      · have hm : k ∈ (entry :: entries).map Prod.fst ↔ k ∈ entries.map Prod.fst := by
          simp [Ne.symm h]
        rw [List.filter_cons_of_pos (by simpa using h)]
        simp only [hm, List.length_cons]
        omega
  rw [show (⟨entries, nodup⟩ : Table κ α).contains k = decide (k ∈ entries.map Prod.fst) by
    rw [Bool.eq_iff_iff, contains_iff_mem]; simp]
  simp only [size, insert, List.length_cons]
  by_cases h : k ∈ entries.map Prod.fst <;> simp only [h, decide_true, decide_false, if_true,
    Bool.false_eq_true, if_false] at key ⊢ <;> omega

end Table

/-! ## Makers under keys

A registry says which maker is responsible for a type of values, or for a type of the server, in a
format. Registering is overwriting: the last maker under a key is the one that is found, and nothing
else is found under it. There is no search beyond the key.
-/

/-- A **registry** of makers. -/
structure Registry where
  /-- The makers of dumpers, by type of values and format. -/
  dumpers : Table (ValueType × Format) DumperFactory := .empty
  /-- The makers of loaders, by type of the server and format. -/
  loaders : Table (Oid × Format) LoaderFactory := .empty
  deriving Inhabited

namespace Registry

/-- The registry without makers. -/
def empty : Registry := {}

/-- The registry after a maker of dumpers has been registered. -/
def addDumper (registry : Registry) (source : ValueType) (format : Format)
    (factory : DumperFactory) : Registry :=
  { registry with dumpers := registry.dumpers.insert (source, format) factory }

/-- The registry after a maker of loaders has been registered. -/
def addLoader (registry : Registry) (oid : Oid) (format : Format)
    (factory : LoaderFactory) : Registry :=
  { registry with loaders := registry.loaders.insert (oid, format) factory }

/-- The maker of dumpers for a type of values in a format. -/
def dumper? (registry : Registry) (source : ValueType) (format : Format) : Option DumperFactory :=
  registry.dumpers.get? (source, format)

/-- The maker of loaders for a type of the server in a format. -/
def loader? (registry : Registry) (oid : Oid) (format : Format) : Option LoaderFactory :=
  registry.loaders.get? (oid, format)

/-- Whether there is a maker of loaders for a type of the server, in either format. -/
def canLoad (registry : Registry) (oid : Oid) : Bool :=
  (registry.loader? oid .text).isSome || (registry.loader? oid .binary).isSome

/-- A registry in dumps of a structure. -/
def label (registry : Registry) : String :=
  record "AdaptersMap"
    [("dumpers", toString registry.dumpers.size), ("loaders", toString registry.loaders.size)]

end Registry

end PgAdapt
