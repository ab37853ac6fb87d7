import Mathlib.Tactic.Choose
import PgAdapt.Dump
import PgAdapt.Load
import PgAdapt.Proofs.ArrayBinary.Box
import PgAdapt.Proofs.Session.Lookup

/-!
# What dumping and loading depend on

What comes of dumping a value or of loading bytes is determined by what the context sees, whatever has
been cached before: `PgAdapt.World.determinesDump_ofValue` and `PgAdapt.World.determinesLoad`.
-/

namespace PgAdapt

/-! ## Dumping depends on what the context sees

Dumping a value may fill caches, and the caches may have been filled before; but what it gives is
determined by what the context sees: `PgAdapt.World.determinesDump_ofValue`. The proof follows the
value. A single value is handed to a dumper that the registry determines. An array goes to a
dumper whose cache is trusted too, and then the values in it are dumped by way of that cache, so
that the same holds of them.
-/

namespace World

variable {sc : Scope} {α : Type}

/-! ### Arrays over anything that can be dumped -/

section Array

variable {w : World sc} {f : α → Action (Bytes × Oid)} {g : α → Except AdaptError (Bytes × Oid)}

theorem Gives.checkLength (w : World sc) (what : String) (length : Nat) :
    w.Gives (checkLength what length) (checkLength what length) := by
  rw [PgAdapt.checkLength, PgAdapt.checkLength]
  split_ifs
  · exact .throw w _
  · exact .pure w ()

theorem Gives.dumpLeaf (leaf : Option α)
    (h : ∀ a, leaf = some a → ∀ w', w ≤ w' → w'.Gives (f a) (g a)) :
    w.Gives (dumpLeaf f leaf) (dumpLeaf g leaf) := by
  rcases leaf with _ | a
  · exact .pure w none
  · refine .bind (h a rfl w (le_refl w)) fun x _ w' _ => ?_
    exact .bind (.checkLength w' "element" x.1.length) fun _ _ w'' _ => .pure w'' _

variable {items : List (Element α)}
  (h : ∀ a ∈ Element.valuesAll items, ∀ w', w ≤ w' → w'.Gives (f a) (g a))

include h

theorem Gives.dumpText : w.Gives (dumpText f items) (dumpText g items) :=
  .bind (.traverseAll items w h) fun _ _ w' _ => .pure w' _

theorem Gives.dumpBinary : w.Gives (dumpBinary f items) (dumpBinary g items) := by
  unfold PgAdapt.dumpBinary
  split_ifs
  · exact .pure w _
  refine .bind (.ofExcept w _) fun dims _ w₁ hw₁ => ?_
  have hleaves (a : α) (ha : some a ∈ (ArrayBinary.flatten dims items).1) :
      a ∈ Element.valuesAll items := ArrayBinary.mem_valuesAll_of_mem_flatten ha
  -- The leaves before a fault in the shape have been dumped when the fault is reported.
  generalize ArrayBinary.flatten dims items = flattened at hleaves ⊢
  obtain ⟨leaves, fault?⟩ := flattened
  refine .bind (.mapM leaves w₁ fun leaf hleaf w' hw' => .dumpLeaf leaf ?_)
    fun dumped _ w₂ hw₂ => ?_
  · rintro a rfl w'' hw''
    exact h a (hleaves a hleaf) w'' (le_trans hw₁ (le_trans hw' hw''))
  rcases fault? with _ | fault
  · refine .bind (.checkLength w₂ _ _) fun _ _ w₃ _ => ?_
    refine .bind (.forM dims w₃ fun dim _ w' _ => .checkLength w' _ dim) fun _ _ w₄ _ => ?_
    exact .pure w₄ _
  · exact .bind (.throw w₂ _) fun _ hx => by cases hx

theorem Gives.dumpArrayWith (format : Format) :
    w.Gives (dumpArrayWith f format items) (dumpArrayWith g format items) := by
  cases format with
  | text => exact .dumpText h
  | binary => exact .dumpBinary h

end Array

/-! ### Values -/

/-- What comes of using a dumper that a maker with a given recipe has made is **determined** by what
the context sees. -/
def DeterminesUse {β : Type} (sc : Scope) (recipe : DumperRecipe) (use : Dumper → Action β) :
    Prop :=
  ∃ r, ∀ (w : World sc) (source : ValueType) (d : Dumper),
    BuiltDumper sc w.live source recipe d → w.Gives (use d) r

/-- What comes of dumping a value by way of a cache is **determined** by what the context sees. -/
def DeterminesDump (sc : Scope) (format : Format) (leaf : Dumpable) : Prop :=
  ∃ r, ∀ (w : World sc) (id : TransformerId), id ∈ w.live → w.Gives (leaf.dumpVia id format) r

/-- The registry names the maker of the dumper, so it is enough to know what the dumpers of one
maker do. -/
theorem determinesDump_of_recipe {leaf : Dumpable} {format : Format}
    (h : ∀ recipe, DeterminesUse sc recipe leaf.dump) : DeterminesDump sc format leaf := by
  cases hfactory : sc.registry.dumper? leaf.source format with
  | none =>
    refine ⟨throw (.dumperNotFound ValueType.unnamed format), fun w id hid => ?_⟩
    exact (gives_dumperNamed_of_none w hid hfactory _).bind_error _
  | some factory =>
    obtain ⟨r, hr⟩ := h factory.recipe
    refine ⟨do return (← r, factory.recipe.announced sc), fun w id hid => ?_⟩
    refine (makes_dumperNamed w hid hfactory _).gives_bind fun w' d _ hd => ?_
    rw [hd.oid_eq]
    exact .bind (hr w' leaf.source d hd) fun _ _ w'' _ => .pure w'' _

theorem determinesUse_single (v : Value) (recipe : DumperRecipe) :
    DeterminesUse sc recipe (Dumpable.single v).dump := by
  cases recipe with
  | scalar codec =>
    -- A codec of single values does not look at the session at all.
    refine ⟨codec.dump v, fun w source d hd => ?_⟩
    cases hd with
    | scalar id codec => exact .action w _
  | array format =>
    refine ⟨throw (.typeMismatch (Dumper.arrayName format) ValueType.array.label),
      fun w source d hd => ?_⟩
    cases hd with
    | array id format helements => exact .throw w _

/-- An array is dumped by way of a trusted cache as the dumps of its values determine. -/
theorem exists_gives_dumpArrayWith {leaves : List (Element Dumpable)} {format : Format}
    (h : ∀ leaf ∈ Element.valuesAll leaves, DeterminesDump sc format leaf) :
    ∃ r, ∀ (w : World sc) (elements : TransformerId), elements ∈ w.live →
      w.Gives (dumpArrayWith (Dumpable.dumpVia elements format) format leaves) r := by
  -- One function has to serve for all leaves, so it is chosen before any session is given; what
  -- it does elsewhere does not matter.
  have hleaf : ∀ leaf, ∃ r, leaf ∈ Element.valuesAll leaves → ∀ (w : World sc)
      (id : TransformerId), id ∈ w.live → w.Gives (leaf.dumpVia id format) r := by
    intro leaf
    by_cases hmem : leaf ∈ Element.valuesAll leaves
    · obtain ⟨r, hr⟩ := h leaf hmem
      exact ⟨r, fun _ => hr⟩
    · exact ⟨pure default, fun hmem' => absurd hmem' hmem⟩
  choose g hg using hleaf
  refine ⟨dumpArrayWith g format leaves, fun w elements helements => ?_⟩
  exact .dumpArrayWith (fun leaf hmem w' hw' => hg leaf hmem w' elements (hw' helements)) format

theorem determinesUse_ofArray (v : Value) {leaves : List (Element Dumpable)}
    (h : ∀ leaf ∈ Element.valuesAll leaves, ∀ format, DeterminesDump sc format leaf)
    (recipe : DumperRecipe) : DeterminesUse sc recipe (Dumpable.ofArray v leaves).dump := by
  cases recipe with
  | scalar codec =>
    refine ⟨codec.dump v, fun w source d hd => ?_⟩
    cases hd with
    | scalar id codec => exact .action w _
  | array format =>
    obtain ⟨r, hr⟩ := exists_gives_dumpArrayWith fun leaf hmem => h leaf hmem format
    refine ⟨do return (← r).1, fun w source d hd => ?_⟩
    cases hd with
    | array id format helements => exact .bind (hr w _ helements) fun _ _ w' _ => .pure w' _

mutual

/-- **Dumping a value is determined by what the context sees.** -/
theorem determinesDump_ofValue : ∀ (v : Value) (format : Format),
    DeterminesDump sc format (.ofValue v)
  | .array items, _ =>
    determinesDump_of_recipe (determinesUse_ofArray _ (determinesDump_ofElements items))
  | .bool _, _ | .int _ _, _ | .float _ _, _ | .text _, _ | .staticText _, _ | .blob _, _
  | .sharedBlob _, _ | .null, _ => determinesDump_of_recipe (determinesUse_single _)

theorem determinesDump_ofElements : ∀ items : List (Element Value),
    ∀ leaf ∈ Element.valuesAll (Dumpable.ofElements items), ∀ format,
      DeterminesDump sc format leaf
  | [] => by simp [Dumpable.ofElements]
  | .null :: items => by
    simpa [Dumpable.ofElements, Dumpable.ofElement] using determinesDump_ofElements items
  | .value v :: items => by
    simp only [Dumpable.ofElements, Dumpable.ofElement, Element.valuesAll_value_cons,
      List.forall_mem_cons]
    exact ⟨determinesDump_ofValue v, determinesDump_ofElements items⟩
  | .array inner :: items => by
    simp only [Dumpable.ofElements, Dumpable.ofElement, Element.valuesAll_array_cons,
      List.forall_mem_append]
    exact ⟨determinesDump_ofElements inner, determinesDump_ofElements items⟩

end

/-! ### Dumpers -/

/-- **What a dumper makes of a value is determined by what the context sees.** -/
theorem determinesUse_dump (v : Value) (recipe : DumperRecipe) :
    DeterminesUse sc recipe (·.dump v) := by
  cases v with
  | array items => exact determinesUse_ofArray _ (determinesDump_ofElements items) recipe
  | _ => exact determinesUse_single _ recipe

/-- **What a dumper makes of an array is determined by what the context sees.** -/
theorem determinesUse_dumpArray (items : PgArray) (recipe : DumperRecipe) :
    DeterminesUse sc recipe (·.dumpArray items) := by
  cases recipe with
  | scalar codec =>
    refine ⟨throw (.typeMismatch codec.name ValueType.array.label), fun w source d hd => ?_⟩
    cases hd with
    | scalar id codec => exact .throw w _
  | array format =>
    have hleaves : ∀ leaf ∈ Element.valuesAll (Dumpable.ofElements items),
        DeterminesDump sc format leaf :=
      fun leaf hmem => determinesDump_ofElements items leaf hmem format
    obtain ⟨r, hr⟩ := exists_gives_dumpArrayWith hleaves
    refine ⟨r, fun w source d hd => ?_⟩
    cases hd with
    | array id format helements => exact hr w _ helements

end World

/-! ## Loading depends on what the context sees

Loading fills caches like dumping does, and what it gives is determined in the same way:
`PgAdapt.World.determinesLoad`. Here there is no value to follow. What decreases is what the
loader itself counts, the length of the bytes and then the number of loaders that may still hand
on all of them, and the induction is on these two.

The loader for the elements of a binary array is only found on the way, and it is not the same in
every session. So a search is compared with what it would give without one
(`PgAdapt.World.Finds`): the same error, or a loader that does the same.
-/

namespace Loader

/-- What a loader of arrays does with an element: it hands on what is shorter than what it was
given, and all that it was given only so often. -/
def loadPart (chain : Nat) (data : Bytes) (inner : Loader) (part : Bytes) : Action Value :=
  if part.length < data.length then inner.loadWithin chainLimit part
  else if part.length = data.length ∧ 0 < chain then inner.loadWithin (chain - 1) part
  else throw circle

theorem loadWithin_eq (chain : Nat) (loader : Loader) (data : Bytes) :
    loader.loadWithin chain data =
      match loader.body with
      | .scalar codec => Action.ofExcept (codec.load data)
      | .arrayText element elements => do
        let inner ← Transformer.loaderFor elements element .text
        return .array (← loadText (loadPart chain data inner) data)
      | .arrayBinary elements => do
        let loaderFor (oid : Oid) : Action (Bytes → Action Value) := do
          return loadPart chain data (← Transformer.loaderFor elements oid .binary)
        return .array (← loadBinary loaderFor data) := by
  rw [loadWithin]
  rfl

end Loader

namespace World

variable {sc : Scope} {β : Type}

/-! ### Arrays over anything that can be loaded -/

/-- The loader that a search **finds** does, in all later worlds, what a function does; or the
search fails. -/
def Finds (w : World sc) (a : Action (Bytes → Action β)) :
    Except AdaptError (Bytes → Except AdaptError β) → Prop
  | .error e => w.Gives a (throw e)
  | .ok g => w.Makes a fun w' load => ∀ part w'', w' ≤ w'' → w''.Gives (load part) (g part)

section Array

variable {w : World sc}

theorem Finds.bind {α : Type} {a : Action (Bytes → Action β)}
    {r : Except AdaptError (Bytes → Except AdaptError β)} {f : (Bytes → Action β) → Action α}
    {q : (Bytes → Except AdaptError β) → Except AdaptError α} (ha : w.Finds a r)
    (hf : ∀ load g w', w ≤ w' → (∀ part w'', w' ≤ w'' → w''.Gives (load part) (g part)) →
      w'.Gives (f load) (q g)) : w.Gives (a >>= f) (r >>= q) := by
  cases r with
  | error e => exact Gives.bind_error ha f
  | ok g => exact Makes.gives_bind ha fun w' load hw' hload => hf load g w' hw' hload

variable {f : Bytes → Action β} {g : Bytes → Except AdaptError β}

theorem Gives.loadText (h : ∀ part w', w ≤ w' → w'.Gives (f part) (g part)) (data : Bytes) :
    w.Gives (loadText f data) (loadText g data) := by
  rw [PgAdapt.loadText, PgAdapt.loadText]
  cases ArrayText.scan data with
  | ok items => exact .traverseAll items w fun part _ => h part
  | error refusal =>
    -- The tokens before the fault are loaded all the same, and may fail first.
    refine .bind (.forM refusal.tokens w fun part _ w' hw' => ?_) fun _ _ w' _ => .throw w' _
    exact .bind (h part w' hw') fun _ _ w'' _ => .pure w'' _

theorem Gives.loadLeaf (h : ∀ part w', w ≤ w' → w'.Gives (f part) (g part)) (leaf : Option Bytes) :
    w.Gives (loadLeaf f leaf) (loadLeaf g leaf) := by
  rcases leaf with _ | bytes
  · exact .pure w none
  · exact .bind (h bytes w (le_refl w)) fun _ _ w' _ => .pure w' _

theorem Gives.loadBinary {loaderFor : Oid → Action (Bytes → Action β)}
    {find : Oid → Except AdaptError (Bytes → Except AdaptError β)}
    (h : ∀ oid w', w ≤ w' → w'.Finds (loaderFor oid) (find oid)) (data : Bytes) :
    w.Gives (loadBinary loaderFor data) (loadBinary find data) := by
  unfold PgAdapt.loadBinary
  refine .bind (.ofExcept w _) fun header _ w₁ hw₁ => ?_
  split_ifs
  · exact .pure w₁ _
  refine (h header.element w₁ hw₁).bind fun load g w₂ hw₂ hload => ?_
  generalize ArrayBinary.readItems _ header.body = read
  obtain ⟨items, fault?⟩ := read
  refine .bind (.mapM items w₂ fun leaf _ w' hw' => ?_) fun leaves _ w₃ _ => ?_
  · exact .loadLeaf (fun part w'' hw'' => hload part w'' (le_trans hw' hw'')) leaf
  rcases fault? with _ | fault
  · exact .pure w₃ _
  · exact .bind_error (.throw w₃ _) _

end Array

/-! ### Loaders -/

/-- What comes of loading bytes with a loader that a maker with a given recipe has made is
**determined** by what the context sees. -/
def DeterminesLoad (sc : Scope) (recipe : LoaderRecipe) (load : Loader → Action Value) : Prop :=
  ∃ r, ∀ (w : World sc) (oid : Oid) (l : Loader), BuiltLoader sc w.live oid recipe l →
    w.Gives (load l) r

/-- What a search in a trusted cache finds is determined by what the context sees, if what the
loaders do is. -/
theorem exists_finds {load : Loader → Bytes → Action Value}
    (h : ∀ recipe part, DeterminesLoad sc recipe (load · part)) (oid : Oid) (format : Format) :
    ∃ r, ∀ (w : World sc) (id : TransformerId), id ∈ w.live →
      w.Finds (do return load (← Transformer.loaderFor id oid format)) r := by
  cases hfactory : sc.registry.loader? oid format with
  | none =>
    refine ⟨.error (.loaderNotFound oid format), fun w id hid => ?_⟩
    exact (gives_loaderFor_of_none w hid hfactory).bind_error _
  | some factory =>
    choose g hg using h factory.recipe
    refine ⟨.ok g, fun w id hid => ?_⟩
    refine (makes_loaderFor w hid hfactory).bind fun w' l _ hl => .pure fun part w'' hw'' => ?_
    exact hg part w'' oid l (hl.mono hw'')

/-- **Loading bytes is determined by what the context sees.** -/
theorem determinesLoad (chain : Nat) (data : Bytes) (recipe : LoaderRecipe) :
    DeterminesLoad sc recipe (·.loadWithin chain data) := by
  -- What is handed on is shorter, or as long while fewer loaders may still hand it on.
  have hpart : ∀ recipe part, DeterminesLoad sc recipe (Loader.loadPart chain data · part) := by
    intro recipe part
    by_cases shorter : part.length < data.length
    · simp only [Loader.loadPart, if_pos shorter]
      exact determinesLoad Loader.chainLimit part recipe
    by_cases whole : part.length = data.length ∧ 0 < chain
    · simp only [Loader.loadPart, if_neg shorter, if_pos whole]
      exact determinesLoad (chain - 1) part recipe
    · simp only [Loader.loadPart, if_neg shorter, if_neg whole]
      exact ⟨throw Loader.circle, fun w _ _ _ => .throw w _⟩
  cases recipe with
  | scalar codec =>
    refine ⟨codec.load data, fun w oid l hl => ?_⟩
    cases hl with
    | scalar id codec =>
      simp only [Loader.loadWithin_eq]
      exact .action w _
  | arrayText element =>
    obtain ⟨find, hfind⟩ := exists_finds hpart element .text
    refine ⟨do return .array (← loadText (← find) data), fun w oid l hl => ?_⟩
    cases hl with
    | @arrayText id element elements helements =>
      simp only [Loader.loadWithin_eq]
      have h := (hfind w elements helements).bind fun load g w' _ hload =>
        Gives.bind (.loadText hload data) fun array _ w'' _ => .pure w'' (Value.array array)
      simpa only [bind_assoc, pure_bind] using h
  | arrayBinary =>
    choose find hfind using fun oid => exists_finds hpart oid .binary
    refine ⟨do return .array (← loadBinary find data), fun w oid l hl => ?_⟩
    cases hl with
    | arrayBinary id helements =>
      simp only [Loader.loadWithin_eq]
      refine .bind (.loadBinary (fun oid w' hw' => ?_) data) fun _ _ w' _ => .pure w' _
      exact hfind oid w' _ (hw' helements)
termination_by (data.length, chain)
decreasing_by
  · exact Prod.Lex.left _ _ shorter
  · rw [whole.1]
    exact Prod.Lex.right _ (by omega)

/-- What a loader of arrays does with an element is determined by what the context sees. -/
theorem determinesLoad_loadPart (chain : Nat) (data : Bytes) (recipe : LoaderRecipe)
    (part : Bytes) : DeterminesLoad sc recipe (Loader.loadPart chain data · part) := by
  unfold Loader.loadPart
  split_ifs
  · exact determinesLoad Loader.chainLimit part recipe
  · exact determinesLoad (chain - 1) part recipe
  · exact ⟨throw Loader.circle, fun w _ _ _ => .throw w _⟩

end World

end PgAdapt
