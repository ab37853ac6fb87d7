import Mathlib.Tactic.SplitIfs
import PgAdapt.Load
import PgAdapt.Proofs.Action
import PgAdapt.Proofs.ArrayText.Grammar
import PgAdapt.Proofs.Element

/-!
# Array texts that are taken

The scanner takes the texts of the grammar and no others (`PgAdapt.ArrayText.scan_eq_ok_iff`). So does
the loader of arrays, as far as the loader of the elements takes the tokens
(`PgAdapt.loadText_eq_ok_iff_spellsArray`).
-/

namespace PgAdapt

/-! ## What the scanner accepts

Whatever the machine has read so far is the beginning of the text of an array, with one level of
`PgAdapt.ArrayText.Opened` for each array on its stack. `PgAdapt.ArrayText.reads_step` says that a
byte keeps this, and the run is then an induction on the bytes
(`PgAdapt.ArrayText.spellsArray_of_run`). Together with the runs that derivations give, the
scanner accepts exactly the texts of the grammar: `PgAdapt.ArrayText.scan_eq_ok_iff`.
-/

namespace ArrayText

/-! ### From a run to a derivation -/

/-- **The arrays that are still open**, from the text that has been read: at every level some
elements, each with a comma behind it. The elements so far are those of the machine, so the last
one comes first. -/
inductive Opened : Bytes → List (List (Element Bytes)) → List (Element Bytes) → Prop where
  /-- The outermost array has just been opened. -/
  | start : Opened [opening] [] []
  /-- An array has been opened within the others. -/
  | enter {text : Bytes} {around : List (List (Element Bytes))} {items : List (Element Bytes)}
      (h : Opened text around items) : Opened (text ++ [opening]) (items :: around) []
  /-- There was an element, and a comma. -/
  | next {text written : Bytes} {around : List (List (Element Bytes))} {item : Element Bytes}
      {items : List (Element Bytes)} (h : Opened text around items)
      (hitem : SpellsElement written item) :
      Opened (text ++ written ++ [comma]) around (item :: items)

/-- What stands before an open array: nothing, or an array around it that is open as well. -/
def Encloses (before : Bytes) : List (List (Element Bytes)) → Prop
  | [] => before = []
  | outer :: around => Opened before around outer

/-- **The innermost open array can be told from those around it**: some text stands before its
brace, and what stands behind the brace can be completed by further elements, or is itself
complete but for a comma. -/
theorem Opened.innermost {text : Bytes} {around : List (List (Element Bytes))}
    {items : List (Element Bytes)} (h : Opened text around items) :
    ∃ before inside, text = before ++ opening :: inside ∧ Encloses before around ∧
      (∀ texts more, SpellsElements texts more →
        SpellsElements (inside ++ texts) (items.reverse ++ more)) ∧
      (inside = [] ∧ items = [] ∨
        ∃ texts, inside = texts ++ [comma] ∧ SpellsElements texts items.reverse) := by
  induction h with
  | start => exact ⟨[], [], rfl, rfl, fun _ _ h => h, .inl ⟨rfl, rfl⟩⟩
  | @enter text around items h _ => exact ⟨text, [], rfl, h, fun _ _ h => h, .inl ⟨rfl, rfl⟩⟩
  | @next text written around item items _ hitem ih =>
    -- The element goes in front of whatever completes the text, so `hmore` is used once with more
    -- to come and once without.
    obtain ⟨before, inside, rfl, hbefore, hmore, -⟩ := ih
    refine ⟨before, inside ++ written ++ [comma], by simp, hbefore, fun texts more hrest => ?_,
      .inr ⟨inside ++ written, rfl, ?_⟩⟩
    · simpa using hmore _ _ (.more hitem hrest)
    · simpa using hmore _ _ (.last hitem)

/-- **What the machine has read** when it is in a given state, counted from the first brace. -/
def Reads (text : Bytes) (m : Machine) : Prop :=
  match m.mode with
  | .item => Opened text m.around m.items
  | .bare token => ∃ before, Opened before m.around m.items ∧ text = before ++ token.reverse ∧
      token ≠ [] ∧ ∀ byte ∈ token, isSpecial byte = false
  | .quoted token => ∃ before inner, Opened before m.around m.items ∧
      text = before ++ quote :: inner ∧ SpellsToken inner token.reverse
  | .escaped token => ∃ before inner, Opened before m.around m.items ∧
      text = before ++ quote :: inner ++ [backslash] ∧ SpellsToken inner token.reverse
  | .after => ∃ before written item items, m.items = item :: items ∧
      Opened before m.around items ∧ SpellsElement written item ∧ text = before ++ written
  | .closed => SpellsArray text m.items.reverse

/-- The machine has read an element when it has added one. -/
theorem reads_addAll {before written : Bytes} {m : Machine} {item : Element Bytes}
    (h : Opened before m.around m.items) (hitem : SpellsElement written item) :
    Reads (before ++ written) (m.addAll [item]) :=
  ⟨before, written, item, m.items, rfl, h, hitem, rfl⟩

/-- The machine has read an element when it leaves an array. -/
theorem reads_leave {before written : Bytes} {m : Machine} (hbefore : Encloses before m.around)
    (h : SpellsArray written m.items.reverse) : Reads (before ++ written) m.leave := by
  rcases m with ⟨tokens, _ | ⟨outer, around⟩, items, mode⟩
  · obtain rfl : before = [] := hbefore
    exact h
  · exact ⟨before, written, .array items.reverse, outer, rfl, hbefore, .array h, rfl⟩

/-- What the machine has read stays the beginning of an array at a place where an element may
start. -/
theorem reads_begin {text : Bytes} {m m' : Machine} {byte : UInt8}
    (h : Opened text m.around m.items) (hstep : m.begin byte = .ok m') :
    Reads (text ++ [byte]) m' := by
  rw [Machine.begin] at hstep
  split_ifs at hstep with hopening hclosing hquote hspecial
  · cases hstep
    rw [hopening]
    exact h.enter
  · cases hstep
    obtain ⟨before, inside, rfl, hbefore, -, hinside⟩ := h.innermost
    rw [hclosing, List.append_assoc]
    refine reads_leave hbefore ?_
    -- The brace stands behind the opening one, or behind a comma.
    rcases hinside with ⟨rfl, hitems⟩ | ⟨texts, rfl, htexts⟩
    · rw [hitems]
      exact .empty
    · simpa using SpellsArray.trailing htexts
  · cases hstep
    rw [hquote]
    exact ⟨text, [], h, rfl, .nil⟩
  · cases hstep
  · cases hstep
    exact ⟨text, h, rfl, by simp, by simpa using hspecial⟩

/-- What the machine has read stays the beginning of an array behind an element. -/
theorem reads_separate {before written : Bytes} {m m' : Machine} {item : Element Bytes}
    {items : List (Element Bytes)} {byte : UInt8} (hitems : m.items = item :: items)
    (h : Opened before m.around items) (hitem : SpellsElement written item)
    (hstep : m.separate byte = .ok m') : Reads (before ++ written ++ [byte]) m' := by
  rw [Machine.separate] at hstep
  split_ifs at hstep with hcomma hclosing
  · cases hstep
    rw [hcomma]
    exact show Opened _ m.around m.items from hitems ▸ h.next hitem
  · cases hstep
    obtain ⟨outside, inside, rfl, houtside, hmore, -⟩ := h.innermost
    have harray : SpellsArray (opening :: (inside ++ written) ++ [closing]) m.items.reverse := by
      rw [hitems, List.reverse_cons]
      exact .elements (hmore _ _ (.last hitem))
    rw [hclosing]
    simpa using reads_leave houtside harray
  · cases hstep

/-- A bare word or token is an element. -/
theorem spellsElement_addBare (m : Machine) {token : Bytes}
    (hne : token ≠ []) (hplain : ∀ byte ∈ token, isSpecial byte = false) :
    ∃ item, m.addBare token = m.addAll [item] ∧ SpellsElement token item := by
  by_cases hword : token = nullWord
  · subst hword
    exact ⟨.null, if_pos rfl, .null⟩
  · exact ⟨.value token, if_neg hword, .bare hne hplain hword⟩

/-- **A byte keeps what the machine has read the beginning of an array.** -/
theorem reads_step {text : Bytes} {m m' : Machine} {byte : UInt8} (h : Reads text m)
    (hstep : m.step byte = .ok m') : Reads (text ++ [byte]) m' := by
  rcases m with ⟨tokens, around, items, mode⟩
  cases mode with
  | item => exact reads_begin h hstep
  | bare token =>
    obtain ⟨before, hbefore, rfl, hne, hplain⟩ := h
    simp only [Machine.step] at hstep
    split_ifs at hstep with hspecial
    · -- The byte ends the token, and it is also what separates the element from the next one.
      obtain ⟨item, hadd, hitem⟩ := spellsElement_addBare ⟨tokens, around, items, .bare token⟩
        (by simpa using hne : token.reverse ≠ []) (by simpa using hplain)
      rw [hadd] at hstep
      exact reads_separate (m := Machine.addAll ⟨tokens, around, items, .bare token⟩ [item]) rfl
        hbefore hitem hstep
    · cases hstep
      refine ⟨before, hbefore, by simp, by simp, List.forall_mem_cons.mpr ⟨?_, hplain⟩⟩
      simpa using hspecial
  | quoted token =>
    obtain ⟨before, inner, hbefore, rfl, hinner⟩ := h
    simp only [Machine.step] at hstep
    split_ifs at hstep with hquote hbackslash
    · cases hstep
      rw [hquote, List.append_assoc]
      exact reads_addAll (m := ⟨tokens, around, items, .quoted token⟩) hbefore (.quoted hinner)
    · cases hstep
      exact ⟨before, inner, hbefore, by rw [hbackslash], hinner⟩
    · cases hstep
      refine ⟨before, inner ++ [byte], hbefore, by simp, ?_⟩
      simpa using hinner.append (.plain hquote hbackslash .nil)
  | escaped token =>
    obtain ⟨before, inner, hbefore, rfl, hinner⟩ := h
    cases hstep
    refine ⟨before, inner ++ [backslash, byte], hbefore, by simp, ?_⟩
    simpa using hinner.append (.escape byte .nil)
  | after =>
    obtain ⟨before, written, item, items, hitems, hbefore, hitem, rfl⟩ := h
    exact reads_separate hitems hbefore hitem hstep
  | closed => cases hstep

/-- **What a run accepts is the rest of an array.** -/
theorem spellsArray_of_run (rest : Bytes) : ∀ {text : Bytes} {m : Machine}
    {items : List (Element Bytes)}, Reads text m → m.run rest = .ok items →
      SpellsArray (text ++ rest) items := by
  induction rest with
  | nil =>
    intro text m items h hrun
    -- At the end of the text the machine accepts only if the outermost array has been closed.
    rcases m with ⟨tokens, around, done, _ | _ | _ | _ | _ | _⟩ <;> try cases hrun
    rw [List.append_nil]
    exact h
  | cons byte rest ih =>
    intro text m items h hrun
    rw [Machine.run] at hrun
    cases hstep : m.step byte with
    | error refusal =>
      rw [hstep] at hrun
      cases hrun
    | ok m' =>
      rw [hstep] at hrun
      simpa using ih (reads_step h hstep) hrun

/-! ### The scanner -/

/-- A machine that runs over a text reads the text first. -/
theorem Machine.run_append (text rest : Bytes) : ∀ m : Machine,
    m.run (text ++ rest) = text.foldlM Machine.step m >>= fun m' => m'.run rest := by
  induction text with
  | nil =>
    intro m
    rfl
  | cons byte text ih =>
    intro m
    rw [List.cons_append, run, List.foldlM_cons, bind_assoc]
    rcases m.step byte with refusal | m'
    · rfl
    · exact ih m'

/-- What the scanner takes apart starts with a brace, and the machine reads the rest. -/
theorem scan_eq_ok_iff_run {text : Bytes} {items : List (Element Bytes)} :
    scan text = .ok items ↔ ∃ rest, text = opening :: rest ∧ Machine.run {} rest = .ok items := by
  constructor
  · intro h
    rcases text with _ | ⟨byte, rest⟩
    · cases h
    · rw [scan] at h
      split_ifs at h with hopening
      exact ⟨rest, by rw [hopening], h⟩
  · rintro ⟨rest, rfl, h⟩
    rw [scan, if_pos rfl]
    exact h

/-- **The scanner takes apart exactly the texts of arrays**, each into the array that it spells. -/
theorem scan_eq_ok_iff {text : Bytes} {items : List (Element Bytes)} :
    scan text = .ok items ↔ SpellsArray text items := by
  refine ⟨fun h => ?_, scan_of_spellsArray⟩
  obtain ⟨rest, rfl, hrun⟩ := scan_eq_ok_iff_run.mp h
  exact spellsArray_of_run rest (m := {}) Opened.start hrun

end ArrayText

/-! ## What array texts mean

An array text is loaded exactly if it belongs to the grammar of `PgAdapt.ArrayText.SpellsArray`
and the loader of the elements takes every token in it; what comes out is the array that the text
spells, with the tokens replaced by their values. So the language of array texts and its meaning
are those of the grammar, whatever the loader of the elements is:
`PgAdapt.loadText_eq_ok_iff_spellsArray`.
-/

variable {β : Type}

/-- An operation that fails in the end gives nothing, whatever it does before. -/
theorem Action.result_bind_throw_ne_ok {α : Type} (a : Action α) (e : AdaptError) (s : Session)
    (x : β) : (a >>= fun _ => (throw e : Action β)).result s ≠ .ok x := by
  rw [Action.result_bind]
  cases a.result s with
  | ok y => intro h; cases h
  | error e => intro h; cases h

/-- A computation that fails in the end gives nothing, whatever it does before. -/
theorem bind_throw_ne_ok {α ε : Type} (a : Except ε α) (e : ε) (x : β) :
    (a >>= fun _ => (throw e : Except ε β)) ≠ .ok x := by
  cases a with
  | ok y => intro h; cases h
  | error e => intro h; cases h

/-- An array text is loaded by operations exactly if it spells an array whose tokens are, one
after the other. -/
theorem result_loadText_eq_ok_iff {load : Bytes → Action β} {text : Bytes} {s : Session}
    {array : List (Element β)} : (loadText load text).result s = .ok array ↔
      ∃ items, ArrayText.SpellsArray text items ∧
        (Element.traverseAll load items).result s = .ok array := by
  simp only [← ArrayText.scan_eq_ok_iff]
  rw [loadText]
  cases ArrayText.scan text with
  | ok items => simp
  | error refusal =>
    constructor
    · intro h
      exact absurd h (Action.result_bind_throw_ne_ok _ _ s array)
    · rintro ⟨items, hscan, -⟩
      cases hscan

/-- An array text is loaded by a function exactly if it spells an array whose tokens all are. -/
theorem loadText_eq_ok_iff [Inhabited β] {load : Bytes → Except AdaptError β} {text : Bytes}
    {array : List (Element β)} : loadText load text = .ok array ↔
      ∃ items value, ArrayText.SpellsArray text items ∧
        (∀ token ∈ Element.valuesAll items, load token = .ok (value token)) ∧
        array = Element.mapAll value items := by
  simp only [← ArrayText.scan_eq_ok_iff]
  rw [loadText]
  cases ArrayText.scan text with
  | ok items => simp [Element.traverseAll_eq_ok_iff]
  | error refusal =>
    constructor
    · intro h
      exact absurd h (bind_throw_ne_ok _ _ array)
    · rintro ⟨items, value, hscan, -⟩
      cases hscan

/-- **The language and the meaning of array texts.** A text is loaded exactly if it spells an
array whose tokens are all taken by the loader of the elements, and then what is loaded is this
array with each token replaced by its value. This holds if the loader is a function, and also if
it is an operation that leaves traces in the session, where the tokens are taken from left to
right. -/
theorem loadText_eq_ok_iff_spellsArray [Inhabited β] (text : Bytes) (array : List (Element β)) :
    (∀ load : Bytes → Except AdaptError β, loadText load text = .ok array ↔
      ∃ items value, ArrayText.SpellsArray text items ∧
        (∀ token ∈ Element.valuesAll items, load token = .ok (value token)) ∧
        array = Element.mapAll value items) ∧
    (∀ (load : Bytes → Action β) (s : Session), (loadText load text).result s = .ok array ↔
      ∃ items, ArrayText.SpellsArray text items ∧
        (Element.traverseAll load items).result s = .ok array) :=
  ⟨fun _ => loadText_eq_ok_iff, fun _ _ => result_loadText_eq_ok_iff⟩

end PgAdapt
