import PgAdapt.Proofs.ArrayText.Levels
import PgAdapt.Proofs.RoundTrip.Text
import PgAdapt.Scalar.Text

/-!
# What a comma in an array text is for

A comma in front of the first element of an array is refused, and so is a second comma in a row.
A comma behind the last element is not: wherever an array is closed behind an element, a comma may
stand before the brace, and it makes no difference
(`PgAdapt.ArrayText.scan_comma_closing_eq_ok_iff`). So commas separate elements in some arrays and
end them in others, and which of the two it is can be told from what comes last at the level.

All of this is about tokens. A loader of arrays hands each of them on, and each is shorter than the
text, so what is loaded depends on the tokens alone, and has an array wherever the text has one:
`PgAdapt.load_arrayText_levels`.
-/

namespace PgAdapt

namespace ArrayText

/-! ### A comma before a brace -/

namespace Machine

theorem mode_leave_ne_item (m : Machine) : m.leave.mode ≠ .item := by
  rw [leave]
  rcases m.around with _ | _ <;> exact Mode.noConfusion

section Step

variable {m m' : Machine} {byte : UInt8}

theorem mode_eq_item_iff_of_begin (h : m.begin byte = .ok m') :
    m'.mode = .item ↔ byte = opening ∨ byte = comma := by
  rw [begin] at h
  split_ifs at h with hopening hclosing hquote hspecial
  · cases h
    exact iff_of_true rfl (.inl hopening)
  · cases h
    refine iff_of_false m.mode_leave_ne_item ?_
    rw [hclosing]
    decide
  · cases h
    refine iff_of_false Mode.noConfusion ?_
    rw [hquote]
    decide
  · cases h
  · cases h
    refine iff_of_false Mode.noConfusion ?_
    rintro (rfl | rfl) <;> exact hspecial (by decide)

theorem mode_eq_item_iff_of_separate (h : m.separate byte = .ok m') :
    m'.mode = .item ↔ byte = opening ∨ byte = comma := by
  rw [separate] at h
  split_ifs at h with hcomma hclosing
  · cases h
    exact iff_of_true rfl (.inr hcomma)
  · cases h
    refine iff_of_false m.mode_leave_ne_item ?_
    rw [hclosing]
    decide
  · cases h

/-- Outside of quotes a comma and an opening brace make room for an element, and nothing else
does. -/
theorem mode_eq_item_iff_of_step (h : m.step byte = .ok m') :
    m'.mode = .item ↔ m.mode.side = .outside ∧ (byte = opening ∨ byte = comma) := by
  obtain ⟨tokens, around, items, _ | token | token | token | _ | _⟩ := m
  · exact (mode_eq_item_iff_of_begin h).trans (and_iff_right rfl).symm
  · simp only [step] at h
    split_ifs at h with hspecial
    · exact (mode_eq_item_iff_of_separate h).trans (and_iff_right rfl).symm
    · cases h
      refine iff_of_false Mode.noConfusion ?_
      rintro ⟨-, rfl | rfl⟩ <;> exact hspecial (by decide)
  · refine iff_of_false ?_ fun h => Side.noConfusion h.1
    simp only [step] at h
    split_ifs at h <;> cases h <;> exact Mode.noConfusion
  · cases h
    exact iff_of_false Mode.noConfusion fun h => Side.noConfusion h.1
  · exact (mode_eq_item_iff_of_separate h).trans (and_iff_right rfl).symm
  · cases h

end Step

/-- No comma may stand where an element has to start. -/
theorem run_comma_of_item {m : Machine} (hmode : m.mode = .item) (after : Bytes)
    (items : List (Element Bytes)) : m.run (comma :: after) ≠ .ok items := by
  have hstep : m.step comma = m.refuse (.unexpected comma) := by
    rw [step, hmode]
    rfl
  rw [run, hstep]
  exact fun h => by cases h

/-- Behind an element a comma before a brace makes no difference. -/
theorem run_comma_closing {m : Machine} (hside : m.mode.side = .outside) (hmode : m.mode ≠ .item)
    (after : Bytes) : m.run (comma :: closing :: after) = m.run (closing :: after) := by
  obtain ⟨tokens, around, items, _ | token | token | token | _ | _⟩ := m
  · exact absurd rfl hmode
  · -- The first byte ends the token, and then it is as if the element had been there before.
    obtain ⟨tokens', leaf, -, hadd⟩ :=
      exists_addBare_eq ⟨tokens, around, items, .bare token⟩ token.reverse
    have hcomma : Machine.step ⟨tokens, around, items, .bare token⟩ comma =
        .ok ⟨tokens', around, leaf :: items, .item⟩ := by
      simp only [step, hadd]
      rfl
    have hclosing : Machine.step ⟨tokens, around, items, .bare token⟩ closing =
        .ok (Machine.leave ⟨tokens', around, leaf :: items, .after⟩) := by
      simp only [step, hadd]
      rfl
    rw [run, run, hcomma, hclosing]
    rfl
  · cases hside
  · cases hside
  · rfl
  · rfl

end Machine

theorem Count.side_step (c : Count) (byte : UInt8) : (c.step byte).side = c.side.next byte := by
  obtain ⟨side, opened, ended⟩ := c
  rw [step]
  rcases side with _ | _ | _ <;> rcases opened with _ | ⟨l, outer⟩ <;> dsimp only <;>
    split_ifs <;> rfl

theorem sideAfter_eq (text : Bytes) : sideAfter text = (text.foldl Count.step {}).side := by
  show text.foldl Side.next (Count.side {}) = _
  exact List.foldl_hom Count.side fun c byte => (Count.side_step c byte).symm

theorem Agrees.side_eq {c : Count} {m : Machine} (h : Agrees c m) : c.side = m.mode.side := by
  rcases h with _ | _ <;> rfl

/-- Where a byte that makes no room for an element stands outside of quotes, a comma before a brace
makes no difference to the machine. -/
theorem run_append_comma_closing {before : Bytes} {byte : UInt8} (after : Bytes)
    (hside : sideAfter (opening :: before ++ [byte]) = .outside) (hopening : byte ≠ opening)
    (hcomma : byte ≠ comma) :
    Machine.run {} (before ++ byte :: comma :: closing :: after) =
      Machine.run {} (before ++ byte :: closing :: after) := by
  rw [Machine.run_append, Machine.run_append]
  rcases hread : before.foldlM Machine.step {} with refusal | m
  · rfl
  show m.run (byte :: comma :: closing :: after) = m.run (byte :: closing :: after)
  rw [Machine.run, Machine.run]
  rcases hstep : m.step byte with refusal | m'
  · rfl
  have hagrees : Agrees ((before.foldl Count.step (Count.step {} opening)).step byte) m' :=
    agrees_step (agrees_read before agrees_start hread) hstep
  have hmode : m'.mode ≠ .item := fun h =>
    ((Machine.mode_eq_item_iff_of_step hstep).mp h).2.elim hopening hcomma
  refine Machine.run_comma_closing ?_ hmode after
  rw [sideAfter_eq, List.foldl_append] at hside
  exact hagrees.side_eq.symm.trans hside

/-- **A comma before a brace makes no difference** behind an element: the text is taken apart into
the same array as without it. -/
theorem scan_comma_closing_eq_ok_iff {before : Bytes} {byte : UInt8} (after : Bytes)
    (hside : sideAfter (before ++ [byte]) = .outside) (hopening : byte ≠ opening)
    (hcomma : byte ≠ comma) {items : List (Element Bytes)} :
    scan (before ++ byte :: comma :: closing :: after) = .ok items ↔
      scan (before ++ byte :: closing :: after) = .ok items := by
  rw [scan_eq_ok_iff_run, scan_eq_ok_iff_run]
  rcases before with _ | ⟨first, before⟩
  · -- The byte is the first one, and it is no brace.
    constructor <;> rintro ⟨rest, htext, -⟩ <;> exact absurd (List.cons.inj htext).1 hopening
  · constructor
    · rintro ⟨rest, htext, hrun⟩
      obtain ⟨rfl, rfl⟩ := List.cons.inj htext
      exact ⟨_, rfl, (run_append_comma_closing after hside hopening hcomma).symm.trans hrun⟩
    · rintro ⟨rest, htext, hrun⟩
      obtain ⟨rfl, rfl⟩ := List.cons.inj htext
      exact ⟨_, rfl, (run_append_comma_closing after hside hopening hcomma).trans hrun⟩

/-- **No comma follows an opening brace or a comma**, wherever they stand outside of quotes. -/
theorem scan_comma_ne_ok {before : Bytes} {byte : UInt8} (after : Bytes)
    (hside : sideAfter before = .outside) (hbyte : byte = opening ∨ byte = comma)
    (items : List (Element Bytes)) : scan (before ++ byte :: comma :: after) ≠ .ok items := by
  intro h
  obtain ⟨rest, htext, hrun⟩ := scan_eq_ok_iff_run.mp h
  rcases before with _ | ⟨first, before⟩
  · obtain ⟨rfl, rfl⟩ := List.cons.inj htext
    exact Machine.run_comma_of_item rfl after items hrun
  · obtain ⟨rfl, rfl⟩ := List.cons.inj htext
    replace hrun : Machine.run {} (before ++ byte :: comma :: after) = .ok items := hrun
    rw [Machine.run_append] at hrun
    obtain ⟨m, hread, hrun⟩ := bind_eq_ok_iff.mp hrun
    have hagrees := agrees_read before agrees_start hread
    rw [sideAfter_eq] at hside
    have hmode (m' : Machine) (hstep : m.step byte = .ok m') : m'.mode = .item :=
      (Machine.mode_eq_item_iff_of_step hstep).mpr ⟨hagrees.side_eq.symm.trans hside, hbyte⟩
    rw [Machine.run] at hrun
    rcases hstep : m.step byte with refusal | m' <;> rw [hstep] at hrun
    · cases hrun
    · exact Machine.run_comma_of_item (hmode m' hstep) after items hrun

/-! ### What comes last at a level -/

/-- **Commas separate** the elements of a level: there is one element more than there are commas,
unless the level is empty and has no comma. -/
def Level.Separates (l : Level) (n : Nat) : Prop := n = l.commas + 1 ∨ n = 0 ∧ l.commas = 0

/-- Commas separate the elements of a level unless a comma comes last. -/
theorem Level.Holds.separates_iff {l : Level} {n : Nat} (h : l.Holds n) :
    l.Separates n ↔ l.last ≠ .comma := by
  obtain ⟨commas, _ | _ | _⟩ := l
  · exact ⟨fun _ => Last.noConfusion, fun _ => .inr h.symm⟩
  · obtain ⟨hpos, rfl⟩ : 0 < n ∧ n = commas := h
    refine ⟨?_, fun h => absurd rfl h⟩
    rintro (h | h)
    · exact absurd h (Nat.ne_of_lt (Nat.lt_succ_self n))
    · exact absurd h.1 hpos.ne'
  · exact ⟨fun _ => Last.noConfusion, fun _ => .inl h⟩

end ArrayText

/-! ### Loading -/

section Lengths

open Element

variable {α β : Type} {f : α → Action β}

mutual

theorem lengths_eq_of_traverse : ∀ {item : Element α} {item' : Element β} {s : Session},
    (traverse f item).result s = .ok item' → item'.lengths = item.lengths
  | .null, _, _, h => by
    cases h
    rfl
  | .value a, _, _, h => by
    obtain ⟨b, -, hitem⟩ := Action.result_bind_eq_ok_iff.mp h
    cases hitem
    rfl
  | .array items, _, _, h => by
    obtain ⟨array, harray, hitem⟩ := Action.result_bind_eq_ok_iff.mp h
    cases hitem
    rw [lengths, lengths, (lengthsAll_eq_of_traverseAll harray).1,
      (lengthsAll_eq_of_traverseAll harray).2]

/-- The arrays in an array keep their lengths when its values are replaced. -/
theorem lengthsAll_eq_of_traverseAll : ∀ {items : List (Element α)} {array : List (Element β)}
    {s : Session}, (traverseAll f items).result s = .ok array →
      lengthsAll array = lengthsAll items ∧ array.length = items.length
  | [], _, _, h => by
    cases h
    exact ⟨rfl, rfl⟩
  | item :: items, _, _, h => by
    obtain ⟨item', hitem, h⟩ := Action.result_bind_eq_ok_iff.mp h
    obtain ⟨array, harray, h⟩ := Action.result_bind_eq_ok_iff.mp h
    cases h
    obtain ⟨hall, hlength⟩ := lengthsAll_eq_of_traverseAll harray
    rw [lengthsAll, lengthsAll, lengths_eq_of_traverse hitem, hall, List.length_cons, hlength]
    exact ⟨rfl, rfl⟩

end

end Lengths

section Load

variable {loader : Loader} {element : Oid} {elements : TransformerId}

/-- **What the loader of arrays in text loads.** The tokens are loaded one after the other by the
loader of the elements. Each of them is shorter than the text, so nothing else about the text
matters. -/
theorem Loader.result_load_arrayText_eq_ok_iff (hbody : loader.body = .arrayText element elements)
    {text : Bytes} {s : Session} {v : Value} : (loader.load text).result s = .ok v ↔
      ∃ inner items array,
        (Transformer.loaderFor elements element .text).result s = .ok inner ∧
        ArrayText.scan text = .ok items ∧
        (Element.traverseAll inner.load items).result
          ((Transformer.loaderFor elements element .text).after s) = .ok array ∧
        v = .array array := by
  have hshort {items : List (Element Bytes)} (hscan : ArrayText.scan text = .ok items)
      (inner : Loader) : Element.traverseAll (loadPart chainLimit text inner) items =
        Element.traverseAll inner.load items := by
    refine Element.traverseAll_congr items fun token htoken => ?_
    have hspells := ArrayText.scan_eq_ok_iff.mp hscan
    exact if_pos (ArrayText.length_lt_of_spellsArray hspells token htoken)
  rw [load, loadWithin_eq, hbody]
  constructor
  · intro h
    obtain ⟨inner, hinner, h⟩ := Action.result_bind_eq_ok_iff.mp h
    obtain ⟨array, harray, h⟩ := Action.result_bind_eq_ok_iff.mp h
    obtain ⟨items, hspells, hitems⟩ := result_loadText_eq_ok_iff.mp harray
    have hscan := ArrayText.scan_eq_ok_iff.mpr hspells
    rw [hshort hscan] at hitems
    exact ⟨inner, items, array, hinner, hscan, hitems, (Except.ok.inj h).symm⟩
  · rintro ⟨inner, items, array, hinner, hscan, hitems, rfl⟩
    rw [← hshort hscan] at hitems
    have harray := result_loadText_eq_ok_iff.mpr ⟨items, ArrayText.scan_eq_ok_iff.mp hscan, hitems⟩
    exact Action.result_bind_eq_ok_iff.mpr ⟨inner, hinner,
      Action.result_bind_eq_ok_iff.mpr ⟨array, harray, rfl⟩⟩

/-- **Commas and elements in the text of an array that is loaded.** At every level there is one
element more than there are commas, unless the level is empty, or a comma comes last; then there
are as many elements as commas, and the commas do not separate them. Apart from quotes, no text is
loaded in which a comma stands directly behind an opening brace or another comma. But wherever a
brace closes an array behind an element, a comma may stand before it, and what is loaded is the
same. -/
theorem load_arrayText_levels (hbody : loader.body = .arrayText element elements) (s : Session) :
    (∀ (text : Bytes) (v : Value), (loader.load text).result s = .ok v →
      ∃ array, v = .array array ∧
        List.Forall₂ (fun l n => l.Holds n ∧ (l.Separates n ↔ l.last ≠ .comma))
          (ArrayText.levels text) (Element.lengths (.array array))) ∧
    (∀ (before after : Bytes) (byte : UInt8) (v : Value),
      ArrayText.sideAfter before = .outside →
      byte = ArrayText.opening ∨ byte = ArrayText.comma →
        (loader.load (before ++ byte :: ArrayText.comma :: after)).result s ≠ .ok v) ∧
    ∀ (before after : Bytes) (byte : UInt8) (v : Value),
      ArrayText.sideAfter (before ++ [byte]) = .outside →
      byte ≠ ArrayText.opening → byte ≠ ArrayText.comma →
        ((loader.load (before ++ byte :: ArrayText.comma :: ArrayText.closing :: after)).result s =
            .ok v ↔
          (loader.load (before ++ byte :: ArrayText.closing :: after)).result s = .ok v) := by
  refine ⟨fun text v h => ?_, fun before after byte v hside hbyte h => ?_,
    fun before after byte v hside hopening hcomma => ?_⟩
  · obtain ⟨inner, items, array, -, hscan, hitems, rfl⟩ :=
      (Loader.result_load_arrayText_eq_ok_iff hbody).mp h
    obtain ⟨hall, hlength⟩ := lengthsAll_eq_of_traverseAll hitems
    have hlevels := ArrayText.levels_of_scan hscan
    rw [Element.lengths, ← hall, ← hlength] at hlevels
    exact ⟨array, rfl, hlevels.imp fun _ _ hl => ⟨hl, hl.separates_iff⟩⟩
  · obtain ⟨inner, items, array, -, hscan, -⟩ :=
      (Loader.result_load_arrayText_eq_ok_iff hbody).mp h
    exact ArrayText.scan_comma_ne_ok after hside hbyte items hscan
  · rw [Loader.result_load_arrayText_eq_ok_iff hbody, Loader.result_load_arrayText_eq_ok_iff hbody]
    simp only [ArrayText.scan_comma_closing_eq_ok_iff after hside hopening hcomma]

end Load

section Words

/-- A session in which nothing but texts can be loaded. -/
def wordSession : Session where
  registries _ := Registry.empty.addLoader .text .text
    ⟨0, "", .scalar (Text.loader .reference .text)⟩

/-- A loader of arrays of texts. -/
def wordsLoader : Loader where
  id := 1
  oid := .textArray
  format := .text
  connection := none
  body := .arrayText .text ⟨0⟩

/-- The array of one letter, and a comma behind it. -/
def commaText : Bytes := [ArrayText.opening, 0x61, ArrayText.comma, ArrayText.closing]

theorem load_commaText :
    (wordsLoader.load commaText).result wordSession = .ok (.array [.value (.text "a")]) := by
  refine (Loader.result_load_arrayText_eq_ok_iff rfl).mpr
    ⟨_, [.value [0x61]], [.value (.text "a")], rfl, rfl, ?_, rfl⟩
  have hletter (s : Session) (l : Loader)
      (hbody : l.body = .scalar (Text.loader .reference .text)) :
      (l.load [0x61]).result s = .ok (.text "a") := by
    rw [Loader.load, Loader.loadWithin_eq, hbody]
    rfl
  exact Action.result_bind_eq_ok_iff.mpr ⟨.value (.text "a"),
    Action.result_bind_eq_ok_iff.mpr ⟨.text "a", hletter _ _ rfl, rfl⟩, rfl⟩

/-- Behind its only element the array has a comma that separates nothing, and is the same without
it; in front of the element a comma is refused. -/
theorem load_arrayText_levels_letter :
    (∃ array, Value.array [.value (.text "a")] = .array array ∧
      List.Forall₂ (fun l n => l.Holds n ∧ (l.Separates n ↔ l.last ≠ .comma))
        (ArrayText.levels commaText) (Element.lengths (.array array))) ∧
    (wordsLoader.load
        [ArrayText.opening, ArrayText.comma, 0x61, ArrayText.closing]).result wordSession ≠
      .ok (.array [.value (.text "a")]) ∧
    (wordsLoader.load [ArrayText.opening, 0x61, ArrayText.closing]).result wordSession =
      .ok (.array [.value (.text "a")]) :=
  ⟨(load_arrayText_levels rfl wordSession).1 commaText _ load_commaText,
    (load_arrayText_levels rfl wordSession).2.1 [] [0x61, ArrayText.closing] ArrayText.opening _ rfl
      (.inl rfl),
    ((load_arrayText_levels rfl wordSession).2.2 [ArrayText.opening] [] 0x61 _ rfl (by decide)
      (by decide)).mp load_commaText⟩

/-- **Not at every level of a text that is loaded do the commas separate the elements.** -/
theorem exists_load_arrayText_not_separates :
    ∃ array, (wordsLoader.load commaText).result wordSession = .ok (.array array) ∧
      ¬List.Forall₂ (fun l n => l.Separates n) (ArrayText.levels commaText)
        (Element.lengths (.array array)) := by
  refine ⟨_, load_commaText, fun h => ?_⟩
  -- There is one level, with one comma and one element.
  rcases h with _ | ⟨hone | hnone, -⟩
  · exact absurd hone (by decide)
  · exact absurd hnone.1 (by decide)

end Words

end PgAdapt
