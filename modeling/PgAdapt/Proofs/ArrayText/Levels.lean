import Mathlib.Data.List.Forall2
import Mathlib.Tactic.SplitIfs
import PgAdapt.Proofs.ArrayText.Scan

/-!
# Commas and elements

How many commas stand directly at each level of an array text can be told without reading the
array: it is enough to know which bytes stand between quotes, `PgAdapt.ArrayText.Side`, and to
keep a count for each open level, `PgAdapt.ArrayText.Count`. The levels come out in the order in
which they end, `PgAdapt.ArrayText.levels`, and so do the lengths of the arrays within an array,
`PgAdapt.Element.lengths`.

The machine of the scanner and the count go through a text side by side. While a level is open
there are as many elements as commas or one more, by what the machine is waiting for
(`PgAdapt.ArrayText.Level.At`), and `PgAdapt.ArrayText.agrees_step` says that one byte keeps
this. So at every level of a text that is taken apart the commas go with the elements
(`PgAdapt.ArrayText.levels_of_scan`): there is one element more than there are commas, unless the
last comma has no element behind it.
-/

namespace PgAdapt

namespace ArrayText

/-! ### Counting commas -/

/-- Where a byte stands: **outside of quotes**, inside, or inside and behind a backslash. -/
inductive Side where
  /-- Not between quotes. -/
  | outside
  /-- Between quotes. -/
  | inside
  /-- Between quotes, behind a backslash. -/
  | escaped
  deriving DecidableEq

/-- Where the next byte stands. -/
def Side.next : Side → UInt8 → Side
  | .outside, byte => if byte = quote then .inside else .outside
  | .inside, byte =>
    if byte = quote then .outside else if byte = backslash then .escaped else .inside
  | .escaped, _ => .inside

/-- Where the byte behind a text stands. -/
def sideAfter (text : Bytes) : Side := text.foldl Side.next .outside

/-- What came last at a level. -/
inductive Last where
  /-- The brace that opened it. -/
  | brace
  /-- A comma. -/
  | comma
  /-- Anything else. -/
  | element
  deriving DecidableEq

/-- What is seen of one **level**. -/
structure Level where
  /-- The commas directly at the level, outside of quotes. -/
  commas : Nat := 0
  /-- What came last. -/
  last : Last := .brace
  deriving DecidableEq

/-- The **count** between two bytes. -/
structure Count where
  /-- Where the next byte stands. -/
  side : Side := .outside
  /-- The levels that are open, the innermost first. -/
  opened : List Level := []
  /-- The levels that have ended, in this order. -/
  ended : List Level := []
  deriving DecidableEq

/-- What is seen of a level once something else than a comma has come. -/
def Level.withElement (l : Level) : Level := { l with last := .element }

/-- What is seen of a level once a comma has come. -/
def Level.withComma (l : Level) : Level := ⟨l.commas + 1, .comma⟩

/-- The count after one more byte. -/
def Count.step (c : Count) (byte : UInt8) : Count :=
  let side := c.side.next byte
  match c.side, c.opened with
  | .outside, [] => if byte = opening then { c with side, opened := [{}] } else { c with side }
  | .outside, l :: outer =>
    if byte = opening then { c with side, opened := {} :: l.withElement :: outer }
    else if byte = closing then { side, opened := outer, ended := c.ended ++ [l] }
    else if byte = comma then { c with side, opened := l.withComma :: outer }
    else { c with side, opened := l.withElement :: outer }
  | _, _ => { c with side }

/-- The **levels** of a text, in the order in which they end. -/
def levels (text : Bytes) : List Level := (text.foldl Count.step {}).ended

/-! ### Commas and elements -/

namespace Level

variable {l : Level} {n : Nat}

/-- **The commas of a level and the elements there** once the level has ended. There is one
element more than there are commas, or as many if a comma came last; and where nothing came, there
is nothing. -/
def Holds (l : Level) (n : Nat) : Prop :=
  match l.last with
  | .brace => l.commas = 0 ∧ n = 0
  | .comma => 0 < n ∧ n = l.commas
  | .element => n = l.commas + 1

/-- An element has begun, and `n` elements came before it. -/
def Begun (l : Level) (n : Nat) : Prop := l.last = .element ∧ n = l.commas

theorem Holds.begun (h : l.Holds n) (hlast : l.last ≠ .element) : l.withElement.Begun n := by
  obtain ⟨commas, _ | _ | _⟩ := l
  · exact ⟨rfl, h.2.trans h.1.symm⟩
  · exact ⟨rfl, h.2⟩
  · exact absurd rfl hlast

theorem Begun.withElement (h : l.Begun n) : l.withElement = l := by
  obtain ⟨commas, last⟩ := l
  obtain ⟨rfl, -⟩ := h
  rfl

theorem Begun.holds (h : l.Begun n) : l.Holds (n + 1) := by
  obtain ⟨commas, last⟩ := l
  obtain ⟨rfl, rfl⟩ := h
  rfl

theorem Holds.withComma (h : l.Holds n) (hlast : l.last = .element) : l.withComma.Holds n := by
  obtain ⟨commas, last⟩ := l
  obtain rfl : last = .element := hlast
  obtain rfl : n = commas + 1 := h
  exact ⟨Nat.succ_pos commas, rfl⟩

/-- What is seen of the level that the machine is at, with `n` elements so far. -/
def At (l : Level) (n : Nat) : Mode → Prop
  | .item => l.last ≠ .element ∧ l.Holds n
  | .after => l.last = .element ∧ l.Holds n
  | .bare _ | .quoted _ | .escaped _ => l.Begun n
  | .closed => False

end Level

/-- Where the next byte stands, by what it belongs to. -/
def Mode.side : Mode → Side
  | .quoted _ => .inside
  | .escaped _ => .escaped
  | _ => .outside

/-- The lengths of the arrays that have ended, by the elements so far of the arrays that have
not. -/
def lengthsWithin : List (List (Element Bytes)) → List Nat
  | [] => []
  | items :: around => lengthsWithin around ++ Element.lengthsAll items.reverse

theorem lengthsWithin_nil (around : List (List (Element Bytes))) :
    lengthsWithin ([] :: around) = lengthsWithin around := by
  rw [lengthsWithin, List.reverse_nil, Element.lengthsAll, List.append_nil]

theorem lengthsWithin_leaf {item : Element Bytes} (h : item.lengths = [])
    (items : List (Element Bytes)) (around : List (List (Element Bytes))) :
    lengthsWithin ((item :: items) :: around) = lengthsWithin (items :: around) := by
  rw [lengthsWithin, lengthsWithin, List.reverse_cons, Element.lengthsAll_append,
    Element.lengthsAll_singleton, h, List.append_nil]

theorem lengthsWithin_array (items outer : List (Element Bytes))
    (around : List (List (Element Bytes))) :
    lengthsWithin ((.array items.reverse :: outer) :: around) =
      lengthsWithin (items :: outer :: around) ++ [items.length] := by
  rw [lengthsWithin, lengthsWithin, lengthsWithin, List.reverse_cons, Element.lengthsAll_append,
    Element.lengthsAll_singleton, Element.lengths, List.length_reverse, List.append_assoc,
    List.append_assoc]

/-- The count **agrees with the machine**: there is a level for each open array, every array around
the current one has begun an element, and the levels that have ended have as many elements as
their commas say. -/
inductive Agrees : Count → Machine → Prop where
  /-- Some levels are open. -/
  | opened (mode : Mode) {l : Level} {outer ended : List Level} {tokens : List Bytes}
      {around : List (List (Element Bytes))} {items : List (Element Bytes)}
      (hat : l.At items.length mode)
      (haround : List.Forall₂ (fun l items => l.Begun items.length) outer around)
      (hended : List.Forall₂ Level.Holds ended (lengthsWithin (items :: around))) :
      Agrees ⟨mode.side, l :: outer, ended⟩ ⟨tokens, around, items, mode⟩
  /-- The outermost array has been closed. -/
  | closed {ended : List Level} {tokens : List Bytes} {around : List (List (Element Bytes))}
      {items : List (Element Bytes)}
      (h : List.Forall₂ Level.Holds ended (Element.lengths (.array items.reverse))) :
      Agrees ⟨.outside, [], ended⟩ ⟨tokens, around, items, .closed⟩

section Step

variable {l : Level} {outer ended : List Level} {tokens : List Bytes}
  {around : List (List (Element Bytes))} {items : List (Element Bytes)} {byte : UInt8}

theorem Count.step_quote : Count.step ⟨.outside, l :: outer, ended⟩ quote =
    ⟨.inside, l.withElement :: outer, ended⟩ := rfl

theorem Count.step_opening : Count.step ⟨.outside, l :: outer, ended⟩ opening =
    ⟨.outside, {} :: l.withElement :: outer, ended⟩ := rfl

theorem Count.step_closing : Count.step ⟨.outside, l :: outer, ended⟩ closing =
    ⟨.outside, outer, ended ++ [l]⟩ := rfl

theorem Count.step_comma : Count.step ⟨.outside, l :: outer, ended⟩ comma =
    ⟨.outside, l.withComma :: outer, ended⟩ := rfl

theorem Count.step_plain (h : isSpecial byte = false) :
    Count.step ⟨.outside, l :: outer, ended⟩ byte =
      ⟨.outside, l.withElement :: outer, ended⟩ := by
  simp only [isSpecial, Bool.or_eq_false_iff, beq_eq_false_iff_ne, ne_eq] at h
  obtain ⟨⟨⟨⟨hquote, hopening⟩, hclosing⟩, hcomma⟩, -⟩ := h
  simp [Count.step, Side.next, hquote, hopening, hclosing, hcomma]

theorem Count.step_inside : Count.step ⟨.inside, l :: outer, ended⟩ byte =
    ⟨Side.next .inside byte, l :: outer, ended⟩ := rfl

variable (haround : List.Forall₂ (fun l items => l.Begun items.length) outer around)
  (hended : List.Forall₂ Level.Holds ended (lengthsWithin (items :: around)))

include haround hended

/-- A level that has ended is one whose elements are known. -/
theorem agrees_leave {mode : Mode} (h : l.Holds items.length) :
    Agrees ⟨.outside, outer, ended ++ [l]⟩ (Machine.leave ⟨tokens, around, items, mode⟩) := by
  have hall : List.Forall₂ Level.Holds (ended ++ [l])
      (lengthsWithin (items :: around) ++ [items.length]) :=
    List.rel_append hended (.cons h .nil)
  rcases haround with _ | ⟨hbegun, haround⟩
  · refine .closed ?_
    rw [Element.lengths, List.length_reverse]
    exact hall
  · rw [← lengthsWithin_array] at hall
    exact .opened .after ⟨hbegun.1, hbegun.holds⟩ haround hall

/-- An element that is no array has ended. -/
theorem agrees_leaf {leaf : Element Bytes} (hleaf : leaf.lengths = []) (h : l.Begun items.length) :
    Agrees ⟨.outside, l :: outer, ended⟩ ⟨tokens, around, leaf :: items, .after⟩ := by
  rw [← lengthsWithin_leaf hleaf] at hended
  exact .opened .after ⟨h.1, h.holds⟩ haround hended

/-- What may come behind an element. -/
theorem agrees_separate {m' : Machine} (hlast : l.last = .element) (h : l.Holds items.length)
    (hstep : Machine.separate ⟨tokens, around, items, .after⟩ byte = .ok m') :
    Agrees (Count.step ⟨.outside, l :: outer, ended⟩ byte) m' := by
  rw [Machine.separate] at hstep
  split_ifs at hstep with hcomma hclosing
  · obtain rfl := hcomma
    cases hstep
    rw [Count.step_comma]
    exact .opened .item ⟨Last.noConfusion, h.withComma hlast⟩ haround hended
  · obtain rfl := hclosing
    cases hstep
    rw [Count.step_closing]
    exact agrees_leave haround hended h
  · cases hstep

/-- What may come where an element may start. -/
theorem agrees_begin {m' : Machine} (hlast : l.last ≠ .element) (h : l.Holds items.length)
    (hstep : Machine.begin ⟨tokens, around, items, .item⟩ byte = .ok m') :
    Agrees (Count.step ⟨.outside, l :: outer, ended⟩ byte) m' := by
  have hbegun := h.begun hlast
  rw [Machine.begin] at hstep
  split_ifs at hstep with hopening hclosing hquote hspecial
  · obtain rfl := hopening
    cases hstep
    rw [Count.step_opening]
    rw [← lengthsWithin_nil] at hended
    exact .opened .item ⟨Last.noConfusion, rfl, rfl⟩ (.cons hbegun haround) hended
  · obtain rfl := hclosing
    cases hstep
    rw [Count.step_closing]
    exact agrees_leave haround hended h
  · obtain rfl := hquote
    cases hstep
    rw [Count.step_quote]
    exact .opened (.quoted []) hbegun haround hended
  · cases hstep
  · cases hstep
    rw [Count.step_plain (by simpa using hspecial)]
    exact .opened (.bare [byte]) hbegun haround hended

end Step

/-- A bare token becomes an element that is no array. -/
theorem exists_addBare_eq (m : Machine) (token : Bytes) : ∃ tokens leaf,
    leaf.lengths = [] ∧ m.addBare token = ⟨tokens, m.around, leaf :: m.items, .after⟩ := by
  rw [Machine.addBare]
  split_ifs
  · exact ⟨m.tokens, .null, rfl, rfl⟩
  · exact ⟨token :: m.tokens, .value token, rfl, rfl⟩

/-- **One byte keeps the count and the machine in agreement.** -/
theorem agrees_step {c : Count} {m m' : Machine} {byte : UInt8} (h : Agrees c m)
    (hstep : m.step byte = .ok m') : Agrees (c.step byte) m' := by
  rcases h with @⟨mode, l, outer, ended, tokens, around, items, hat, haround, hended⟩ | _
  · rcases mode with _ | token | token | token | _ | _
    · exact agrees_begin haround hended hat.1 hat.2 hstep
    · have hbegun : l.Begun items.length := hat
      simp only [Machine.step] at hstep
      split_ifs at hstep with hspecial
      · -- The byte ends the token, and it is also what comes behind the element.
        obtain ⟨tokens', leaf, hleaf, hadd⟩ :=
          exists_addBare_eq ⟨tokens, around, items, .bare token⟩ token.reverse
        rw [hadd] at hstep
        rw [← lengthsWithin_leaf hleaf] at hended
        exact agrees_separate haround hended hbegun.1 hbegun.holds hstep
      · cases hstep
        show Agrees (Count.step ⟨.outside, l :: outer, ended⟩ byte) _
        rw [Count.step_plain (by simpa using hspecial), hbegun.withElement]
        exact .opened (.bare _) hbegun haround hended
    · show Agrees (Count.step ⟨.inside, l :: outer, ended⟩ byte) _
      simp only [Machine.step] at hstep
      rw [Count.step_inside, Side.next]
      split_ifs at hstep ⊢ with hquote hbackslash
      · cases hstep
        exact agrees_leaf haround hended rfl hat
      · cases hstep
        exact .opened (.escaped _) hat haround hended
      · cases hstep
        exact .opened (.quoted _) hat haround hended
    · cases hstep
      exact .opened (.quoted _) hat haround hended
    · exact agrees_separate haround hended hat.1 hat.2 hstep
    · exact absurd hat id
  · cases hstep

/-- What has been read keeps them in agreement. -/
theorem agrees_read (text : Bytes) : ∀ {c : Count} {m m' : Machine}, Agrees c m →
    text.foldlM Machine.step m = .ok m' → Agrees (text.foldl Count.step c) m' := by
  induction text with
  | nil =>
    rintro c m _ h ⟨⟩
    exact h
  | cons byte text ih =>
    intro c m m' h hread
    obtain ⟨m₁, hstep, hread⟩ := bind_eq_ok_iff.mp hread
    exact ih (agrees_step h hstep) hread

/-! ### Texts that are taken apart -/

theorem agrees_start : Agrees (Count.step {} opening) {} :=
  .opened .item ⟨Last.noConfusion, rfl, rfl⟩ .nil .nil

/-- **At every level of a text the commas go with the elements.** -/
theorem levels_of_scan {text : Bytes} {items : List (Element Bytes)} (h : scan text = .ok items) :
    List.Forall₂ Level.Holds (levels text) (Element.lengths (.array items)) := by
  obtain ⟨rest, rfl, hrun⟩ := scan_eq_ok_iff_run.mp h
  rw [← rest.append_nil, Machine.run_append] at hrun
  obtain ⟨m, hread, hfinish⟩ := bind_eq_ok_iff.mp hrun
  have hagrees : Agrees (rest.foldl Count.step (Count.step {} opening)) m :=
    agrees_read rest agrees_start hread
  -- The text is accepted only if the outermost array has been closed.
  show List.Forall₂ Level.Holds (rest.foldl Count.step (Count.step {} opening)).ended _
  generalize rest.foldl Count.step (Count.step {} opening) = c at hagrees
  rcases hagrees with @⟨mode, l, outer, ended, tokens, around, items', hat, -, -⟩ | hclosed
  · rcases mode with _ | _ | _ | _ | _ | _
    iterate 5 cases hfinish
    exact absurd hat id
  · cases hfinish
    exact hclosed

/-- Of the two levels, the inner one ends first. -/
example : levels [opening, opening, 0x61, comma, 0x62, closing, comma, closing] =
    [⟨1, .element⟩, ⟨1, .comma⟩] := by decide

end ArrayText

end PgAdapt
