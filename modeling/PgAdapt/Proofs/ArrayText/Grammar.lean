import Mathlib.Data.List.Basic
import Mathlib.Tactic.SplitIfs
import PgAdapt.ArrayText

/-!
# The grammar of array texts

The language of array texts is given without a scanner, by four relations between texts and what they
spell. Readers are then driven over the texts of the language, along their derivations.
-/

namespace PgAdapt

/-! ## The language of array texts

The texts that the scanner takes apart are those of a small grammar, given here as relations
between a text and what it spells: `PgAdapt.ArrayText.SpellsToken` for what stands between quotes,
`PgAdapt.ArrayText.SpellsElement`, `PgAdapt.ArrayText.SpellsElements` and
`PgAdapt.ArrayText.SpellsArray`. Nothing in it knows of a stack or a mode.
-/

namespace ArrayText

/-! ### The grammar -/

/-- What stands between quotes, and the token that it spells: a backslash takes the meaning from
the next byte. -/
inductive SpellsToken : Bytes → Bytes → Prop where
  /-- Nothing spells the empty token. -/
  | nil : SpellsToken [] []
  /-- A byte without a meaning of its own stands for itself. -/
  | plain {byte : UInt8} {inner token : Bytes} (hquote : byte ≠ quote)
      (hbackslash : byte ≠ backslash) (rest : SpellsToken inner token) :
      SpellsToken (byte :: inner) (byte :: token)
  /-- Behind a backslash every byte stands for itself. -/
  | escape (byte : UInt8) {inner token : Bytes} (rest : SpellsToken inner token) :
      SpellsToken (backslash :: byte :: inner) (byte :: token)

mutual

/-- The text of an element, and the element. -/
inductive SpellsElement : Bytes → Element Bytes → Prop where
  /-- The bare word for `NULL`. -/
  | null : SpellsElement nullWord .null
  /-- A bare token. -/
  | bare {token : Bytes} (hne : token ≠ []) (hplain : ∀ byte ∈ token, isSpecial byte = false)
      (hword : token ≠ nullWord) : SpellsElement token (.value token)
  /-- A quoted token. -/
  | quoted {inner token : Bytes} (h : SpellsToken inner token) :
      SpellsElement (quote :: inner ++ [quote]) (.value token)
  /-- An array. -/
  | array {text : Bytes} {items : List (Element Bytes)} (h : SpellsArray text items) :
      SpellsElement text (.array items)

/-- The text of one or more elements with commas between them, and the elements. -/
inductive SpellsElements : Bytes → List (Element Bytes) → Prop where
  /-- The last element. -/
  | last {text : Bytes} {item : Element Bytes} (h : SpellsElement text item) :
      SpellsElements text [item]
  /-- An element before others. -/
  | more {text texts : Bytes} {item : Element Bytes} {items : List (Element Bytes)}
      (h : SpellsElement text item) (rest : SpellsElements texts items) :
      SpellsElements (text ++ comma :: texts) (item :: items)

/-- The **text of an array**, and the array. -/
inductive SpellsArray : Bytes → List (Element Bytes) → Prop where
  /-- An array without elements. -/
  | empty : SpellsArray [opening, closing] []
  /-- Elements between braces. -/
  | elements {inner : Bytes} {items : List (Element Bytes)} (h : SpellsElements inner items) :
      SpellsArray (opening :: inner ++ [closing]) items
  /-- Elements between braces, with a comma behind the last one. -/
  | trailing {inner : Bytes} {items : List (Element Bytes)} (h : SpellsElements inner items) :
      SpellsArray (opening :: inner ++ [comma, closing]) items

end

theorem SpellsToken.append {inner token inner' token' : Bytes} (h : SpellsToken inner token)
    (h' : SpellsToken inner' token') : SpellsToken (inner ++ inner') (token ++ token') := by
  induction h with
  | nil => exact h'
  | plain hquote hbackslash _ ih => exact .plain hquote hbackslash ih
  | escape byte _ ih => exact .escape byte ih

end ArrayText

/-! ## Readers of array texts

A reader of array texts need not make the same of a bare token as the scanner does. So here is
the scanner with any **rule for bare tokens** in the place of its own, `PgAdapt.ArrayText.scanBy`;
with the rule of the scanner it is the scanner (`PgAdapt.ArrayText.scanBy_exact`).

A reader is driven over a text piece by piece, from any state in which an element may start:
`PgAdapt.ArrayText.ReadsAs` says what comes of it, and there is one lemma for each way to write
elements. What follows a piece is left open, except that it has to end a bare token, since only the
next byte does that. A derivation in the grammar is such a way through its text, so the scanner
takes every text of the grammar apart, into the array that it spells:
`PgAdapt.ArrayText.scan_of_spellsArray`.
-/

namespace ArrayText

/-! ### Rules for bare tokens -/

/-- A **rule for bare tokens**: the token of the value that a bare token stands for, or none if it
stands for `NULL`. -/
abbrev BareRule : Type := Bytes → Option Bytes

/-- The rule of the scanner: a bare token stands for itself, unless it is the word for `NULL`. -/
def BareRule.exact : BareRule := fun token => if token = nullWord then none else some token

namespace Machine

/-- The machine after a leaf: a value with a given token, or `NULL`. -/
def addLeaf (m : Machine) : Option Bytes → Machine
  | none => m.addNull
  | some token => m.addToken token

theorem addLeaf_exact (m : Machine) (token : Bytes) :
    m.addLeaf (BareRule.exact token) = m.addBare token := by
  rw [BareRule.exact, addBare]
  split_ifs <;> rfl

/-- The machine after one more byte, where bare tokens go by a given rule. -/
def stepBy (rule : BareRule) (m : Machine) (byte : UInt8) : Except Refusal Machine :=
  match m.mode with
  | .bare token =>
    if isSpecial byte then (m.addLeaf (rule token.reverse)).separate byte
    else .ok { m with mode := .bare (byte :: token) }
  | _ => m.step byte

/-- The array at the end of the text, where bare tokens go by a given rule. -/
def finishBy (rule : BareRule) (m : Machine) : Except Refusal (List (Element Bytes)) :=
  match m.mode with
  | .bare token => (m.addLeaf (rule token.reverse)).refuse .unterminated
  | _ => m.finish

/-- The array at the end of a text that the machine still has to read, where bare tokens go by a
given rule. -/
def runBy (rule : BareRule) (m : Machine) : Bytes → Except Refusal (List (Element Bytes))
  | [] => m.finishBy rule
  | byte :: rest =>
    match m.stepBy rule byte with
    | .ok m => m.runBy rule rest
    | .error refusal => .error refusal

theorem stepBy_exact (m : Machine) (byte : UInt8) : m.stepBy .exact byte = m.step byte := by
  rcases m with ⟨tokens, around, items, _ | token | _ | _ | _ | _⟩
  case bare => simp only [stepBy, step, addLeaf_exact]
  all_goals rfl

theorem finishBy_exact (m : Machine) : m.finishBy .exact = m.finish := by
  rcases m with ⟨tokens, around, items, _ | token | _ | _ | _ | _⟩
  case bare => simp only [finishBy, finish, addLeaf_exact]
  all_goals rfl

/-- By the rule of the scanner the machine runs as it does in the scanner. -/
theorem runBy_exact (m : Machine) (text : Bytes) : m.runBy .exact text = m.run text := by
  induction text generalizing m with
  | nil => exact m.finishBy_exact
  | cons byte rest ih =>
    rw [runBy, run, stepBy_exact]
    rcases m.step byte with refusal | m'
    · rfl
    · exact ih m'

end Machine

/-- The **array of tokens** that a text spells to a reader with a given rule for bare tokens. -/
def scanBy (rule : BareRule) : Bytes → Except Refusal (List (Element Bytes))
  | [] => scan []
  | byte :: rest => if byte = opening then Machine.runBy rule {} rest else scan (byte :: rest)

/-- By its own rule the reader is the scanner. -/
theorem scanBy_exact (text : Bytes) : scanBy .exact text = scan text := by
  rcases text with _ | ⟨byte, rest⟩
  · rfl
  · rw [scanBy, Machine.runBy_exact]
    split_ifs with hopening
    · rw [scan, if_pos hopening]
    · rfl

/-! ### The machine between the pieces of a text -/

namespace Machine

/-- The machine after several elements, whatever they are. -/
def addAll (m : Machine) (items : List (Element Bytes)) : Machine :=
  { m with
    tokens := (Element.valuesAll items).reverse ++ m.tokens
    items := items.reverse ++ m.items
    mode := .after }

theorem addAll_cons (m : Machine) (item : Element Bytes) (items : List (Element Bytes)) :
    { m.addAll [item] with mode := .item }.addAll items = m.addAll (item :: items) := by
  simp [addAll, Element.valuesAll, Element.leavesAll]

theorem leave_addAll_nil (m : Machine) : (m.addAll []).leave = m.leave := rfl

/-- Closing an array within another one makes it an element of the other. -/
theorem leave_addAll_enter (m : Machine) (items : List (Element Bytes)) :
    (m.enter.addAll items).leave = m.addAll [.array items] := by
  simp [leave, addAll, enter, Element.valuesAll, Element.leavesAll, Element.leaves]

variable (rule : BareRule)

theorem runBy_cons_ok {m m' : Machine} {byte : UInt8} (h : m.stepBy rule byte = .ok m')
    (rest : Bytes) : m.runBy rule (byte :: rest) = m'.runBy rule rest := by
  rw [runBy, h]

section Ready

variable {m : Machine} (hm : m.mode = .item)

include hm

theorem stepBy_opening : m.stepBy rule opening = .ok m.enter := by
  rw [stepBy, step, hm]
  rfl

theorem stepBy_quote : m.stepBy rule quote = .ok { m with mode := .quoted [] } := by
  rw [stepBy, step, hm]
  rfl

theorem stepBy_closing : m.stepBy rule closing = .ok m.leave := by
  rw [stepBy, step, hm]
  rfl

theorem stepBy_plain {byte : UInt8} (h : isSpecial byte = false) :
    m.stepBy rule byte = .ok { m with mode := .bare [byte] } := by
  simp only [isSpecial, Bool.or_eq_false_iff, beq_eq_false_iff_ne, ne_eq] at h
  obtain ⟨⟨⟨⟨hquote, hopening⟩, hclosing⟩, hcomma⟩, hbackslash⟩ := h
  rw [stepBy, step, hm]
  simp [begin, isSpecial, hquote, hopening, hclosing, hcomma, hbackslash]

end Ready

/-- A comma behind an element makes room for the next one. -/
theorem stepBy_comma (m : Machine) (items : List (Element Bytes)) :
    (m.addAll items).stepBy rule comma = .ok { m.addAll items with mode := .item } := rfl

/-- A brace behind an element closes the array. -/
theorem stepBy_closing_after (m : Machine) (items : List (Element Bytes)) :
    (m.addAll items).stepBy rule closing = .ok (m.addAll items).leave := rfl

/-- A bare token goes on as long as its bytes have no meaning. -/
theorem runBy_bare (m : Machine) {bytes : Bytes} (h : ∀ byte ∈ bytes, isSpecial byte = false) :
    ∀ token rest, { m with mode := .bare token }.runBy rule (bytes ++ rest) =
      { m with mode := .bare (bytes.reverse ++ token) }.runBy rule rest := by
  induction bytes with
  | nil => intro token rest; rfl
  | cons byte bytes ih =>
    intro token rest
    have hstep : { m with mode := .bare token }.stepBy rule byte =
        .ok { m with mode := .bare (byte :: token) } := by
      rw [stepBy]
      exact if_neg (by simp [h byte])
    rw [List.cons_append, runBy_cons_ok rule hstep, ih (fun b hb => h b (by simp [hb]))]
    simp

/-- A quoted token goes on up to its closing quote. -/
theorem runBy_quoted (m : Machine) {inner token : Bytes} (h : SpellsToken inner token) :
    ∀ before rest, { m with mode := .quoted before }.runBy rule (inner ++ quote :: rest) =
      (m.addToken (before.reverse ++ token)).runBy rule rest := by
  induction h with
  | nil =>
    intro before rest
    have hstep : { m with mode := .quoted before }.stepBy rule quote =
        .ok (m.addToken (before.reverse ++ [])) := by
      simp [stepBy, step, addToken]
    exact runBy_cons_ok rule hstep rest
  | @plain byte inner token hquote hbackslash _ ih =>
    intro before rest
    have hstep : { m with mode := .quoted before }.stepBy rule byte =
        .ok { m with mode := .quoted (byte :: before) } := by
      simp [stepBy, step, hquote, hbackslash]
    rw [List.cons_append, runBy_cons_ok rule hstep, ih]
    simp
  | @escape byte inner token _ ih =>
    intro before rest
    have hstep : { m with mode := .quoted before }.stepBy rule backslash =
        .ok { m with mode := .escaped before } := by
      simp [stepBy, step, show backslash ≠ quote by decide]
    have hnext : { m with mode := .escaped before }.stepBy rule byte =
        .ok { m with mode := .quoted (byte :: before) } := rfl
    rw [List.cons_append, List.cons_append, runBy_cons_ok rule hstep, runBy_cons_ok rule hnext, ih]
    simp

end Machine

/-- What may follow an element in the text of an array. -/
def Ends (rest : Bytes) : Prop :=
  ∃ byte after, rest = byte :: after ∧ (byte = comma ∨ byte = closing)

theorem ends_cons_comma (rest : Bytes) : Ends (comma :: rest) := ⟨comma, rest, rfl, .inl rfl⟩

theorem ends_cons_closing (rest : Bytes) : Ends (closing :: rest) := ⟨closing, rest, rfl, .inr rfl⟩

theorem plain_nullWord : ∀ byte ∈ nullWord, isSpecial byte = false :=
  List.forall_mem_cons.mpr ⟨by decide, List.forall_mem_cons.mpr ⟨by decide,
    List.forall_mem_cons.mpr ⟨by decide, List.forall_mem_singleton.mpr (by decide)⟩⟩⟩

/-! ### The pieces of a text -/

section Pieces

variable (rule : BareRule)

/-- A bare token ends where something else may follow. -/
theorem runBy_bare_ends (m : Machine) (token : Bytes) {rest : Bytes} (h : Ends rest) :
    { m with mode := .bare token.reverse }.runBy rule rest =
      (m.addLeaf (rule token)).runBy rule rest := by
  obtain ⟨byte, after, rfl, hbyte⟩ := h
  have hspecial : isSpecial byte = true := by
    rcases hbyte with rfl | rfl <;> decide
  -- The byte is not part of the token, so the machine takes it as if the leaf had been added
  -- before.
  have hleft : { m with mode := .bare token.reverse }.stepBy rule byte =
      (m.addLeaf (rule token)).separate byte := by
    simp only [Machine.stepBy, if_pos hspecial, List.reverse_reverse]
    rcases rule token with _ | token' <;> rfl
  have hright : (m.addLeaf (rule token)).stepBy rule byte =
      (m.addLeaf (rule token)).separate byte := by
    rcases rule token with _ | token' <;> rfl
  rw [Machine.runBy, Machine.runBy, hleft, hright]

/-- A bare token is read as a whole, and by the rule. -/
theorem runBy_of_plain {m : Machine} (hm : m.mode = .item) {token : Bytes} (hne : token ≠ [])
    (hplain : ∀ byte ∈ token, isSpecial byte = false) {rest : Bytes} (hrest : Ends rest) :
    m.runBy rule (token ++ rest) = (m.addLeaf (rule token)).runBy rule rest := by
  rcases token with _ | ⟨byte, bytes⟩
  · exact absurd rfl hne
  · have hbyte : isSpecial byte = false := hplain byte (by simp)
    have hbytes : ∀ b ∈ bytes, isSpecial b = false := fun b hb => hplain b (by simp [hb])
    rw [List.cons_append, Machine.runBy_cons_ok rule (Machine.stepBy_plain rule hm hbyte),
      m.runBy_bare rule hbytes, ← runBy_bare_ends rule m (byte :: bytes) hrest, List.reverse_cons]

/-- A text **reads as** elements, with commas between them: a reader that is ready for an element
takes the text and adds the elements, if what follows may follow an element. -/
def ReadsAs (text : Bytes) (items : List (Element Bytes)) : Prop :=
  ∀ m : Machine, m.mode = .item → ∀ rest, Ends rest →
    m.runBy rule (text ++ rest) = (m.addAll items).runBy rule rest

/-- A text **reads as an array**: a reader that has opened an array with the first brace takes the
rest of the text and leaves the array, whatever follows. -/
def ReadsAsArray (text : Bytes) (items : List (Element Bytes)) : Prop :=
  ∃ body, text = opening :: body ∧ ∀ m : Machine, m.mode = .item →
    ∀ rest, m.runBy rule (body ++ rest) = (m.addAll items).leave.runBy rule rest

variable {rule}

theorem readsAs_null (h : rule nullWord = none) : ReadsAs rule nullWord [.null] := by
  intro m hm rest hrest
  have hne : nullWord ≠ [] := by decide
  rw [runBy_of_plain rule hm hne plain_nullWord hrest, h]
  rfl

theorem readsAs_bare {token token' : Bytes} (hne : token ≠ [])
    (hplain : ∀ byte ∈ token, isSpecial byte = false) (h : rule token = some token') :
    ReadsAs rule token [.value token'] := by
  intro m hm rest hrest
  rw [runBy_of_plain rule hm hne hplain hrest, h]
  rfl

theorem readsAs_quoted {inner token : Bytes} (h : SpellsToken inner token) :
    ReadsAs rule (quote :: inner ++ [quote]) [.value token] := by
  intro m hm rest _
  rw [List.cons_append, List.cons_append, List.append_assoc,
    Machine.runBy_cons_ok rule (Machine.stepBy_quote rule hm)]
  exact m.runBy_quoted rule h [] rest

/-- An array ends with its own brace, so it is an element whatever follows. -/
theorem ReadsAsArray.readsAs {text : Bytes} {items : List (Element Bytes)}
    (h : ReadsAsArray rule text items) : ReadsAs rule text [.array items] := by
  intro m hm rest _
  obtain ⟨body, rfl, hbody⟩ := h
  rw [List.cons_append, Machine.runBy_cons_ok rule (Machine.stepBy_opening rule hm),
    hbody m.enter rfl, Machine.leave_addAll_enter]

theorem ReadsAs.cons {text texts : Bytes} {item : Element Bytes} {items : List (Element Bytes)}
    (h : ReadsAs rule text [item]) (hrest : ReadsAs rule texts items) :
    ReadsAs rule (text ++ comma :: texts) (item :: items) := by
  intro m hm rest hends
  rw [List.append_assoc, List.cons_append, h m hm _ (ends_cons_comma _),
    Machine.runBy_cons_ok rule (m.stepBy_comma rule _), hrest _ rfl rest hends,
    Machine.addAll_cons]

theorem readsAsArray_empty : ReadsAsArray rule [opening, closing] [] := by
  refine ⟨[closing], rfl, fun m hm rest => ?_⟩
  rw [List.singleton_append, Machine.runBy_cons_ok rule (Machine.stepBy_closing rule hm),
    Machine.leave_addAll_nil]

section Enclosed

variable {inner : Bytes} {items : List (Element Bytes)} (h : ReadsAs rule inner items)

include h

theorem ReadsAs.enclose : ReadsAsArray rule (opening :: inner ++ [closing]) items := by
  refine ⟨inner ++ [closing], rfl, fun m hm rest => ?_⟩
  rw [List.append_assoc, List.singleton_append, h m hm _ (ends_cons_closing _),
    Machine.runBy_cons_ok rule (m.stepBy_closing_after rule _)]

/-- Behind a comma an element might start, and there a brace closes the array as well. -/
theorem ReadsAs.enclose_comma : ReadsAsArray rule (opening :: inner ++ [comma, closing]) items := by
  refine ⟨inner ++ [comma, closing], rfl, fun m hm rest => ?_⟩
  rw [List.append_assoc, List.cons_append, List.singleton_append, h m hm _ (ends_cons_comma _),
    Machine.runBy_cons_ok rule (m.stepBy_comma rule _)]
  exact Machine.runBy_cons_ok rule (Machine.stepBy_closing rule rfl) rest

end Enclosed

/-- What reads as an array is taken apart into it. -/
theorem ReadsAsArray.scanBy_eq {text : Bytes} {items : List (Element Bytes)}
    (h : ReadsAsArray rule text items) : scanBy rule text = .ok items := by
  obtain ⟨body, rfl, hbody⟩ := h
  have hrun := hbody {} rfl []
  rw [List.append_nil] at hrun
  rw [scanBy, if_pos rfl, hrun]
  simp [Machine.addAll, Machine.leave, Machine.runBy, Machine.finishBy, Machine.finish]

end Pieces

/-! ### From a derivation to a run -/

mutual

/-- **A derivation drives the machine over an element.** -/
theorem readsAs_of_spellsElement {text : Bytes} {item : Element Bytes} :
    SpellsElement text item → ReadsAs .exact text [item]
  | .null => readsAs_null (if_pos rfl)
  | .bare hne hplain hword => readsAs_bare hne hplain (if_neg hword)
  | .quoted h => readsAs_quoted h
  | .array h => (readsAsArray_of_spellsArray h).readsAs

/-- A derivation drives the machine over elements. -/
theorem readsAs_of_spellsElements {text : Bytes} {items : List (Element Bytes)} :
    SpellsElements text items → ReadsAs .exact text items
  | .last h => readsAs_of_spellsElement h
  | .more h rest => (readsAs_of_spellsElement h).cons (readsAs_of_spellsElements rest)

/-- A derivation drives the machine over an array. -/
theorem readsAsArray_of_spellsArray {text : Bytes} {items : List (Element Bytes)} :
    SpellsArray text items → ReadsAsArray .exact text items
  | .empty => readsAsArray_empty
  | .elements h => (readsAs_of_spellsElements h).enclose
  | .trailing h => (readsAs_of_spellsElements h).enclose_comma

end

/-- **Every text of an array is taken apart**, into the array that it spells. -/
theorem scan_of_spellsArray {text : Bytes} {items : List (Element Bytes)}
    (h : SpellsArray text items) : scan text = .ok items := by
  rw [← scanBy_exact]
  exact (readsAsArray_of_spellsArray h).scanBy_eq

end ArrayText

end PgAdapt
