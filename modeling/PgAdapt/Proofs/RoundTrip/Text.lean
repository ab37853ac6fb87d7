import PgAdapt.Proofs.ArrayText.Scan
import PgAdapt.Proofs.Session.Alone

/-!
# Arrays in text, written and read

What the writer of array texts writes is taken apart again by the scanner, and by other readers
(`PgAdapt.ArrayText.scanBy_write`). So an array comes back from its text, if its values do.
-/

namespace PgAdapt

/-! ## Array texts that have been written

What the writer leaves bare is neither empty nor the word for `NULL` and has no byte with a
meaning; in a token that it quotes, every byte with a meaning between quotes stands behind a
backslash. So a reader need not be the scanner to take the text apart into the array that was
written: it is enough that its rule for bare tokens **suits the writer**,
`PgAdapt.ArrayText.BareRule.Suits`, whatever the rule makes of other tokens
(`PgAdapt.ArrayText.scanBy_write`).

The rule of the scanner does, so the scanner takes the text apart again,
`PgAdapt.ArrayText.scan_write`, and the text is one of the grammar,
`PgAdapt.ArrayText.spellsArray_write`.
-/

namespace ArrayText

/-! ### Tokens -/

/-- What stands between the quotes of a token spells the token. -/
theorem spellsToken_flatMap (token : Bytes) :
    SpellsToken (token.flatMap fun byte =>
      if byte = quote ∨ byte = backslash then [backslash, byte] else [byte]) token := by
  induction token with
  | nil => exact .nil
  | cons byte token ih =>
    rw [List.flatMap_cons]
    split_ifs with h
    · exact .escape byte ih
    · rw [not_or] at h
      exact .plain h.1 h.2 ih

/-- **What a token that need not be quoted looks like.** -/
theorem needsQuotes_eq_false_iff {token : Bytes} :
    needsQuotes token = false ↔ token ≠ [] ∧ token.map lower ≠ nullWord.map lower ∧
      ∀ byte ∈ token, isSpecial byte = false ∧ isBlank byte = false := by
  simp only [needsQuotes, Bool.or_eq_false_iff, List.isEmpty_eq_false_iff, beq_eq_false_iff_ne,
    List.any_eq_false, Bool.or_eq_true, not_or, Bool.not_eq_true, and_assoc, ne_eq]

/-- A rule for bare tokens **suits the writer** if it keeps every token that need not be quoted,
and takes the word for `NULL` as what it is. -/
structure BareRule.Suits (rule : BareRule) : Prop where
  /-- The word for `NULL` is no value. -/
  null : rule nullWord = none
  /-- What need not be quoted stands for itself. -/
  bare {token : Bytes} (h : needsQuotes token = false) : rule token = some token

theorem BareRule.suits_exact : BareRule.exact.Suits where
  null := if_pos rfl
  bare {token} h := by
    refine if_neg ?_
    rintro rfl
    exact (needsQuotes_eq_false_iff.mp h).2.1 rfl

/-! ### Arrays -/

section Reader

variable {rule : BareRule}

theorem readsAs_writeToken (hrule : rule.Suits) (token : Bytes) :
    ReadsAs rule (writeToken token) [.value token] := by
  rw [writeToken]
  split_ifs with h
  · exact readsAs_quoted (spellsToken_flatMap token)
  · rw [Bool.not_eq_true] at h
    obtain ⟨hne, -, hbytes⟩ := needsQuotes_eq_false_iff.mp h
    exact readsAs_bare hne (fun byte hbyte => (hbytes byte hbyte).1) (hrule.bare h)

mutual

theorem readsAs_writeElement (hrule : rule.Suits) :
    ∀ item : Element Bytes, ReadsAs rule (writeElement item) [item]
  | .null => by
    rw [writeElement]
    exact readsAs_null hrule.null
  | .value token => by
    rw [writeElement]
    exact readsAs_writeToken hrule token
  | .array items => (readsAsArray_writeElement hrule items).readsAs

theorem readsAsArray_writeElement (hrule : rule.Suits) : ∀ items : List (Element Bytes),
    ReadsAsArray rule (writeElement (.array items)) items
  | [] => by
    rw [writeElement, writeElements]
    exact readsAsArray_empty
  | item :: items => by
    rw [writeElement]
    exact (readsAs_writeElements hrule (item :: items) (List.cons_ne_nil item items)).enclose

theorem readsAs_writeElements (hrule : rule.Suits) : ∀ items : List (Element Bytes), items ≠ [] →
    ReadsAs rule (writeElements items) items
  | [], h => absurd rfl h
  | [item], _ => by
    rw [writeElements]
    exact readsAs_writeElement hrule item
  | item :: next :: items, _ => by
    rw [writeElements]
    have hrest := readsAs_writeElements hrule (next :: items) (List.cons_ne_nil next items)
    exact (readsAs_writeElement hrule item).cons hrest

end

/-- **A reader whose rule suits the writer takes apart what is written.** -/
theorem scanBy_write (hrule : rule.Suits) (items : List (Element Bytes)) :
    scanBy rule (write items) = .ok items :=
  (readsAsArray_writeElement hrule items).scanBy_eq

end Reader

/-- **What is written is taken apart again.** -/
theorem scan_write (items : List (Element Bytes)) : scan (write items) = .ok items := by
  rw [← scanBy_exact]
  exact scanBy_write BareRule.suits_exact items

/-- **What is written spells what was given.** -/
theorem spellsArray_write (items : List (Element Bytes)) : SpellsArray (write items) items :=
  scan_eq_ok_iff.mp (scan_write items)

/-! ### The lengths of tokens -/

theorem length_le_of_spellsToken {inner token : Bytes} (h : SpellsToken inner token) :
    token.length ≤ inner.length := by
  induction h with
  | nil => exact Nat.le_refl 0
  | plain _ _ _ ih => exact Nat.succ_le_succ ih
  | escape _ _ ih => exact Nat.le_succ_of_le (Nat.succ_le_succ ih)

mutual

theorem length_le_of_spellsElement {text : Bytes} {item : Element Bytes} :
    SpellsElement text item → ∀ token ∈ Element.valuesAll [item], token.length ≤ text.length
  | .null => by simp
  | .bare _ _ _ => by simp
  | .quoted h => by
    have := length_le_of_spellsToken h
    simp
    omega
  | .array h => fun token htoken => by
    rw [Element.valuesAll_array_cons, Element.valuesAll_nil, List.append_nil] at htoken
    exact Nat.le_of_lt (length_lt_of_spellsArray h token htoken)

theorem length_le_of_spellsElements {text : Bytes} {items : List (Element Bytes)} :
    SpellsElements text items → ∀ token ∈ Element.valuesAll items, token.length ≤ text.length
  | .last h => length_le_of_spellsElement h
  | .more h rest => fun token htoken => by
    rw [Element.valuesAll_cons, List.mem_append] at htoken
    rw [List.length_append, List.length_cons]
    rcases htoken with htoken | htoken
    · have := length_le_of_spellsElement h token htoken
      omega
    · have := length_le_of_spellsElements rest token htoken
      omega

/-- **The tokens in the text of an array are shorter than the text.** -/
theorem length_lt_of_spellsArray {text : Bytes} {items : List (Element Bytes)} :
    SpellsArray text items → ∀ token ∈ Element.valuesAll items, token.length < text.length
  | .empty => by simp
  | .elements h => fun token htoken => by
    have := length_le_of_spellsElements h token htoken
    simp
    omega
  | .trailing h => fun token htoken => by
    have := length_le_of_spellsElements h token htoken
    simp
    omega

end

end ArrayText

/-! ## Arrays in text come back

An array of values is dumped to its text, whatever its shape and whatever the tokens of the values
are, and the loader of arrays gives the array back, with each value replaced by what comes back of
it on its own.

The text is the one of `PgAdapt.ArrayText.write`, and `PgAdapt.ArrayText.scan_write` takes it
apart again. Since every token is shorter than the text, the loader of the elements is never
refused for handing on too much.
-/

section Text

variable {s : Session} {ctx : Context} {items : PgArray} {element : Oid}
  {dumped : Value → Bytes × Oid} {loaded : Value → Value}
  (halone : SurviveAlone s ctx .text element items dumped loaded)

/-- The **text** for an array of values. -/
def arrayText (token : Value → Bytes) (items : PgArray) : Bytes :=
  ArrayText.write (Element.mapAll token items)

theorem length_token_lt (token : Value → Bytes) {v : Value} (h : v ∈ Element.valuesAll items) :
    (token v).length < (arrayText token items).length := by
  refine ArrayText.length_lt_of_spellsArray (ArrayText.spellsArray_write _) _ ?_
  rw [Element.valuesAll_mapAll]
  exact List.mem_map_of_mem h

include halone

/-- An array is dumped to the text for it. -/
theorem World.gives_dumpArray_text (w : World (s.scope ctx)) :
    w.Gives (ctx.dumpArray .text items) (.ok (arrayText (fun v => (dumped v).1) items,
      arrayTypeOver ((Element.valuesAll items).head?.map fun v => (dumped v).2))) := by
  refine gives_dumpArray (fun w' elements helements => ?_) w
  have hleaves : w'.Gives (Element.traverseAll (Dumpable.dumpVia elements .text)
      (Element.mapAll Dumpable.ofValue items)) (.ok (Element.mapAll dumped items)) := by
    rw [Element.traverseAll_mapAll, ← Element.traverseAll_eq_ok items fun _ _ => rfl]
    refine .traverseAll items w' fun v hv w'' hw'' => ?_
    exact gives_dumpVia_of_dumpValue (halone.dump v hv) w'' (hw'' helements)
  have htext : ArrayText.write (Element.mapAll Prod.fst (Element.mapAll dumped items)) =
      arrayText (fun v => (dumped v).1) items := by
    rw [Element.mapAll_mapAll]
    rfl
  have htype : (Element.valuesAll (Element.mapAll dumped items)).head?.map Prod.snd =
      (Element.valuesAll items).head?.map fun v => (dumped v).2 := by
    rw [Element.valuesAll_mapAll, List.head?_map, Option.map_map]
    rfl
  rw [← htext, ← htype]
  exact .bind hleaves (q := fun tokens => pure (ArrayText.write (Element.mapAll Prod.fst tokens),
    arrayTypeOver ((Element.valuesAll tokens).head?.map Prod.snd))) fun _ _ w₁ _ => .pure w₁ _

/-- The text for an array is loaded as the array. -/
theorem World.gives_loadWith_text
    (hloader : ((s.registries ctx.registry).loader? element .text).isSome)
    {factory : LoaderFactory} (hfactory : factory.recipe = .arrayText element) (array : Oid)
    (w : World (s.scope ctx)) :
    w.Gives (ctx.loadWith factory array (arrayText (fun v => (dumped v).1) items))
      (.ok (.array (Element.mapAll loaded items))) := by
  refine gives_loadWith (fun w' l hl => ?_) w
  rw [hfactory] at hl
  obtain ⟨maker, hmaker⟩ := Option.isSome_iff_exists.mp hloader
  cases hl with
  | @arrayText id _ elements helements =>
    rw [Loader.load, Loader.loadWithin_eq]
    refine (makes_loaderFor w' helements hmaker).gives_bind fun w₁ inner hw₁ hinner => ?_
    refine .bind (r := .ok (Element.mapAll loaded items)) (q := fun x => pure (Value.array x))
      ?_ fun _ _ _ _ => .pure _ _
    rw [loadText, arrayText, ArrayText.scan_write]
    change w₁.Gives (Element.traverseAll (Loader.loadPart _ (arrayText _ items) inner) _) _
    rw [Element.traverseAll_mapAll, ← Element.traverseAll_eq_ok items fun _ _ => rfl]
    refine .traverseAll items w₁ fun v hv w₂ hw₂ => ?_
    have hshort : (dumped v).1.length < (arrayText (fun v => (dumped v).1) items).length :=
      length_token_lt (fun v => (dumped v).1) hv
    -- The loader of the elements is made by the maker that also serves a value on its own.
    obtain ⟨maker', hmaker', hgives⟩ := exists_factory_of_loadValue (halone.load v hv)
    obtain rfl : maker' = maker := Option.some.inj (hmaker'.symm.trans hmaker)
    rw [Loader.loadPart, if_pos hshort]
    exact hgives w₂ element inner (hinner.mono hw₂)

/-- An array whose values survive on their own comes back. -/
theorem exists_text_of_surviveAlone
    (hloader : ((s.registries ctx.registry).loader? element .text).isSome)
    {factory : LoaderFactory} (hfactory : factory.recipe = .arrayText element) (array : Oid) :
    ∃ text type, (ctx.dumpArray .text items).result s = .ok (text, type) ∧
      ((ctx.dumpArray .text items).after s).scope ctx = s.scope ctx ∧
      ∀ s' : Session, s'.scope ctx = s.scope ctx →
        (ctx.loadWith factory array text).result s' =
          .ok (.array (Element.mapAll loaded items)) := by
  have hdumped := World.gives_dumpArray_text halone (.start s rfl)
  refine ⟨_, _, hdumped.result_eq, hdumped.scope_after, fun s' hs' => ?_⟩
  exact (World.gives_loadWith_text halone hloader hfactory array (.start s' hs')).result_eq

end Text

end PgAdapt
