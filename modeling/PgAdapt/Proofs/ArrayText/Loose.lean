import Mathlib.Data.List.DropRight
import PgAdapt.Proofs.RoundTrip.Text
import PgAdapt.Scalar.Text

/-!
# The reader of the server

The server reads array texts more loosely than the scanner: it strips blanks around a bare token,
and takes the word for `NULL` in small and capital letters. So a text that the scanner takes apart
into the array that was written need not be the same array to the server, and coming back through
the scanner is no reason to leave a token bare.

The reader of the server is `PgAdapt.ArrayText.scanBy` with the **loose rule** for bare tokens,
`PgAdapt.ArrayText.BareRule.loose`. The tokens that need not be quoted have no blanks and do not
read like `NULL`, whatever their letters, so the loose rule suits the writer
(`PgAdapt.ArrayText.BareRule.suits_loose`), and to the server as well as to the scanner an array
that has been dumped is the tree of the tokens of its values, whatever these tokens are:
`PgAdapt.scanBy_loose_dumpArray`.
-/

namespace PgAdapt

namespace ArrayText

/-! ### The loose rule -/

/-- The bytes that the server strips: space, tab, line feed, vertical tab, form feed and carriage
return. -/
def serverBlanks : Bytes := [0x20, 0x09, 0x0A, 0x0B, 0x0C, 0x0D]

/-- A token without the blanks at its ends. -/
def strip (token : Bytes) : Bytes :=
  (token.dropWhile (serverBlanks.contains ·)).rdropWhile (serverBlanks.contains ·)

/-- A token **reads like `NULL`** if it is the word in any small and capital letters. -/
def ReadsLikeNull (token : Bytes) : Prop :=
  List.Forall₂ (fun byte letters => byte ∈ Bytes.ascii letters) token
    [['N', 'n'], ['U', 'u'], ['L', 'l'], ['L', 'l']]

instance (token : Bytes) : Decidable (ReadsLikeNull token) :=
  inferInstanceAs (Decidable (List.Forall₂ _ _ _))

/-- The **loose rule**: blanks around a bare token are stripped, and what is left stands for itself
unless it reads like `NULL`. -/
def BareRule.loose : BareRule := fun token =>
  if ReadsLikeNull (strip token) then none else some (strip token)

/-! ### The loose rule and the writer -/

/-- The server strips what the writer takes for a blank. -/
theorem contains_serverBlanks : ∀ byte, serverBlanks.contains byte = isBlank byte := by
  decide +kernel

/-- A token without blanks is not changed. -/
theorem strip_eq_self {token : Bytes} (h : ∀ byte ∈ token, isBlank byte = false) :
    strip token = token := by
  have hplain : ∀ byte ∈ token, ¬ serverBlanks.contains byte = true := by
    intro byte hbyte
    rw [contains_serverBlanks, h byte hbyte]
    exact Bool.false_ne_true
  have hleft : token.dropWhile (serverBlanks.contains ·) = token :=
    List.dropWhile_eq_self_iff.mpr fun _ => hplain _ (List.getElem_mem _)
  rw [strip, hleft]
  exact List.rdropWhile_eq_self_iff.mpr fun hne => hplain _ (List.getLast_mem hne)

/-- What reads like `NULL` is the word in small letters once its letters have been made small. -/
theorem ReadsLikeNull.map_lower {token : Bytes} (h : ReadsLikeNull token) :
    token.map lower = nullWord.map lower := by
  have hn : ∀ byte ∈ Bytes.ascii ['N', 'n'], lower byte = lower 0x4E := by decide +kernel
  have hu : ∀ byte ∈ Bytes.ascii ['U', 'u'], lower byte = lower 0x55 := by decide +kernel
  have hl : ∀ byte ∈ Bytes.ascii ['L', 'l'], lower byte = lower 0x4C := by decide +kernel
  rcases h with _ | ⟨h₁, _ | ⟨h₂, _ | ⟨h₃, _ | ⟨h₄, _ | _⟩⟩⟩⟩
  rw [List.map_cons, List.map_cons, List.map_cons, List.map_cons, hn _ h₁, hu _ h₂, hl _ h₃,
    hl _ h₄]
  rfl

/-- **The loose rule suits the writer.** -/
theorem BareRule.suits_loose : BareRule.loose.Suits where
  null := by decide
  bare {token} h := by
    obtain ⟨-, hword, hbytes⟩ := needsQuotes_eq_false_iff.mp h
    have hstrip : strip token = token := strip_eq_self fun byte hbyte => (hbytes byte hbyte).2
    rw [loose, hstrip]
    exact if_neg fun hnull => hword hnull.map_lower

end ArrayText

/-! ### Arrays that have been dumped -/

/-- **Quoting is enough for the server.** If each value of an array is dumped to some token on its
own, the array is dumped to a text that the reader of the server takes apart into the tree of these
tokens, as the scanner does: no token loses a byte, becomes a `NULL`, or is joined with others or
cut into them. -/
theorem scanBy_loose_dumpArray {s : Session} {ctx : Context} {items : PgArray}
    {dumped : Value → Bytes × Oid}
    (h : ∀ v ∈ Element.valuesAll items, (ctx.dumpValue .text v).result s = .ok (dumped v)) :
    ∃ text type, (ctx.dumpArray .text items).result s = .ok (text, type) ∧
      ArrayText.scanBy .loose text = .ok (Element.mapAll (fun v => (dumped v).1) items) ∧
      ArrayText.scan text = .ok (Element.mapAll (fun v => (dumped v).1) items) := by
  have hdump : (ctx.dumpArray .text items).result s =
      .ok (ArrayText.write (Element.mapAll Prod.fst (Element.mapAll dumped items)),
        arrayTypeOver ((Element.valuesAll (Element.mapAll dumped items)).head?.map Prod.snd)) := by
    rw [World.result_dumpArray, dumpArrayWith, dumpText, Element.traverseAll_eq_ok items h]
    rfl
  have htokens : Element.mapAll Prod.fst (Element.mapAll dumped items) =
      Element.mapAll (fun v => (dumped v).1) items := Element.mapAll_mapAll dumped Prod.fst items
  rw [htokens] at hdump
  exact ⟨_, _, hdump, ArrayText.scanBy_write ArrayText.BareRule.suits_loose _,
    ArrayText.scan_write _⟩

/-! ### Tokens that the server would take for something else -/

/-- A session in which strings of bytes are tokens as they are. -/
def rawSession : Session where
  registries _ := Registry.empty.addDumper .blob .text
    ⟨0, "", .scalar { Blob.binaryDumper .reference with format := .text }⟩

/-- A letter between blanks, a vertical tab, two words for `NULL`, the text of an array, and no
bytes at all; beside a `NULL`, in an array with an empty one. -/
def oddTree : PgArray :=
  [.value (.blob [0x20, 0x61, 0x0D]), .null, .value (.blob [0x0B]),
    .array [.array [], .value (.blob (Bytes.ascii ['N', 'u', 'L', 'l'])),
      .value (.blob (Bytes.ascii ['N', 'U', 'L', 'L']))],
    .value (.blob [ArrayText.opening, 0x61, ArrayText.comma, 0x62, ArrayText.closing]),
    .value (.blob [])]

/-- The token that a string of bytes is dumped to, and the type that is announced. -/
def rawBytes : Value → Bytes × Oid
  | .blob bytes => (bytes, .bytea)
  | _ => default

theorem exists_blob_of_mem_oddTree {v : Value} (h : v ∈ Element.valuesAll oddTree) :
    ∃ bytes, v = .blob bytes := by
  simp only [oddTree, Element.valuesAll_value_cons, Element.valuesAll_null_cons,
    Element.valuesAll_array_cons, Element.valuesAll_nil, List.nil_append, List.cons_append,
    List.mem_cons, List.not_mem_nil, or_false] at h
  rcases h with rfl | rfl | rfl | rfl | rfl | rfl <;> exact ⟨_, rfl⟩

/-- The server sees each of these tokens as it is. -/
theorem scanBy_loose_dumpArray_oddTree :
    ∃ text type, (Context.dumpArray {} .text oddTree).result rawSession = .ok (text, type) ∧
      ArrayText.scanBy .loose text = .ok (Element.mapAll (fun v => (rawBytes v).1) oddTree) ∧
      ArrayText.scan text = .ok (Element.mapAll (fun v => (rawBytes v).1) oddTree) := by
  refine scanBy_loose_dumpArray fun v hv => ?_
  obtain ⟨bytes, rfl⟩ := exists_blob_of_mem_oddTree hv
  rw [World.result_dumpValue_scalar (by simp) rfl rfl]
  rfl

end PgAdapt
