import PgAdapt.Proofs.Action
import PgAdapt.Proofs.Scalar.Codecs

/-!
# Codecs of both catalogues that look alike

The catalogues have codecs for the same types, and each of them has a name of its own, which it
puts into its complaints. Apart from that two codecs for one type **look alike** in most cases,
`PgAdapt.ScalarDumper.Alike` and `PgAdapt.ScalarLoader.Alike`: they take the same values or bytes
and make the same of them.

Where the catalogues go different ways, that rests on what has been shown for single values: the
ways end at the same bytes or at the same value. There is one exception, a digit without a partner.
Both catalogues refuse it, but not in the same words (`PgAdapt.Blob.fromText_alike`). Numbers in
binary form, the byte of a truth value on its way back, bytes as they are and the literal of `NULL`
leave no choice, and there only the names differ. Left out are the loaders of numbers in text and
the dumpers of floating-point numbers in text, which do not all look alike.
-/

namespace PgAdapt

/-- Dumpers of single values that **look alike**. -/
structure ScalarDumper.Alike (d d' : ScalarDumper) : Prop where
  format : d.format = d'.format
  oid : d.oid = d'.oid
  dump : ∀ v, PgAdapt.Alike (d.dump v) (d'.dump v)
  literal : Option.Rel (fun f g => ∀ v, PgAdapt.Alike (f v) (g v)) d.literal d'.literal

/-- Loaders of single values that **look alike**. -/
structure ScalarLoader.Alike (l l' : ScalarLoader) : Prop where
  format : l.format = l'.format
  load : ∀ data, PgAdapt.Alike (l.load data) (l'.load data)

variable (c c' : Catalogue)

namespace IntType

variable (t : IntType)

theorem wordOf_alike (codec codec' : String) (v : Value) :
    Alike (t.wordOf codec v) (t.wordOf codec' v) := by
  rw [wordOf, wordOf]
  rcases v.int? t with _ | word
  · exact .error rfl
  · exact .refl _

theorem textDumper_alike : (t.textDumper c).Alike (t.textDumper c') where
  format := rfl
  oid := rfl
  dump v := (t.wordOf_alike _ _ v).map fun word => by rw [textWriter_eq, textWriter_eq]
  literal := .none

theorem binaryDumper_alike : (t.binaryDumper c).Alike (t.binaryDumper c') where
  format := rfl
  oid := rfl
  dump v := (t.wordOf_alike _ _ v).map fun _ => rfl
  literal := .none

theorem binaryLoader_alike : (t.binaryLoader c).Alike (t.binaryLoader c') where
  format := rfl
  load _ := .refl _

end IntType

namespace FloatType

variable (t : FloatType)

theorem wordOf_alike (codec codec' : String) (v : Value) :
    Alike (t.wordOf codec v) (t.wordOf codec' v) := by
  rw [wordOf, wordOf]
  rcases v.float? t with _ | word
  · exact .error rfl
  · exact .refl _

theorem binaryDumper_alike : (t.binaryDumper c).Alike (t.binaryDumper c') where
  format := rfl
  oid := rfl
  dump v := (t.wordOf_alike _ _ v).map fun _ => rfl
  literal := .none

theorem binaryLoader_alike : (t.binaryLoader c).Alike (t.binaryLoader c') where
  format := rfl
  load _ := .refl _

end FloatType

namespace Singleton

theorem boolOf_alike (codec codec' : String) (v : Value) :
    Alike (boolOf codec v) (boolOf codec' v) := by
  rcases v with b | _ | _ | _ | _ | _ | _ | _ | _
  · exact .refl _
  all_goals exact .error rfl

theorem boolTextDumper_alike : (boolTextDumper c).Alike (boolTextDumper c') where
  format := rfl
  oid := rfl
  dump v := (boolOf_alike _ _ v).map fun b => by rw [letter_eq, letter_eq]
  literal := .some fun v => (boolOf_alike _ _ v).map fun b => by rw [word_eq, word_eq]

theorem boolBinaryDumper_alike : (boolBinaryDumper c).Alike (boolBinaryDumper c') where
  format := rfl
  oid := rfl
  dump v := (boolOf_alike _ _ v).map fun b => by rw [flag_eq, flag_eq]
  literal := .none

theorem nullDumper_alike : (nullDumper c).Alike (nullDumper c') where
  format := rfl
  oid := rfl
  dump v := .error rfl
  literal := by
    refine .some fun v => ?_
    rcases v with _ | _ | _ | _ | _ | _ | _ | _ | _
    case null => exact .refl _
    all_goals exact .error rfl

theorem boolTextLoader_alike : (boolTextLoader c).Alike (boolTextLoader c') where
  format := rfl
  load data := by
    simp only [boolTextLoader, ofLetter?_eq]
    exact .refl _

theorem boolBinaryLoader_alike : (boolBinaryLoader c).Alike (boolBinaryLoader c') where
  format := rfl
  load _ := .refl _

end Singleton

namespace Text

/-- The character zero is found by both catalogues, if in different ways. -/
theorem dump_alike (codec codec' : String) (v : Value) :
    Alike (dump c codec v) (dump c' codec' v) := by
  have hzero (s : String) : hasZero c s = hasZero c' s := by
    rw [Bool.eq_iff_iff, hasZero_iff, hasZero_iff]
  rw [dump, dump]
  rcases v.text? with _ | s
  · exact .error rfl
  · simp only [hzero s]
    exact .refl _

theorem textDumper_alike : (textDumper c).Alike (textDumper c') where
  format := rfl
  oid := rfl
  dump v := dump_alike c c' _ _ v
  literal := .none

theorem binaryDumper_alike : (binaryDumper c).Alike (binaryDumper c') where
  format := rfl
  oid := rfl
  dump v := dump_alike c c' _ _ v
  literal := .none

theorem loader_alike (format : Format) : (loader c format).Alike (loader c' format) where
  format := rfl
  load data := by
    simp only [loader, read_eq]
    exact .refl _

end Text

namespace Blob

theorem bytesOf_alike (codec codec' : String) (v : Value) :
    Alike (bytesOf codec v) (bytesOf codec' v) := by
  rw [bytesOf, bytesOf]
  rcases v.blob? with _ | bytes
  · exact .error rfl
  · exact .refl _

theorem textDumper_alike : (textDumper c).Alike (textDumper c') where
  format := rfl
  oid := rfl
  dump v := (bytesOf_alike _ _ v).bind fun bytes => by
    rw [hexText_eq, hexText_eq]
    exact .refl _
  literal := .none

theorem binaryDumper_alike : (binaryDumper c).Alike (binaryDumper c') where
  format := rfl
  oid := rfl
  dump v := by
    simp only [binaryDumper, content_eq]
    exact bytesOf_alike _ _ v
  literal := .none

/-- Digits in pairs are decoded in one way, and a digit without a partner is refused in two. -/
theorem fromText_alike (data : Bytes) : Alike (fromText c data) (fromText c' data) := by
  rw [fromText, fromText]
  split_ifs
  · by_cases heven : (data.drop hexMark.length).length % 2 = 0
    · rw [fromHex_of_even c heven, fromHex_of_even c' heven]
      exact .refl _
    · obtain ⟨message, h⟩ := exists_fromHex_eq_error c heven
      obtain ⟨message', h'⟩ := exists_fromHex_eq_error c' heven
      rw [h, h']
      exact .error rfl
  · exact .refl _

theorem textLoader_alike : (textLoader c).Alike (textLoader c') where
  format := rfl
  load data := (fromText_alike c c' data).map fun _ => rfl

theorem binaryLoader_alike : (binaryLoader c).Alike (binaryLoader c') where
  format := rfl
  load _ := .refl _

end Blob

end PgAdapt
