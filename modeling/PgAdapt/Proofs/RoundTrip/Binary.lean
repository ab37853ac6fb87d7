import PgAdapt.Proofs.ArrayBinary.Codec
import PgAdapt.Proofs.Session.Alone
import PgAdapt.Scalar.Singleton
import PgAdapt.Scalar.Text

/-!
# Binary arrays come back

A box of values is dumped to a binary array, and the loader of binary arrays gives the box back,
with each value replaced by what comes back of it on its own: `PgAdapt.loadWith_dumpArray_binary`.
The array without elements is no box, but it comes back too. A message has words of four bytes for
the number of dimensions and for each of them, and the sign takes a bit of each, so a row may be too
long for any message, however short its elements are: `PgAdapt.dumpArray_binary_longRow`.

The two directions are computed separately, from `PgAdapt.dumpBinary_of_isBox` and
`PgAdapt.loadBinary_write`; they meet in the message, `PgAdapt.binaryMessage`.
-/

namespace PgAdapt

open ArrayBinary

/-- The **message** for an array of values of a type: without a value the type is text. -/
def binaryMessage (element : Oid) (bytes : Value → Bytes) (dims : List Nat) (items : PgArray) :
    Bytes :=
  write (if (Element.valuesAll items).isEmpty then .text else element) dims
    ((Element.leavesAll items).map (Option.map bytes))

/-- The header of the message: the number of dimensions, whether there is a `NULL`, and the type. -/
theorem exists_binaryMessage_eq {element : Oid} {bytes : Value → Bytes} {dims : List Nat}
    {items : PgArray} : ∃ body, binaryMessage element bytes dims items =
      word dims.length ++ (word (if (Element.leavesAll items).any Option.isNone then 1 else 0) ++
        (word (if (Element.valuesAll items).isEmpty then Oid.text else element).number.toNat ++
          body)) := by
  have hnull : none ∈ (Element.leavesAll items).map (Option.map bytes) ↔
      (Element.leavesAll items).any Option.isNone = true := by
    simp
  refine ⟨dims.flatMap dimensionWords ++
    ((Element.leavesAll items).map (Option.map bytes)).flatMap writeItem, ?_⟩
  rw [binaryMessage, write_eq]
  simp only [hnull]

/-- Arrays that have a binary form: boxes, and the array without elements. -/
def IsBoxOrEmpty (dims : List Nat) (items : PgArray) : Prop :=
  (dims = [] ∧ items = []) ∨ (0 ∉ dims ∧ IsBox dims items)

/-! ### Dumping -/

section Dump

variable {items : PgArray} {dims : List Nat} {dumped : Value → Bytes × Oid} {element : Oid}

/-- The type in the header is the type of the first value. -/
theorem elementTypeOf_leavesAll (dumped : Value → Bytes × Oid) (items : PgArray) :
    elementTypeOf ((Element.leavesAll items).map (Option.map dumped)) =
      ((Element.valuesAll items).head?.map fun v => (dumped v).2).getD .text := by
  have hvalues : ((Element.leavesAll items).map (Option.map dumped)).filterMap id =
      (Element.valuesAll items).map dumped := by
    rw [← Element.leavesAll_mapAll, ← Element.valuesAll_mapAll]
    rfl
  rw [elementTypeOf, hvalues, List.head?_map, Option.map_map]
  rfl

/-- If the values have a common type, it is the type in the header. -/
theorem elementTypeOf_map (h : ∀ v ∈ Element.valuesAll items, (dumped v).2 = element) :
    elementTypeOf ((Element.leavesAll items).map (Option.map dumped)) =
      if (Element.valuesAll items).isEmpty then .text else element := by
  rw [elementTypeOf_leavesAll]
  cases hall : Element.valuesAll items with
  | nil => rfl
  | cons v rest =>
    rw [hall] at h
    exact h v List.mem_cons_self

theorem forM_checkLength_of_not_lt {what : String} {lengths : List Nat}
    (h : ¬∀ length ∈ lengths, length < lengthLimit) :
    (lengths.forM (checkLength what) : Except AdaptError PUnit) =
      .error (.data (what ++ " too large for a binary array")) := by
  induction lengths with
  | nil => exact absurd (by simp) h
  | cons length lengths ih =>
    change (checkLength what length >>= fun _ => lengths.forM (checkLength what)) = _
    by_cases hlength : length < lengthLimit
    · rw [checkLength_of_lt hlength, pure_bind]
      exact ih fun hrest => h (List.forall_mem_cons.mpr ⟨hlength, hrest⟩)
    · rw [checkLength, if_pos (Nat.le_of_not_lt hlength)]
      rfl

/-- The lengths of the dimensions are checked before a message is made. -/
def checkedMessage (dims : List Nat) (x : Bytes × Oid) : Except AdaptError (Bytes × Oid) := do
  checkLength "dimension count" dims.length
  dims.forM (checkLength "dimension")
  return x

theorem checkedMessage_of_fits (h : Fits dims) (x : Bytes × Oid) :
    checkedMessage dims x = .ok x := by
  rw [checkedMessage, checkLength_of_lt h.1, forM_checkLength_of_lt h.2]
  rfl

/-- A dimension that does not fit is refused. -/
theorem checkedMessage_of_not_lt (hcount : dims.length < lengthLimit)
    (hdims : ¬∀ dim ∈ dims, dim < lengthLimit) (x : Bytes × Oid) :
    checkedMessage dims x = .error (.data "dimension too large for a binary array") := by
  rw [checkedMessage, checkLength_of_lt hcount, pure_bind, forM_checkLength_of_not_lt hdims]
  rfl

/-- Dimensions that do not fit are refused. -/
theorem checkedMessage_of_not_fits (h : ¬Fits dims) (x : Bytes × Oid) :
    ∃ what, checkedMessage dims x = .error (.data (what ++ " too large for a binary array")) := by
  by_cases hcount : dims.length < lengthLimit
  · exact ⟨"dimension", checkedMessage_of_not_lt hcount (fun hdims => h ⟨hcount, hdims⟩) x⟩
  · refine ⟨"dimension count", ?_⟩
    rw [checkedMessage, checkLength, if_pos (Nat.le_of_not_lt hcount)]
    rfl

variable {sc : Scope} {f : Dumpable → Action (Bytes × Oid)}

section Gives

variable (w : World sc)
  (hdump : ∀ v ∈ Element.valuesAll items, ∀ w', w ≤ w' →
    w'.Gives (f (.ofValue v)) (.ok (dumped v)))
  (hlength : ∀ v ∈ Element.valuesAll items, (dumped v).1.length < lengthLimit)

include hdump hlength

/-- A box is dumped to its leaves, one after the other, under the type of the first value. -/
theorem World.gives_dumpBinary_of_isBox (hzero : 0 ∉ dims) (hbox : IsBox dims items) :
    w.Gives (dumpBinary f (Element.mapAll Dumpable.ofValue items))
      (checkedMessage dims
        (write (elementTypeOf ((Element.leavesAll items).map (Option.map dumped))) dims
          (((Element.leavesAll items).map (Option.map dumped)).map (Option.map Prod.fst)),
        arrayTypeOver (some
          (elementTypeOf ((Element.leavesAll items).map (Option.map dumped)))))) := by
  have hleaf : ∀ leaf ∈ Element.leavesAll items, ∀ w', w ≤ w' →
      w'.Gives (dumpLeaf f (leaf.map Dumpable.ofValue)) (pure (leaf.map dumped)) := by
    rintro (_ | v) hmem w' hw'
    · exact .pure w' _
    · have hv : v ∈ Element.valuesAll items := Element.mem_valuesAll_iff.mpr hmem
      refine .bind (q := fun x => pure (some x)) (hdump v hv w' hw') fun x hx w'' _ => ?_
      cases hx
      change w''.Gives (checkLength "element" (dumped v).1.length >>= fun _ => _) _
      rw [checkLength_of_lt (hlength v hv)]
      exact .pure w'' _
  have hleaves := Gives.mapM _ w hleaf
  rw [List.mapM_pure] at hleaves
  rw [dumpBinary_of_isBox f hzero (hbox.mapAll _), Element.leavesAll_mapAll, List.mapM_map]
  refine hleaves.bind (q := fun x => checkedMessage dims (write (elementTypeOf x) dims
    (x.map (Option.map Prod.fst)), arrayTypeOver (some (elementTypeOf x)))) fun x _ w' _ => ?_
  refine .bind (.checkLength w' _ _) fun _ _ w'' _ => ?_
  refine .bind (.forM dims w'' fun dim _ w' _ => .checkLength w' _ dim) fun _ _ w₄ _ => ?_
  exact .pure w₄ _

/-- A box of values of one type is dumped to the message for it, if its dimensions fit. -/
theorem World.gives_dumpBinary (hshape : IsBoxOrEmpty dims items)
    (helement : ∀ v ∈ Element.valuesAll items, (dumped v).2 = element) :
    w.Gives (dumpBinary f (Element.mapAll Dumpable.ofValue items))
      (checkedMessage dims (binaryMessage element (fun v => (dumped v).1) dims items,
        arrayTypeOver (some (if (Element.valuesAll items).isEmpty then .text else element)))) := by
  rcases hshape with ⟨rfl, rfl⟩ | ⟨hzero, hbox⟩
  · exact .pure w _
  · have hbytes : (Element.leavesAll items).map (Option.map fun v => (dumped v).1) =
        ((Element.leavesAll items).map (Option.map dumped)).map (Option.map Prod.fst) := by
      rw [List.map_map, Option.map_comp_map]
      rfl
    rw [binaryMessage, ← elementTypeOf_map helement, hbytes]
    exact gives_dumpBinary_of_isBox w hdump hlength hzero hbox

end Gives

end Dump

/-! ### Loading -/

section Load

variable {items : PgArray} {dims : List Nat} {bytes : Value → Bytes} {loaded : Value → Value}
  {element : Oid} {sc : Scope} {factory : LoaderFactory}

/-- The message without elements is loaded without any loader for elements. -/
theorem World.gives_load_empty (w : World sc) {oid : Oid} {l : Loader}
    (hl : BuiltLoader sc w.live oid .arrayBinary l) :
    w.Gives (l.load (binaryMessage element bytes [] [])) (.ok (.array [])) := by
  cases hl with
  | arrayBinary id helements =>
    simp only [Loader.load, Loader.loadWithin_eq]
    exact .pure w _

/-- **A box is loaded from its message.** -/
theorem World.gives_load_box (hfits : Fits dims) (hzero : 0 ∉ dims) (hbox : IsBox dims items)
    (hlength : ∀ v ∈ Element.valuesAll items, (bytes v).length < lengthLimit)
    (hfactory : sc.registry.loader?
      (if (Element.valuesAll items).isEmpty then .text else element) .binary = some factory)
    (hload : ∀ v ∈ Element.valuesAll items, ∀ (w : World sc) (oid : Oid) (l : Loader),
      BuiltLoader sc w.live oid factory.recipe l → w.Gives (l.load (bytes v)) (.ok (loaded v)))
    (w : World sc) {oid : Oid} {l : Loader} (hl : BuiltLoader sc w.live oid .arrayBinary l) :
    w.Gives (l.load (binaryMessage element bytes dims items))
      (.ok (.array (Element.mapAll loaded items))) := by
  have hleaves : ∀ data, some data ∈ (Element.leavesAll items).map (Option.map bytes) →
      data.length < lengthLimit := by
    intro data hdata
    obtain ⟨v, hv, rfl⟩ : ∃ v, some v ∈ Element.leavesAll items ∧ bytes v = data := by
      simpa using hdata
    exact hlength v (Element.mem_valuesAll_iff.mpr hv)
  have hcount : dims ≠ [] → dims.foldl (· * ·) 1 =
      ((Element.leavesAll items).map (Option.map bytes)).length := by
    intro _
    rw [List.length_map, hbox.length_leavesAll]
  have hne : dims.isEmpty = false := by
    cases dims with
    | nil => exact absurd hbox (by simp [IsBox])
    | cons dim dims => rfl
  cases hl with
  | @arrayBinary id elements helements =>
    simp only [Loader.load, Loader.loadWithin_eq]
    -- The loader that is found takes all the values, because they are shorter than the message.
    have hfound : w.Makes (do
        return Loader.loadPart Loader.chainLimit (binaryMessage element bytes dims items)
          (← Transformer.loaderFor elements
            (if (Element.valuesAll items).isEmpty then .text else element) .binary))
        fun w' load => ∀ leaf ∈ Element.leavesAll items, ∀ w'', w' ≤ w'' →
          w''.Gives (loadLeaf load (leaf.map bytes)) (pure (leaf.map loaded)) := by
      refine (makes_loaderFor w helements hfactory).bind fun w' l _ hl => .pure ?_
      rintro (_ | v) hmem w'' hw''
      · exact .pure w'' _
      · have hshort : (bytes v).length < (binaryMessage element bytes dims items).length :=
          length_lt_length_write _ _ (List.mem_map.mpr ⟨some v, hmem, rfl⟩)
        have hv := hload v (Element.mem_valuesAll_iff.mpr hmem) w'' _ l (hl.mono hw'')
        rw [Option.map_some, loadLeaf, Loader.loadPart, if_pos hshort]
        exact .bind (q := fun x => pure (some x)) hv fun _ _ _ _ => .pure _ _
    refine .bind (r := .ok (Element.mapAll loaded items)) (q := fun x => pure (Value.array x))
      ?_ fun _ _ _ _ => .pure _ _
    rw [binaryMessage, loadBinary_write _ _ hfits hzero hcount hleaves, hne]
    refine hfound.gives_bind fun w' load _ hload' => ?_
    have hall := Gives.mapM _ w' hload'
    rw [List.mapM_pure, ← Element.leavesAll_mapAll] at hall
    rw [List.mapM_map, ← arrange_leavesAll (hbox.mapAll loaded)]
    exact .bind (q := fun x => pure (arrange dims x)) hall fun _ _ _ _ => .pure _ _

end Load

/-! ### Both directions -/

section Both

variable {s : Session} {ctx : Context} {items : PgArray} {dims : List Nat} {element : Oid}
  {dumped : Value → Bytes × Oid} {loaded : Value → Value}
  (halone : SurviveAlone s ctx .binary element items dumped loaded)

include halone

theorem World.gives_dumpArray_binary (hshape : IsBoxOrEmpty dims items)
    (htype : ∀ v ∈ Element.valuesAll items, (dumped v).2 = element)
    (hlength : ∀ v ∈ Element.valuesAll items, (dumped v).1.length < lengthLimit)
    (w : World (s.scope ctx)) :
    w.Gives (ctx.dumpArray .binary items)
      (checkedMessage dims (binaryMessage element (fun v => (dumped v).1) dims items,
        arrayTypeOver (some (if (Element.valuesAll items).isEmpty then .text else element)))) := by
  refine gives_dumpArray (fun w' elements helements => ?_) w
  refine gives_dumpBinary w' (fun v hv w'' hw'' => ?_) hlength hshape htype
  exact gives_dumpVia_of_dumpValue (halone.dump v hv) w'' (hw'' helements)

theorem World.gives_loadWith_binary (hshape : IsBoxOrEmpty dims items) (hfits : Fits dims)
    (hlength : ∀ v ∈ Element.valuesAll items, (dumped v).1.length < lengthLimit)
    (hloader : items ≠ [] → ((s.registries ctx.registry).loader?
      (if (Element.valuesAll items).isEmpty then .text else element) .binary).isSome)
    {factory : LoaderFactory} (hfactory : factory.recipe = .arrayBinary) (array : Oid)
    (w : World (s.scope ctx)) :
    w.Gives (ctx.loadWith factory array (binaryMessage element (fun v => (dumped v).1) dims items))
      (.ok (.array (Element.mapAll loaded items))) := by
  refine gives_loadWith (fun w' l hl => ?_) w
  rw [hfactory] at hl
  rcases hshape with ⟨rfl, rfl⟩ | ⟨hzero, hbox⟩
  · exact gives_load_empty w' hl
  have hne : items ≠ [] := by
    rintro rfl
    cases dimensions_of_isBox hzero hbox
  obtain ⟨maker, hmaker⟩ := Option.isSome_iff_exists.mp (hloader hne)
  refine gives_load_box hfits hzero hbox hlength hmaker (fun v hv => ?_) w' hl
  obtain ⟨maker', hmaker', hgives⟩ := exists_factory_of_loadValue (halone.load v hv)
  have hsome : (Element.valuesAll items).isEmpty = false := by
    cases hall : Element.valuesAll items with
    | nil => rw [hall] at hv; cases hv
    | cons _ _ => rfl
  rw [hsome] at hmaker
  obtain rfl : maker' = maker := Option.some.inj (hmaker'.symm.trans hmaker)
  exact hgives

/-- **Binary arrays come back.** An array without elements, or a box of values each of which
survives on its own, under one type, is dumped to a message that says how many dimensions there are,
whether there is a `NULL`, and which type the values have, or text if there are none. A loader of
binary arrays gives the array back, each value replaced by what comes back of it on its own; it may
be made for any type and used in any session that looks the same from the context, such as the one
that the dumper leaves. The dimensions have to fit into the words for them. -/
theorem loadWith_dumpArray_binary (hshape : IsBoxOrEmpty dims items) (hfits : Fits dims)
    (htype : ∀ v ∈ Element.valuesAll items, (dumped v).2 = element)
    (hlength : ∀ v ∈ Element.valuesAll items, (dumped v).1.length < lengthLimit)
    (hloader : items ≠ [] → ((s.registries ctx.registry).loader?
      (if (Element.valuesAll items).isEmpty then .text else element) .binary).isSome)
    {factory : LoaderFactory} (hfactory : factory.recipe = .arrayBinary) (array : Oid) :
    ∃ message type, (ctx.dumpArray .binary items).result s = .ok (message, type) ∧
      (∃ body, message = word dims.length ++
        (word (if (Element.leavesAll items).any Option.isNone then 1 else 0) ++
          (word (if (Element.valuesAll items).isEmpty then Oid.text else element).number.toNat ++
            body))) ∧
      ((ctx.dumpArray .binary items).after s).scope ctx = s.scope ctx ∧
      ∀ s' : Session, s'.scope ctx = s.scope ctx →
        (ctx.loadWith factory array message).result s' =
          .ok (.array (Element.mapAll loaded items)) := by
  have hdumped := World.gives_dumpArray_binary halone hshape htype hlength (.start s rfl)
  rw [checkedMessage_of_fits hfits] at hdumped
  refine ⟨_, _, hdumped.result_eq, exists_binaryMessage_eq, hdumped.scope_after, fun s' hs' => ?_⟩
  exact (World.gives_loadWith_binary halone hshape hfits hlength hloader hfactory array
    (.start s' hs')).result_eq

end Both

/-! ### Two rows of truth values -/

section Truth

/-- A session in which nothing but truth values can be dumped and loaded. -/
def truthSession : Session where
  registries _ := (Registry.empty.addDumper .bool .binary
    ⟨0, "", .scalar (Singleton.boolBinaryDumper .reference)⟩).addLoader .bool .binary
      ⟨1, "", .scalar (Singleton.boolBinaryLoader .reference)⟩

/-- Two rows of truth values, one of them with a `NULL`. -/
def truthTable : PgArray :=
  [.array [.value (.bool true), .null], .array [.value (.bool false), .value (.bool true)]]

/-- The byte for a truth value, and its type. -/
def truthByte : Value → Bytes × Oid
  | .bool b => ([if b then 1 else 0], .bool)
  | _ => ([], .bool)

theorem exists_bool_of_mem_truthTable {v : Value} (h : v ∈ Element.valuesAll truthTable) :
    ∃ b, v = .bool b := by
  simp only [truthTable, Element.valuesAll_array_cons, Element.valuesAll_value_cons,
    Element.valuesAll_null_cons, Element.valuesAll_nil, List.mem_append, List.mem_cons] at h
  rcases h with (rfl | h) | (rfl | rfl | h) | h
  all_goals first | exact ⟨_, rfl⟩ | cases h

theorem surviveAlone_truthTable :
    SurviveAlone truthSession {} .binary .bool truthTable truthByte id where
  dump v hv := by
    obtain ⟨b, rfl⟩ := exists_bool_of_mem_truthTable hv
    rw [World.result_dumpValue_scalar (by simp) rfl rfl]
    rfl
  load v hv := by
    obtain ⟨b, rfl⟩ := exists_bool_of_mem_truthTable hv
    rw [World.result_loadValue_scalar rfl rfl]
    cases b <;> rfl

/-- Two rows come back in the session that the dumper leaves. -/
theorem loadWith_dumpArray_binary_truthTable :
    IsBoxOrEmpty [2, 2] truthTable ∧ Fits [2, 2] ∧
      ∃ message type, (Context.dumpArray {} .binary truthTable).result truthSession =
          .ok (message, type) ∧
        (Context.loadWith {} ⟨2, "", .arrayBinary⟩ ⟨1000⟩ message).result
            ((Context.dumpArray {} .binary truthTable).after truthSession) =
          .ok (.array (Element.mapAll id truthTable)) := by
  have hshape : IsBoxOrEmpty [2, 2] truthTable := by
    simp [IsBoxOrEmpty, IsBox, truthTable, Element.array?]
  have hfits : Fits [2, 2] := by simp [Fits, lengthLimit]
  have htype : ∀ v ∈ Element.valuesAll truthTable, (truthByte v).2 = .bool := by
    intro v hv
    obtain ⟨b, rfl⟩ := exists_bool_of_mem_truthTable hv
    rfl
  have hlength : ∀ v ∈ Element.valuesAll truthTable, (truthByte v).1.length < lengthLimit := by
    intro v hv
    obtain ⟨b, rfl⟩ := exists_bool_of_mem_truthTable hv
    cases b <;> decide
  have hrecipe : (⟨2, "", .arrayBinary⟩ : LoaderFactory).recipe = .arrayBinary := rfl
  obtain ⟨message, type, hdump, -, hscope, hload⟩ :=
    loadWith_dumpArray_binary surviveAlone_truthTable hshape hfits htype hlength (fun _ => rfl)
      hrecipe ⟨1000⟩
  exact ⟨hshape, hfits, message, type, hdump, hload _ hscope⟩

end Truth

/-! ### A row that is too long -/

section Long

/-- A session in which nothing but texts can be loaded. -/
def textSession : Session where
  registries _ := Registry.empty.addLoader .text .binary
    ⟨0, "", .scalar (Text.loader .reference .binary)⟩

/-- A row of `NULL`s, one more than a word for a dimension can count. -/
def longRow : PgArray := List.replicate lengthLimit .null

theorem isBox_replicate_null (n : Nat) : IsBox [n] (List.replicate n .null : PgArray) := by
  refine ⟨List.length_replicate, fun item hitem => ?_⟩
  rw [List.eq_of_mem_replicate hitem]
  rfl

theorem valuesAll_replicate_null (n : Nat) :
    Element.valuesAll (List.replicate n .null : PgArray) = [] := by
  induction n with
  | zero => rfl
  | succ n ih => rw [List.replicate_succ, Element.valuesAll_null_cons, ih]

/-- **A row may be too long for a message.** The long row is a box without values, so all of its
values survive on their own, in whatever way they are dumped and loaded, and there is a loader for
the type that its message would have; but it is not dumped. -/
theorem dumpArray_binary_longRow :
    IsBoxOrEmpty [lengthLimit] longRow ∧
      (∀ element dumped loaded,
        SurviveAlone textSession {} .binary element longRow dumped loaded) ∧
      Element.valuesAll longRow = [] ∧
      ((textSession.registries (Context.registry {})).loader? .text .binary).isSome ∧
      (Context.dumpArray {} .binary longRow).result textSession =
        .error (.data "dimension too large for a binary array") := by
  have hvalues : Element.valuesAll longRow = [] := valuesAll_replicate_null lengthLimit
  have hnone {p : Value → Prop} : ∀ v ∈ Element.valuesAll longRow, p v := by
    rw [hvalues]
    exact List.forall_mem_nil p
  have hshape : IsBoxOrEmpty [lengthLimit] longRow :=
    .inr ⟨by decide, isBox_replicate_null lengthLimit⟩
  have halone (element dumped loaded) :
      SurviveAlone textSession {} .binary element longRow dumped loaded := ⟨hnone, hnone⟩
  refine ⟨hshape, halone, hvalues, rfl, ?_⟩
  have hdumped := World.gives_dumpArray_binary (halone .text (fun _ => ([], .text)) id) hshape
    hnone hnone (.start textSession rfl)
  rw [checkedMessage_of_not_lt (by decide) (by decide)] at hdumped
  exact hdumped.result_eq

end Long

end PgAdapt
