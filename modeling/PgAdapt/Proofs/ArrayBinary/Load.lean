import PgAdapt.Proofs.RoundTrip.Binary

/-!
# Loading binary arrays in a session

What the loader of binary arrays makes of any data in any session (`PgAdapt.loadWith_arrayBinary`),
and which part of the data it never looks at (`PgAdapt.loadWith_arrayBinary_surplus`).
-/

namespace PgAdapt

/-! ## What the loader of binary arrays gives in a registry

`PgAdapt.loadBinary_eq_ok_iff` says what a binary array means, given a function that finds the
loader for a type of elements. In a session that function is `PgAdapt.Context.elementLoader`: if
there is a maker in the registry, an element is loaded as on its own. So
`PgAdapt.loadWith_arrayBinary` describes the loader of binary arrays in any session: which messages
it takes, what it makes of them, and that the array has a shape that can be written again.
-/

open ArrayBinary

/-- The **loader of the elements** of binary arrays in a session: what comes of an element on its
own, if anything is registered for its type. -/
def Context.elementLoader (ctx : Context) (s : Session) (oid : Oid) :
    Except AdaptError (Bytes → Except AdaptError Value) :=
  match (s.registries ctx.registry).loader? oid .binary with
  | none => .error (.loaderNotFound oid .binary)
  | some _ => .ok fun part => (ctx.loadValue oid .binary part).result s

/-! ### Elements are shorter than the message -/

/-- A search for loaders that may do anything else with bytes that are not shorter than given. -/
def below {β : Type} (length : Nat) (other : Oid → Bytes → Except AdaptError β)
    (loaderFor : Oid → Except AdaptError (Bytes → Except AdaptError β)) (oid : Oid) :
    Except AdaptError (Bytes → Except AdaptError β) :=
  (loaderFor oid).map fun load part => if part.length < length then load part else other oid part

theorem forall₂_iff_of_mem {α β : Type} {r q : α → β → Prop} {l : List α} {l' : List β}
    (h : ∀ a ∈ l, ∀ b, r a b ↔ q a b) : List.Forall₂ r l l' ↔ List.Forall₂ q l l' := by
  simp only [List.forall₂_iff_zip]
  refine and_congr_right fun _ => forall₂_congr fun a b => ?_
  exact forall_congr' fun hab => h a (List.of_mem_zip hab).1 b

/-- The meaning of a message depends only on what becomes of bytes that are shorter than it. -/
theorem ArrayBinary.Message.denotes_below_iff {β : Type} {m : Message} {length : Nat}
    (h : m.bytes.length ≤ length) {other : Oid → Bytes → Except AdaptError β}
    {loaderFor : Oid → Except AdaptError (Bytes → Except AdaptError β)}
    {array : List (Element β)} :
    m.Denotes (below length other loaderFor) array ↔ m.Denotes loaderFor array := by
  have hitems (load : Bytes → Except AdaptError β) : ∀ item ∈ m.items, ∀ leaf : Option β,
      Option.Rel (fun part b =>
        (if part.length < length then load part else other m.element part) = .ok b) item leaf ↔
      Option.Rel (fun part b => load part = .ok b) item leaf := by
    rintro (_ | part) hmem leaf
    · constructor
      · rintro ⟨⟩
        exact .none
      · rintro ⟨⟩
        exact .none
    · have hshort : part.length < length := (Message.length_lt_length_bytes hmem).trans_le h
      constructor
      · rintro (hb | _)
        rw [if_pos hshort] at hb
        exact .some hb
      · rintro (hb | _)
        exact .some ((if_pos hshort).trans hb)
  constructor
  · rintro (hnil | ⟨hne, hfound, hbox, hall⟩)
    · exact .empty hnil
    · obtain ⟨load, hload, rfl⟩ := map_eq_ok_iff.mp hfound
      exact .box hne hload hbox ((forall₂_iff_of_mem (hitems load)).mp hall)
  · rintro (hnil | ⟨hne, hfound, hbox, hall⟩)
    · exact .empty hnil
    · exact .box hne (map_eq_ok_iff.mpr ⟨_, hfound, rfl⟩) hbox
        ((forall₂_iff_of_mem (hitems _)).mpr hall)

namespace World

variable {s : Session} {ctx : Context}

/-- **What a search finds** for the elements of binary data: a loader that loads what is shorter
than the data as on its own. -/
theorem exists_finds_below (s : Session) (ctx : Context) (data : Bytes) :
    ∃ other : Oid → Bytes → Except AdaptError Value,
      ∀ (oid : Oid) (w : World (s.scope ctx)) (id : TransformerId), id ∈ w.live →
        w.Finds (do
          return Loader.loadPart Loader.chainLimit data
            (← Transformer.loaderFor id oid .binary))
          (below data.length other (ctx.elementLoader s) oid) := by
  have hfound (oid : Oid) : ∃ other : Bytes → Except AdaptError Value,
      ∀ (w : World (s.scope ctx)) (id : TransformerId), id ∈ w.live →
        w.Finds (do
          return Loader.loadPart Loader.chainLimit data
            (← Transformer.loaderFor id oid .binary))
          (below data.length (fun _ => other) (ctx.elementLoader s) oid) := by
    cases hfactory : (s.scope ctx).registry.loader? oid .binary with
    | none =>
      refine ⟨fun _ => throw Loader.circle, fun w id hid => ?_⟩
      have helement : ctx.elementLoader s oid = .error (.loaderNotFound oid .binary) := by
        rw [Context.elementLoader, show (s.registries ctx.registry).loader? oid .binary = none
          from hfactory]
      rw [below, helement]
      exact (gives_loaderFor_of_none w hid hfactory).bind_error _
    | some factory =>
      choose other hother using determinesLoad_loadPart Loader.chainLimit data factory.recipe
      refine ⟨other, fun w id hid => ?_⟩
      have helement : ctx.elementLoader s oid =
          .ok fun part => (ctx.loadValue oid .binary part).result s := by
        rw [Context.elementLoader, show (s.registries ctx.registry).loader? oid .binary =
          some factory from hfactory]
      rw [below, helement]
      refine (makes_loaderFor w hid hfactory).bind fun w' l _ hl => .pure fun part w'' hw'' => ?_
      by_cases hshort : part.length < data.length
      · simp only [Loader.loadPart, if_pos hshort]
        exact gives_load_of_loader? hfactory part w'' (hl.mono hw'')
      · simp only [if_neg hshort]
        exact hother part w'' oid l (hl.mono hw'')
  choose other hother using hfound
  exact ⟨other, fun oid w id hid => hother oid w id hid⟩

/-- What a loader of binary arrays gives is what the function on messages gives. -/
theorem exists_gives_loadWith_arrayBinary (id : Nat) (name : String) (oid : Oid) (data : Bytes)
    (w : World (s.scope ctx)) :
    ∃ other : Oid → Bytes → Except AdaptError Value,
      w.Gives (ctx.loadWith ⟨id, name, .arrayBinary⟩ oid data) (do
        return .array (← loadBinary (below data.length other (ctx.elementLoader s)) data)) := by
  obtain ⟨other, hother⟩ := exists_finds_below s ctx data
  refine ⟨other, gives_loadWith (fun w' l hl => ?_) w⟩
  cases hl with
  | @arrayBinary _ elements helements =>
    rw [Loader.load, Loader.loadWithin_eq]
    refine .bind (.loadBinary (fun oid w'' hw'' => ?_) data) fun _ _ _ _ => .pure _ _
    exact hother oid w'' elements (hw'' helements)

end World

/-! ### Dumping what has been loaded -/

/-- What a message denotes is a box or has no elements. -/
theorem ArrayBinary.Message.Denotes.isBoxOrEmpty {m : Message}
    {loaderFor : Oid → Except AdaptError (Bytes → Except AdaptError Value)} {array : PgArray}
    (h : m.Denotes loaderFor array) : IsBoxOrEmpty m.dims array := by
  rcases h with hnil | ⟨-, -, hbox, -⟩
  · exact .inl ⟨Message.dims_eq_nil_iff.mpr hnil, rfl⟩
  · exact .inr ⟨m.zero_notMem, hbox⟩

/-- A box whose dimensions fit is dumped wherever each of its values is. -/
theorem World.exists_dumpArray_eq_ok {s : Session} {ctx : Context} {dims : List Nat}
    {array : PgArray} (hshape : IsBoxOrEmpty dims array) (hfits : Fits dims)
    (hdump : ∀ v ∈ Element.valuesAll array, ∃ x : Bytes × Oid,
      (ctx.dumpValue .binary v).result s = .ok x ∧ x.1.length < lengthLimit) :
    ∃ x, (ctx.dumpArray .binary array).result s = .ok x := by
  choose! dumped hdumped hlength using hdump
  have hgives {x : Bytes × Oid} (h : ∀ (w : World (s.scope ctx)) (elements : TransformerId),
      elements ∈ w.live → w.Gives (dumpBinary (Dumpable.dumpVia elements .binary)
        (Element.mapAll Dumpable.ofValue array)) (.ok x)) :
      ∃ x, (ctx.dumpArray .binary array).result s = .ok x :=
    ⟨x, (gives_dumpArray h (.start s rfl : World (s.scope ctx))).result_eq⟩
  rcases hshape with ⟨rfl, rfl⟩ | ⟨hzero, hbox⟩
  · exact hgives (x := (write .text [] [], .textArray)) fun w _ _ => .pure w _
  · have hmessage (w : World (s.scope ctx)) {elements : TransformerId}
        (helements : elements ∈ w.live) :=
      gives_dumpBinary_of_isBox w (fun v hv w' hw' =>
        gives_dumpVia_of_dumpValue (hdumped v hv) w' (hw' helements)) hlength hzero hbox
    simp only [checkedMessage_of_fits hfits] at hmessage
    exact hgives fun w _ helements => hmessage w helements

/-! ### The loader -/

section Loader

variable (s : Session) (ctx : Context) (id : Nat) (name : String) (oid : Oid) (data : Bytes)

/-- **The messages that the loader of binary arrays takes**, in any session. -/
theorem result_loadWith_arrayBinary_eq_ok_iff (v : Value) :
    (ctx.loadWith ⟨id, name, .arrayBinary⟩ oid data).result s = .ok v ↔
      ∃ (m : Message) (rest : Bytes) (array : PgArray), data = m.bytes ++ rest ∧
        v = .array array ∧ m.Denotes (ctx.elementLoader s) array := by
  obtain ⟨other, hgives⟩ :=
    World.exists_gives_loadWith_arrayBinary id name oid data (.start s rfl : World (s.scope ctx))
  have hshort {m : Message} {rest : Bytes} (h : data = m.bytes ++ rest) :
      m.bytes.length ≤ data.length := by
    rw [h, List.length_append]
    exact Nat.le_add_right _ _
  rw [show (ctx.loadWith ⟨id, name, .arrayBinary⟩ oid data).result s = _ from hgives.result_eq,
    bind_eq_ok_iff]
  constructor
  · rintro ⟨array, hload, h⟩
    cases h
    obtain ⟨m, rest, hdata, hm⟩ := loadBinary_eq_ok_iff.mp hload
    exact ⟨m, rest, array, hdata, rfl, (Message.denotes_below_iff (hshort hdata)).mp hm⟩
  · rintro ⟨m, rest, array, hdata, rfl, hm⟩
    refine ⟨array, loadBinary_eq_ok_iff.mpr ⟨m, rest, hdata, ?_⟩, rfl⟩
    exact (Message.denotes_below_iff (hshort hdata)).mpr hm

/-- **The loader of binary arrays**, made for any type, in any session and with any registry. What
it takes starts with a message: a header with the type of the elements and with dimensions none of
which is empty, any flags and lower bounds, and as many elements as the dimensions announce. What
it gives is an array of exactly these dimensions, whose leaves are, row by row, `NULL` or what the
loader that is registered for the type of the elements gives for the bytes of the element on its
own; without dimensions it is the empty array, and no loader is needed. There are never more
elements than the bytes behind the header can hold, and the array passes all checks that the dumper
of binary arrays makes of its shape: it is dumped wherever each of its values is, to bytes that fit
into a message. Conversely, every message whose elements can be loaded is taken. -/
theorem loadWith_arrayBinary :
    (∀ v, (ctx.loadWith ⟨id, name, .arrayBinary⟩ oid data).result s = .ok v →
      ∃ (m : Message) (rest : Bytes) (array : PgArray), data = m.bytes ++ rest ∧
        v = .array array ∧ m.Denotes (ctx.elementLoader s) array ∧
        (m.dims ≠ [] → m.dims.foldl (· * ·) 1 ≤ (data.length - 12 - 8 * m.dims.length) / 4) ∧
        HasShape array ∧
        ∀ (s' : Session) (ctx' : Context), (∀ v ∈ Element.valuesAll array, ∃ x : Bytes × Oid,
            (ctx'.dumpValue .binary v).result s' = .ok x ∧ x.1.length < lengthLimit) →
          ∃ x, (ctx'.dumpArray .binary array).result s' = .ok x) ∧
    ∀ (m : Message) (rest : Bytes) (array : PgArray), data = m.bytes ++ rest →
      m.Denotes (ctx.elementLoader s) array →
        (ctx.loadWith ⟨id, name, .arrayBinary⟩ oid data).result s = .ok (.array array) := by
  refine ⟨fun v hv => ?_, fun m rest array hdata hm => ?_⟩
  · obtain ⟨m, rest, array, hdata, hv, hm⟩ :=
      (result_loadWith_arrayBinary_eq_ok_iff s ctx id name oid data v).mp hv
    refine ⟨m, rest, array, hdata, hv, hm, fun hdims => ?_, hm.hasShape, fun s' ctx' hdump =>
      World.exists_dumpArray_eq_ok hm.isBoxOrEmpty m.fits hdump⟩
    rw [hdata]
    exact Message.foldl_dims_le (mt Message.dims_eq_nil_iff.mpr hdims) rest
  · exact (result_loadWith_arrayBinary_eq_ok_iff s ctx id name oid data _).mpr
      ⟨m, rest, array, hdata, rfl, hm⟩

end Loader

/-! ### Two rows of one truth value -/

/-- A message with unusual flags and lower bounds: two rows, one with a truth value and one with a
`NULL`. -/
def twoRows : Message where
  flags := 7
  element := .bool
  dimensions := [⟨2, 0xFFFFFFFF⟩, ⟨1, 0⟩]
  items := [some [1], none]
  fits := by simp [Fits, lengthLimit]
  zero_notMem := by decide
  length_items := rfl
  itemFits := by simp [ItemFits, lengthLimit]

/-- The two rows are taken, also with a byte behind them, and what has been taken is a message. -/
theorem loadWith_arrayBinary_twoRows :
    let load := Context.loadWith {} ⟨2, "", .arrayBinary⟩ ⟨1000⟩ (twoRows.bytes ++ [0])
    let rows : PgArray := [.array [.value (.bool true)], .array [.null]]
    load.result truthSession = .ok (.array rows) ∧
      ∃ (m : Message) (rest : Bytes), twoRows.bytes ++ [0] = m.bytes ++ rest ∧
        m.Denotes (Context.elementLoader {} truthSession) rows ∧ HasShape rows := by
  have hrows : twoRows.Denotes (Context.elementLoader {} truthSession)
      [.array [.value (.bool true)], .array [.null]] := by
    refine .box (List.cons_ne_nil _ _) rfl ?_ ?_
    · simp [Message.dims, twoRows, IsBox, Element.array?]
    · refine .cons (.some ?_) (.cons .none .nil)
      change (Context.loadValue {} .bool .binary [1]).result truthSession = _
      rw [World.result_loadValue_scalar rfl rfl]
      rfl
  have hspec := loadWith_arrayBinary truthSession {} 2 "" ⟨1000⟩ (twoRows.bytes ++ [0])
  have hresult := hspec.2 twoRows [0] _ rfl hrows
  obtain ⟨m, rest, array, hdata, hv, hm, -, hshape, -⟩ := hspec.1 _ hresult
  cases hv
  exact ⟨hresult, m, rest, hdata, hm, hshape⟩

/-! ## Bytes behind a binary array

A message tells where it ends: no bytes are a message in two ways, also not with other bytes behind
them (`PgAdapt.ArrayBinary.Message.bytes_append_inj`). So the data that the loader of binary arrays
takes consists of a message, each byte of which is accounted for, and a surplus, and the surplus
can be told from the data. The loader never looks at it: `PgAdapt.loadWith_arrayBinary_surplus`.
-/

namespace ArrayBinary

/-- The number of bytes that elements **account for**: four for the length of each, and its length;
nothing more for a `NULL`. -/
def itemsAccount : List (Option Bytes) → Nat
  | [] => 0
  | none :: items => 4 + itemsAccount items
  | some bytes :: items => 4 + bytes.length + itemsAccount items

theorem length_flatMap_writeItem (items : List (Option Bytes)) :
    (items.flatMap writeItem).length = itemsAccount items := by
  induction items with
  | nil => rfl
  | cons item items ih =>
    rw [List.flatMap_cons, List.length_append, ih]
    rcases item with _ | bytes
    · rfl
    · rw [writeItem, List.length_append, length_word, itemsAccount]

/-- Elements that fit are told from the bytes that they take up, whatever is behind them. -/
theorem flatMap_writeItem_append_inj {items items' : List (Option Bytes)} {rest rest' : Bytes}
    (hlength : items.length = items'.length) (hfits : ∀ item ∈ items, ItemFits item)
    (hfits' : ∀ item ∈ items', ItemFits item)
    (h : items.flatMap writeItem ++ rest = items'.flatMap writeItem ++ rest') :
    items = items' := by
  have hread : readItems items.length (items.flatMap writeItem ++ rest) = (items, none) :=
    readItems_eq_iff.mpr ⟨rfl, hfits, rest, rfl⟩
  have hread' : readItems items.length (items.flatMap writeItem ++ rest) = (items', none) :=
    readItems_eq_iff.mpr ⟨hlength.symm, hfits', rest', h⟩
  exact congrArg Prod.fst (hread.symm.trans hread')

namespace Message

/-- The number of bytes that a message **accounts for**: twelve for the header, eight for each
dimension, and those of the elements. -/
def account (m : Message) : Nat := 12 + 8 * m.dims.length + itemsAccount m.items

/-- Each byte of a message is accounted for. -/
theorem length_bytes_eq_account (m : Message) : m.bytes.length = m.account := by
  rw [length_bytes, account, length_flatMap_writeItem]

/-- Messages with as many dimensions have as many elements, dimension by dimension. -/
theorem length_items_eq {m m' : Message} (h : m.dims = m'.dims) :
    m.items.length = m'.items.length := by
  by_cases hdims : m.dimensions = []
  · have hdims' : m'.dimensions = [] := by
      rwa [← dims_eq_nil_iff, ← h, dims_eq_nil_iff]
    rw [m.length_items, m'.length_items, if_pos hdims, if_pos hdims']
  · have hdims' : m'.dimensions ≠ [] := by
      rwa [Ne, ← dims_eq_nil_iff, ← h, dims_eq_nil_iff]
    rw [length_items_of_ne_nil hdims, length_items_of_ne_nil hdims', h]

/-- **A message tells where it ends.** -/
theorem bytes_append_inj {m m' : Message} {rest rest' : Bytes}
    (h : m.bytes ++ rest = m'.bytes ++ rest') : m.bytes = m'.bytes ∧ rest = rest' := by
  have hheader := m.readHeader_bytes_append rest
  rw [h, m'.readHeader_bytes_append rest', Except.ok.injEq, Header.mk.injEq] at hheader
  obtain ⟨-, hdims, hbody⟩ := hheader
  have hitems : m.items = m'.items := flatMap_writeItem_append_inj (length_items_eq hdims.symm)
    m.itemFits m'.itemFits hbody.symm
  refine List.append_inj h ?_
  rw [length_bytes_eq_account, length_bytes_eq_account, account, account, hdims, hitems]

end Message

end ArrayBinary

open ArrayBinary

/-- **What the loader of binary arrays does about a surplus.** The data that it takes, in any
session and with any registry, is a message with a surplus behind it, and this is so in one way
only. Each byte of the message is accounted for, so the length of the data is what the message
accounts for exactly if there is no surplus. But the message is taken with any surplus, and always
as the same array. -/
theorem loadWith_arrayBinary_surplus (s : Session) (ctx : Context) (id : Nat) (name : String)
    (oid : Oid) {data : Bytes} {v : Value}
    (h : (ctx.loadWith ⟨id, name, .arrayBinary⟩ oid data).result s = .ok v) :
    ∃ (m : Message) (surplus : Bytes) (array : PgArray), data = m.bytes ++ surplus ∧
      v = .array array ∧ m.Denotes (ctx.elementLoader s) array ∧
      data.length = m.account + surplus.length ∧ (data.length = m.account ↔ surplus = []) ∧
      (∀ (m' : Message) (surplus' : Bytes), data = m'.bytes ++ surplus' →
        m'.bytes = m.bytes ∧ surplus' = surplus) ∧
      ∀ surplus', (ctx.loadWith ⟨id, name, .arrayBinary⟩ oid (m.bytes ++ surplus')).result s =
        .ok v := by
  obtain ⟨m, surplus, array, rfl, rfl, hm⟩ :=
    (result_loadWith_arrayBinary_eq_ok_iff s ctx id name oid data v).mp h
  have hlength : (m.bytes ++ surplus).length = m.account + surplus.length := by
    rw [List.length_append, m.length_bytes_eq_account]
  refine ⟨m, surplus, array, rfl, rfl, hm, hlength, ?_, fun m' surplus' hdata => ?_,
    fun surplus' => ?_⟩
  · rw [hlength, Nat.add_eq_left, List.length_eq_zero_iff]
  · exact Message.bytes_append_inj hdata.symm
  · exact (result_loadWith_arrayBinary_eq_ok_iff s ctx id name oid _ _).mpr
      ⟨m, surplus', array, rfl, rfl, hm⟩

/-! ### One truth value and a byte -/

/-- The message for one truth value. -/
def oneTruth : Message where
  flags := 0
  element := .bool
  dimensions := [⟨1, 1⟩]
  items := [some [1]]
  fits := by simp [Fits, lengthLimit]
  zero_notMem := by decide
  length_items := rfl
  itemFits := by simp [ItemFits, lengthLimit]

/-- The message for one truth value, with a byte behind it. -/
def oneTruthAndByte : Bytes :=
  [0, 0, 0, 1, 0, 0, 0, 0, 0, 0, 0, 16, 0, 0, 0, 1, 0, 0, 0, 1, 0, 0, 0, 1, 1, 0]

theorem oneTruthAndByte_eq : oneTruthAndByte = oneTruth.bytes ++ [0] := rfl

theorem result_loadWith_oneTruthAndByte :
    (Context.loadWith {} ⟨2, "", .arrayBinary⟩ ⟨1000⟩ oneTruthAndByte).result truthSession =
      .ok (.array [.value (.bool true)]) := by
  refine (result_loadWith_arrayBinary_eq_ok_iff _ _ _ _ _ _ _).mpr
    ⟨oneTruth, [0], _, rfl, rfl, .box (List.cons_ne_nil _ _) rfl ?_ (.cons (.some ?_) .nil)⟩
  · simp [Message.dims, oneTruth, IsBox, Element.array?]
  · change (Context.loadValue {} .bool .binary [1]).result truthSession = _
    rw [World.result_loadValue_scalar rfl rfl]
    rfl

/-- The truth value comes with any surplus behind the message. -/
theorem loadWith_arrayBinary_surplus_oneTruth :
    (Context.loadWith {} ⟨2, "", .arrayBinary⟩ ⟨1000⟩ oneTruthAndByte).result truthSession =
        .ok (.array [.value (.bool true)]) ∧
      ∀ surplus, (Context.loadWith {} ⟨2, "", .arrayBinary⟩ ⟨1000⟩
        (oneTruth.bytes ++ surplus)).result truthSession = .ok (.array [.value (.bool true)]) := by
  have h := result_loadWith_oneTruthAndByte
  obtain ⟨m, surplus, array, hdata, -, -, -, -, hunique, htaken⟩ :=
    loadWith_arrayBinary_surplus truthSession {} 2 "" ⟨1000⟩ h
  obtain ⟨hbytes, -⟩ := hunique oneTruth [0] oneTruthAndByte_eq
  rw [← hbytes] at htaken
  exact ⟨h, htaken⟩

/-- **A byte that no message accounts for** is taken with the truth value. -/
theorem loadWith_arrayBinary_oneTruthAndByte :
    (Context.loadWith {} ⟨2, "", .arrayBinary⟩ ⟨1000⟩ oneTruthAndByte).result truthSession =
        .ok (.array [.value (.bool true)]) ∧
      oneTruthAndByte = oneTruth.bytes ++ [0] ∧
      oneTruthAndByte.length = oneTruth.account + 1 ∧
      ¬∃ m : Message, oneTruthAndByte = m.bytes := by
  refine ⟨result_loadWith_oneTruthAndByte, oneTruthAndByte_eq, rfl, ?_⟩
  rintro ⟨m, hm⟩
  rw [oneTruthAndByte_eq, ← List.append_nil m.bytes] at hm
  cases (Message.bytes_append_inj hm).2

end PgAdapt
