import Mathlib.Data.List.Basic
import PgAdapt.Quote

/-!
# Escaping into a buffer

Escaping writes into a buffer that the caller provides. Here is what it leaves in the buffer
(`PgAdapt.Escape.toList_fill`), and that no write goes beside it
(`PgAdapt.Escape.into?_refuses_or_fills`).
-/

namespace PgAdapt

/-! ## What escaping leaves in the buffer

`PgAdapt.Escape.fill` walks over a payload and writes into a buffer as it goes. What it leaves
there is stated for a buffer that is cut in two at the place where the writing starts
(`PgAdapt.Escape.toList_fill`): the front stays, the escaped form and a zero byte come next, and
what the writing has not reached stays too. The cut moves by one or two places with every byte of
the payload, which is why the front is quantified in the induction.

Around it, `PgAdapt.Literal.build_eq` says what becomes of the buffer of any routine, and
`PgAdapt.Literal.build_byRules` puts the two together: by fixed rules the literal is the escaped
form between quotes, and it is always built.
-/

namespace Escape

variable (rules : EscapeRules)

/-! ### The escaped form -/

/-- The rules double a quote, and a backslash where the server takes it for an escape. -/
theorem doubles_iff (byte : UInt8) : doubles rules byte = true ↔
    byte = quote ∨ byte = backslash ∧ rules.standardStrings = false := by
  simp [doubles]

@[simp]
theorem escaped_nil : escaped rules [] = [] := rfl

theorem escaped_cons_of_doubles {byte : UInt8} (h : doubles rules byte = true) (payload : Bytes) :
    escaped rules (byte :: payload) = byte :: byte :: escaped rules payload := by
  simp [escaped, h]

theorem escaped_cons_of_not_doubles {byte : UInt8} (h : doubles rules byte = false)
    (payload : Bytes) : escaped rules (byte :: payload) = byte :: escaped rules payload := by
  simp [escaped, h]

/-- Escaping adds one byte for each byte that the rules double. -/
theorem length_escaped (payload : Bytes) :
    (escaped rules payload).length = payload.length + payload.countP (doubles rules) := by
  induction payload with
  | nil => rfl
  | cons byte payload ih =>
    cases h : doubles rules byte with
    | true =>
      rw [escaped_cons_of_doubles rules h, List.countP_cons_of_pos h]
      simp only [List.length_cons]
      omega
    | false =>
      rw [escaped_cons_of_not_doubles rules h, List.countP_cons_of_neg (by simp [h])]
      simp only [List.length_cons]
      omega

/-- Escaping at most doubles a payload. -/
theorem length_escaped_le (payload : Bytes) :
    (escaped rules payload).length ≤ 2 * payload.length := by
  have hle : payload.countP (doubles rules) ≤ payload.length := List.countP_le_length
  rw [length_escaped]
  omega

/-! ### The buffer -/

section Buffer

variable {size : Nat}

/-- A byte that is written behind the front of a buffer takes the place of the next one. -/
theorem toList_set_of_append {buffer : Vector UInt8 size} {start : Nat} (front back : Bytes)
    (hcut : buffer.toList = front ++ back) (hstart : front.length = start) (byte : UInt8)
    (h : start < size) : (buffer.set start byte h).toList = front ++ byte :: back.tail := by
  have hlen : size = front.length + back.length := by
    simpa using congrArg List.length hcut
  cases back with
  | nil =>
    simp only [List.length_nil] at hlen
    omega
  | cons old back =>
    rw [Vector.toList_set, hcut, ← hstart, List.set_append_right _ _ (Nat.le_refl _)]
    simp

/-- **What filling a buffer leaves in it**: the front of the buffer, the escaped form, a zero
byte, and the rest of the buffer; and the position that comes with it is that of the zero byte. -/
theorem toList_fill (payload : Bytes) : ∀ {buffer : Vector UInt8 size} (start : Nat)
    (front back : Bytes) (_ : buffer.toList = front ++ back) (_ : front.length = start)
    (h : start + 2 * payload.length < size),
    (fill rules buffer start payload h).1.toList =
        front ++ escaped rules payload ++ 0 :: back.drop ((escaped rules payload).length + 1) ∧
      (fill rules buffer start payload h).2 = start + (escaped rules payload).length := by
  induction payload with
  | nil =>
    intro buffer start front back hcut hstart h
    refine ⟨?_, by simp [fill]⟩
    rw [fill, toList_set_of_append front back hcut hstart]
    simp
  | cons byte payload ih =>
    intro buffer start front back hcut hstart h
    -- The bound allows for two bytes, so it leaves enough room whether one or two are written.
    have hroom : start + 2 * (payload.length + 1) < size := h
    have honce := toList_set_of_append front back hcut hstart byte (by omega)
    rw [fill]
    cases hd : doubles rules byte with
    | true =>
      have htwice := toList_set_of_append (front ++ [byte]) back.tail (by simpa using honce)
        (by simp [hstart] : (front ++ [byte]).length = start + 1) byte (by omega)
      obtain ⟨hfill, hpos⟩ := ih (start + 2) (front ++ [byte, byte]) back.tail.tail
        (by simpa using htwice) (by simp [hstart]) (by omega)
      rw [escaped_cons_of_doubles rules hd]
      simp only [if_true]
      refine ⟨hfill.trans ?_, hpos.trans ?_⟩
      · simp [List.drop_tail]
      · simp only [List.length_cons]
        omega
    | false =>
      obtain ⟨hfill, hpos⟩ := ih (start + 1) (front ++ [byte]) back.tail (by simpa using honce)
        (by simp [hstart]) (by omega)
      rw [escaped_cons_of_not_doubles rules hd]
      simp only [Bool.false_eq_true, if_false]
      refine ⟨hfill.trans ?_, hpos.trans ?_⟩
      · simp [List.drop_tail]
      · simp only [List.length_cons]
        omega

end Buffer

end Escape

/-! ### The literal -/

namespace Literal

/-- **What is built from any routine**: the quotes enclose as many bytes from the front of the
buffer as the routine claims, provided that it does not claim too many. -/
theorem build_eq (routine : EscapeRoutine) (payload : Bytes) :
    build routine payload =
      match routine (Vector.replicate (2 * payload.length + 2) 0) payload with
      | (_, none) => .error .refused
      | (inner, some written) =>
        if written ≤ 2 * payload.length then
          .ok (Escape.quote :: inner.toList.take written ++ [Escape.quote])
        else .error (.overlong written) := by
  unfold build
  dsimp only
  rcases routine (Vector.replicate (2 * payload.length + 2) 0) payload with ⟨inner, _ | written⟩
  · rfl
  dsimp only
  by_cases h : written ≤ 2 * payload.length
  · have hroom : written < inner.toList.length := by
      rw [Vector.length_toList]
      omega
    rw [dif_pos h, if_pos h, Vector.toList_set, Vector.toList_set, Vector.toList_append]
    simp only [Vector.toList_mk, List.cons_append, List.nil_append, List.set_cons_zero,
      List.set_cons_succ, List.take_succ_cons]
    rw [List.take_add_one, List.take_set_of_le (Nat.le_refl _), List.getElem?_set_self hroom]
    rfl
  · rw [dif_neg h, if_neg h]

/-- **By fixed rules a literal is always built**: it is the escaped form between quotes. -/
theorem build_byRules (rules : EscapeRules) (payload : Bytes) :
    build (byRules rules) payload =
      .ok (Escape.quote :: Escape.escaped rules payload ++ [Escape.quote]) := by
  have hroom : 2 * payload.length < 2 * payload.length + 2 := by omega
  have hcut : (Vector.replicate (2 * payload.length + 2) (0 : UInt8)).toList =
      [] ++ List.replicate (2 * payload.length + 2) 0 := by simp
  obtain ⟨hfill, hpos⟩ := Escape.toList_fill rules payload 0 [] _ hcut rfl (by omega)
  rw [build_eq, byRules, Escape.into?, dif_pos hroom]
  dsimp only
  rw [hfill, hpos, Nat.zero_add, if_pos (Escape.length_escaped_le rules payload)]
  simp

end Literal

/-! ## Every write of escaping lies in the buffer

The size of a buffer is looked at once, before the first byte is written; after that every byte of
the payload is written once or twice, and a zero byte behind them. In `PgAdapt.Escape.fill` every
position comes with a proof that it lies in the buffer. Here the positions stand on their own:
`PgAdapt.Escape.writes` lists what is written and where, for any buffer, and
`PgAdapt.Escape.Write.on?` carries a write out and faults outside the buffer.

* What is written goes to the positions from the first to that of the zero byte, each once and in
  their order (`PgAdapt.Escape.map_position_writes`). None lies further from the first than the
  escaped form is long, and the size has been compared with the longest that there can be.
* One write after another, without a fault, leaves what `PgAdapt.Escape.fill` leaves
  (`PgAdapt.Escape.foldlM_on?_writes`), so that nothing else has been written.

With `PgAdapt.Escape.toList_fill` for what is in the buffer afterwards, this is the contract that a
caller who provides a buffer relies on (`PgAdapt.Escape.fills_of_into?_eq_some`): which buffers are
refused, what is in front, that a zero byte closes it, and that nothing behind it is touched.
-/

namespace Escape

/-! ### The writes of the loop -/

/-- A **write**: a byte, and the position in the buffer that it goes to. -/
structure Write where
  /-- The position. -/
  position : Nat
  /-- The byte. -/
  byte : UInt8
  deriving DecidableEq, Repr

/-- Carries out a write on the bytes of a buffer. A position outside the buffer is a fault. -/
def Write.on? (held : Bytes) (write : Write) : Option Bytes :=
  if write.position < held.length then some (held.set write.position write.byte) else none

/-- The **writes** by which a payload is escaped from a position on, in their order; the last one
is the zero byte. -/
def writes (rules : EscapeRules) (start : Nat) : Bytes → List Write
  | [] => [⟨start, 0⟩]
  | byte :: rest =>
    if doubles rules byte then
      ⟨start, byte⟩ :: ⟨start + 1, byte⟩ :: writes rules (start + 2) rest
    else ⟨start, byte⟩ :: writes rules (start + 1) rest

section Writes

variable (rules : EscapeRules)

theorem writes_cons_of_doubles {byte : UInt8} (h : doubles rules byte = true) (start : Nat)
    (payload : Bytes) : writes rules start (byte :: payload) =
      ⟨start, byte⟩ :: ⟨start + 1, byte⟩ :: writes rules (start + 2) payload :=
  if_pos h

theorem writes_cons_of_not_doubles {byte : UInt8} (h : doubles rules byte = false) (start : Nat)
    (payload : Bytes) : writes rules start (byte :: payload) =
      ⟨start, byte⟩ :: writes rules (start + 1) payload := by
  rw [writes, h]
  rfl

/-- **Every position is written to once, and in their order**: from the start to the position of
the zero byte. -/
theorem map_position_writes (start : Nat) (payload : Bytes) :
    (writes rules start payload).map Write.position =
      List.range' start ((escaped rules payload).length + 1) := by
  induction payload generalizing start with
  | nil => rfl
  | cons byte payload ih =>
    cases h : doubles rules byte with
    | true =>
      rw [writes_cons_of_doubles rules h, escaped_cons_of_doubles rules h, List.map_cons,
        List.map_cons, ih]
      rfl
    | false =>
      rw [writes_cons_of_not_doubles rules h, escaped_cons_of_not_doubles rules h, List.map_cons,
        ih]
      rfl

/-! ### The writes on a buffer -/

variable {size : Nat}

/-- A write to a position in a buffer is carried out. -/
theorem on?_toList (buffer : Vector UInt8 size) (byte : UInt8) {position : Nat}
    (h : position < size) :
    Write.on? buffer.toList ⟨position, byte⟩ = some (buffer.set position byte).toList := by
  rw [Write.on?, if_pos (by rwa [Vector.length_toList]), Vector.toList_set]

/-- **The writes leave what filling the buffer leaves**, and none of them faults. -/
theorem foldlM_on?_writes (payload : Bytes) : ∀ (buffer : Vector UInt8 size) (start : Nat)
    (h : start + 2 * payload.length < size),
    (writes rules start payload).foldlM Write.on? buffer.toList =
      some (fill rules buffer start payload h).1.toList := by
  induction payload with
  | nil =>
    intro buffer start h
    rw [writes, List.foldlM_cons, on?_toList buffer 0 (by omega)]
    rfl
  | cons byte payload ih =>
    intro buffer start h
    have hroom : start + 2 * (payload.length + 1) < size := h
    rw [fill]
    cases hd : doubles rules byte with
    | true =>
      rw [writes_cons_of_doubles rules hd, List.foldlM_cons, on?_toList buffer byte (by omega),
        Option.bind_eq_bind, Option.bind_some, List.foldlM_cons, on?_toList _ byte (by omega),
        Option.bind_eq_bind, Option.bind_some, ih _ _ (by omega)]
      rfl
    | false =>
      rw [writes_cons_of_not_doubles rules hd, List.foldlM_cons,
        on?_toList buffer byte (by omega), Option.bind_eq_bind, Option.bind_some,
        ih _ _ (by omega)]
      rfl

end Writes

/-! ### The contract -/

/-- **What escaping leaves in a buffer**, and how it got there: the buffer goes from `before` to
`after`, and `written` is the number of bytes that are claimed. -/
structure Fills {size : Nat} (rules : EscapeRules) (payload : Bytes)
    (before after : Vector UInt8 size) (written : Nat) : Prop where
  /-- There is a byte for each of the payload, and one more for each that the rules double. -/
  written_eq : written = payload.length + payload.countP (doubles rules)
  /-- At the worst the rules double them all. -/
  written_le : written ≤ 2 * payload.length
  /-- In front stands the payload with these bytes doubled. -/
  front : after.toList.take written =
    payload.flatMap fun byte => if doubles rules byte then [byte, byte] else [byte]
  /-- A zero byte follows. -/
  closed : after[written]? = some 0
  /-- What stands behind it is as it was. -/
  behind : ∀ i, written < i → after[i]? = before[i]?
  /-- The positions are written to one after another, up to that of the zero byte. -/
  positions : (writes rules 0 payload).map Write.position = List.range (written + 1)
  /-- None of them is outside the buffer. -/
  inside : ∀ write ∈ writes rules 0 payload, write.position < size
  /-- The writes, each of which would fault outside the buffer, lead from the one buffer to the
  other. -/
  carried : (writes rules 0 payload).foldlM Write.on? before.toList = some after.toList

section Contract

variable {size : Nat} {rules : EscapeRules} {buffer : Vector UInt8 size} {payload : Bytes}

/-- A buffer is refused if the worst payload of that length would not fit into it. -/
theorem into?_eq_none_iff : into? rules buffer payload = none ↔ size < 2 * payload.length + 1 := by
  unfold into?
  split
  next h =>
    simp only [reduceCtorEq, false_iff]
    omega
  next h =>
    simp only [true_iff]
    omega

variable {left : Vector UInt8 size} {written : Nat}

/-- A buffer that is not refused has room for the worst, and is filled from its first position. -/
theorem exists_fill_of_into?_eq_some (h : into? rules buffer payload = some (left, written)) :
    ∃ room : 0 + 2 * payload.length < size, fill rules buffer 0 payload room = (left, written) := by
  unfold into? at h
  split at h
  case isTrue hroom => exact ⟨by omega, Option.some.inj h⟩
  case isFalse => cases h

/-- What is in a buffer that has been filled: the escaped form, a zero byte, and what was there. -/
theorem toList_of_into?_eq_some (h : into? rules buffer payload = some (left, written)) :
    written = (escaped rules payload).length ∧
      left.toList = escaped rules payload ++ 0 :: buffer.toList.drop (written + 1) := by
  obtain ⟨room, hfilled⟩ := exists_fill_of_into?_eq_some h
  obtain ⟨hfill, hpos⟩ := toList_fill rules payload 0 [] buffer.toList rfl rfl room
  rw [hfilled] at hfill hpos
  simp only [List.nil_append, Nat.zero_add] at hfill hpos
  exact ⟨hpos, hpos ▸ hfill⟩

/-- **A buffer that is not refused is filled.** -/
theorem fills_of_into?_eq_some (h : into? rules buffer payload = some (left, written)) :
    Fills rules payload buffer left written := by
  obtain ⟨room, hfilled⟩ := exists_fill_of_into?_eq_some h
  obtain ⟨hwritten, hleft⟩ := toList_of_into?_eq_some h
  have hle : written ≤ 2 * payload.length := hwritten ▸ length_escaped_le rules payload
  have hpositions : (writes rules 0 payload).map Write.position = List.range (written + 1) := by
    rw [map_position_writes, ← hwritten, List.range_eq_range']
  refine ⟨hwritten.trans (length_escaped rules payload), hle, ?_, ?_, ?_, hpositions, ?_, ?_⟩
  · rw [hleft, List.take_left' hwritten.symm]
    rfl
  · rw [← Vector.getElem?_toList, hleft, List.getElem?_append_right (Nat.le_of_eq hwritten.symm),
      hwritten, Nat.sub_self]
    rfl
  · intro i hi
    -- the position, counted from the zero byte
    obtain ⟨k, rfl⟩ := Nat.exists_eq_add_of_lt hi
    rw [← Vector.getElem?_toList, ← Vector.getElem?_toList, hleft, hwritten, Nat.add_assoc,
      List.getElem?_append_right (Nat.le_add_right _ _), Nat.add_sub_cancel_left,
      List.getElem?_cons_succ, List.getElem?_drop, Nat.add_assoc, Nat.add_comm 1 k]
  · intro write hwrite
    have hmem : write.position ∈ List.range (written + 1) :=
      hpositions ▸ List.mem_map_of_mem hwrite
    have hlt : write.position < written + 1 := List.mem_range.mp hmem
    omega
  · rw [foldlM_on?_writes rules payload buffer 0 room, hfilled]

end Contract

/-- **The contract of a buffer.** The rules double a quote, and a backslash where the server takes
it for an escape. A buffer is refused exactly if it does not have room for every byte of the payload
twice and for a zero byte, and then it stays as it was. Any other buffer is filled as
`PgAdapt.Escape.Fills` says, and no write on the way goes to a position outside of it. -/
theorem into?_refuses_or_fills {size : Nat} (rules : EscapeRules) (buffer : Vector UInt8 size)
    (payload : Bytes) :
    (∀ byte, doubles rules byte = true ↔
        byte = quote ∨ byte = backslash ∧ rules.standardStrings = false) ∧
      (into? rules buffer payload = none ↔ size < 2 * payload.length + 1) ∧
      (into? rules buffer payload = none →
        Literal.byRules rules buffer payload = (buffer, none)) ∧
      ∀ left written, into? rules buffer payload = some (left, written) →
        Literal.byRules rules buffer payload = (left, some written) ∧
          Fills rules payload buffer left written := by
  refine ⟨doubles_iff rules, into?_eq_none_iff, fun h => ?_, fun left written h => ⟨?_, ?_⟩⟩
  · rw [Literal.byRules, h]
  · rw [Literal.byRules, h]
  · exact fills_of_into?_eq_some h

/-- A quote, a backslash and a letter for a server that takes a backslash for itself. Six bytes
would hold the four that are written and the zero byte, but not the worst payload of three bytes;
with seven, two stay as they were. -/
theorem into?_refuses_or_fills_sevenBytes :
    Literal.byRules ⟨true⟩ (Vector.replicate 6 170) (Bytes.ascii ['\'', '\\', 'a']) =
        (Vector.replicate 6 170, none) ∧
      ∃ left, into? ⟨true⟩ (Vector.replicate 7 170) (Bytes.ascii ['\'', '\\', 'a']) =
          some (left, 4) ∧
        left.toList = Bytes.ascii ['\'', '\'', '\\', 'a'] ++ [0, 170, 170] ∧
        Fills ⟨true⟩ (Bytes.ascii ['\'', '\\', 'a']) (Vector.replicate 7 170) left 4 := by
  obtain ⟨-, hsmall, hrefused, -⟩ :=
    into?_refuses_or_fills ⟨true⟩ (Vector.replicate 6 170) (Bytes.ascii ['\'', '\\', 'a'])
  obtain ⟨-, -, -, hfills⟩ :=
    into?_refuses_or_fills ⟨true⟩ (Vector.replicate 7 170) (Bytes.ascii ['\'', '\\', 'a'])
  exact ⟨hrefused (hsmall.mpr (by decide)), _, rfl, rfl, (hfills _ _ rfl).2⟩

end Escape

end PgAdapt
