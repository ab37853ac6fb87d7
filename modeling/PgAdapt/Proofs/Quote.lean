import PgAdapt.Dump
import PgAdapt.Proofs.Escape
import PgAdapt.Proofs.Session.Lookup

/-!
# Literals of a payload

The server reads a literal up to its last quote, and as the payload that it was made of
(`PgAdapt.Literal.read?_quoteWith`). And there is no more to say about quoting with the routine of a
connection than four cases, whatever the routine does (`PgAdapt.quoteEnds_and_quote_eq`).
-/

namespace PgAdapt

/-! ## Literals end where they should

The server reads a literal up to the quote that closes it, and where that is depends on whether it
takes a backslash for an escape. `PgAdapt.Literal.read?` is the reader of a server of either kind.
A payload that could close its literal early would turn into a part of the query.

That it cannot is a matter of the bytes that are written twice. Every run of quotes and
backslashes in the escaped form has to fall into pairs for the reader, and the quote behind it
must not be drawn into one of them: `PgAdapt.Literal.readRest_escaped` follows the reader through
the escaped form. It allows the server to be more literal than the rules, never less: then it ends
at the same place, and sees every backslash twice.
-/

namespace Literal

open Escape (quote backslash escaped doubles)

/-! ### The reader -/

/-- What a server makes of the bytes behind the first quote of a literal: the payload, and what
follows the closing quote. -/
def readRest (server : EscapeRules) : Bytes → Option (Bytes × Bytes)
  | [] => none
  | byte :: rest =>
    if byte = quote then
      match rest with
      | [] => some ([], [])
      | next :: rest =>
        if next = quote then (readRest server rest).map (Prod.map (quote :: ·) id)
        else some ([], next :: rest)
    else if byte = backslash ∧ server.standardStrings = false then
      match rest with
      | [] => none
      | next :: rest => (readRest server rest).map (Prod.map (next :: ·) id)
    else (readRest server rest).map (Prod.map (byte :: ·) id)

/-- The **payload** of the literal at the front of a text, as a server reads it, and what follows
the literal. -/
def read? (server : EscapeRules) : Bytes → Option (Bytes × Bytes)
  | [] => none
  | byte :: rest => if byte = quote then readRest server rest else none

section Reader

variable (server : EscapeRules)

theorem backslash_ne_quote : backslash ≠ quote := by decide

/-- Two quotes stand for one. -/
theorem readRest_quote_quote (rest : Bytes) :
    readRest server (quote :: quote :: rest) =
      (readRest server rest).map (Prod.map (quote :: ·) id) := by
  rw [readRest.eq_def]
  simp only [if_true]

/-- A quote that stands alone closes the literal. -/
theorem readRest_quote {following : Bytes} (h : following.head? ≠ some quote) :
    readRest server (quote :: following) = some ([], following) := by
  rw [readRest.eq_def]
  rcases following with _ | ⟨next, rest⟩
  · rfl
  · have hnext : next ≠ quote := fun he => h (by rw [he, List.head?_cons])
    simp only [if_true, hnext, if_false]

/-- Where a backslash is an escape, it hands on the next byte. -/
theorem readRest_backslash (h : server.standardStrings = false) (byte : UInt8) (rest : Bytes) :
    readRest server (backslash :: byte :: rest) =
      (readRest server rest).map (Prod.map (byte :: ·) id) := by
  rw [readRest.eq_def]
  simp only [if_neg backslash_ne_quote, if_pos (And.intro trivial h)]

/-- Any other byte stands for itself. -/
theorem readRest_of_ne {byte : UInt8} (hq : byte ≠ quote)
    (hb : byte = backslash → server.standardStrings = true) (rest : Bytes) :
    readRest server (byte :: rest) = (readRest server rest).map (Prod.map (byte :: ·) id) := by
  have hescape : ¬(byte = backslash ∧ server.standardStrings = false) := by
    rintro ⟨he, hs⟩
    rw [hb he] at hs
    cases hs
  rw [readRest.eq_def]
  simp only [if_neg hq, if_neg hescape]

end Reader

/-! ### The way through a literal -/

/-- The bytes that a server sees for a byte which the rules have escaped: a backslash that was
written twice stays two backslashes where it is no escape. -/
def seenByte (server rules : EscapeRules) (byte : UInt8) : Bytes :=
  if byte = backslash ∧ server.standardStrings = true ∧ rules.standardStrings = false then
    [byte, byte]
  else [byte]

/-- What a server sees for a payload that the rules have escaped. -/
def seen (server rules : EscapeRules) (payload : Bytes) : Bytes :=
  payload.flatMap (seenByte server rules)

/-- A server sees the payload itself where it goes by the rules. -/
@[simp]
theorem seen_self (rules : EscapeRules) (payload : Bytes) : seen rules rules payload = payload := by
  have hbyte : seenByte rules rules = fun byte => [byte] := by
    funext byte
    refine if_neg ?_
    rintro ⟨-, ht, hf⟩
    rw [ht] at hf
    cases hf
  rw [seen, hbyte]
  exact List.flatMap_singleton' payload

/-- **A server reads a payload to its end and no further**, if it takes a backslash for an escape
only where the rules do. -/
theorem readRest_escaped (server rules : EscapeRules)
    (hserver : server.standardStrings = false → rules.standardStrings = false) {following : Bytes}
    (h : following.head? ≠ some quote) (payload : Bytes) :
    readRest server (escaped rules payload ++ quote :: following) =
      some (seen server rules payload, following) := by
  induction payload with
  | nil => exact readRest_quote server h
  | cons byte payload ih =>
    have hseen : seen server rules (byte :: payload) =
        seenByte server rules byte ++ seen server rules payload := List.flatMap_cons
    rcases eq_or_ne byte quote with rfl | hq
    · rw [Escape.escaped_cons_of_doubles rules (by simp [doubles]), hseen, seenByte,
        if_neg (fun hc => backslash_ne_quote hc.1.symm), List.cons_append, List.cons_append,
        readRest_quote_quote, ih]
      rfl
    rcases eq_or_ne byte backslash with rfl | hb
    · cases hrules : rules.standardStrings with
      | false =>
        rw [Escape.escaped_cons_of_doubles rules (by simp [doubles, hrules]), hseen, seenByte]
        cases hstd : server.standardStrings with
        | false =>
          -- the first backslash hands on the second
          rw [if_neg (by simp), List.cons_append, List.cons_append,
            readRest_backslash server hstd, ih]
          rfl
        | true =>
          -- both backslashes stand for themselves
          rw [if_pos (by simp [hrules]), List.cons_append, List.cons_append,
            readRest_of_ne server hq fun _ => hstd, readRest_of_ne server hq fun _ => hstd, ih]
          rfl
      | true =>
        -- the backslash is written once, so the server must not take it for an escape
        have hstd : server.standardStrings = true := by
          cases hs : server.standardStrings with
          | false => rw [hserver hs] at hrules; cases hrules
          | true => rfl
        have honce : doubles rules backslash = false := by
          simp [doubles, hrules, backslash_ne_quote]
        rw [Escape.escaped_cons_of_not_doubles rules honce, hseen, seenByte,
          if_neg (by simp [hrules]), List.cons_append, readRest_of_ne server hq fun _ => hstd, ih]
        rfl
    · rw [Escape.escaped_cons_of_not_doubles rules (by simp [doubles, hq, hb]), hseen, seenByte,
        if_neg (fun hc => hb hc.1), List.cons_append,
        readRest_of_ne server hq fun he => absurd he hb, ih]
      rfl

/-! ### Quoting without a connection -/

/-- Without a connection a literal is always made, and the session stays as it is. -/
theorem quoteWith_none (rules : EscapeRules) (payload : Bytes) :
    quoteWith none rules payload = pure (quote :: escaped rules payload ++ [quote]) := by
  rw [quoteWith, build_byRules]

/-- **A literal cannot be broken out of.** Without a connection every payload becomes a literal; a
server that goes by the same rules reads the payload out of it and nothing else, whatever follows.
By the default rules, which take a backslash for an escape, a server that does not do so finds the
same end. -/
theorem read?_quoteWith (s : Session) (rules : EscapeRules) (payload following : Bytes)
    (h : following.head? ≠ some quote) :
    ({} : EscapeRules).standardStrings = false ∧
      ∃ literal, (quoteWith none rules payload).result s = .ok literal ∧
        read? rules (literal ++ following) = some (payload, following) ∧
        (rules.standardStrings = false →
          read? { standardStrings := true } (literal ++ following) =
            some (payload.flatMap fun byte => if byte = backslash then [byte, byte] else [byte],
              following)) := by
  refine ⟨rfl, quote :: escaped rules payload ++ [quote], ?_, ?_, ?_⟩
  · rw [quoteWith_none]
    rfl
  · have hread := readRest_escaped rules rules id h payload
    rw [seen_self] at hread
    simpa [read?] using hread
  · intro hrules
    have hread := readRest_escaped { standardStrings := true } rules (fun _ => hrules) h payload
    have hbyte : seenByte { standardStrings := true } rules =
        fun byte => if byte = backslash then [byte, byte] else [byte] := by
      funext byte
      simp [seenByte, hrules]
    rw [seen, hbyte] at hread
    simpa [read?] using hread

/-- A backslash and a quote before a semicolon, by the default rules. -/
theorem read?_quoteWith_backslash_quote :
    (Bytes.ascii [';']).head? ≠ some quote ∧
      ∃ literal, (quoteWith none {} [backslash, quote]).result default = .ok literal ∧
        read? {} (literal ++ Bytes.ascii [';']) = some ([backslash, quote], Bytes.ascii [';']) ∧
        read? { standardStrings := true } (literal ++ Bytes.ascii [';']) =
          some ([backslash, backslash, quote], Bytes.ascii [';']) := by
  have hnext : (Bytes.ascii [';']).head? ≠ some quote := by decide
  obtain ⟨hdefault, literal, hquoted, hsame, hother⟩ :=
    read?_quoteWith default {} [backslash, quote] (Bytes.ascii [';']) hnext
  exact ⟨hnext, literal, hquoted, hsame, hother hdefault⟩

end Literal

/-! ## Quoting on a connection

The routine of a connection is foreign code: it may leave any bytes in the buffer that it is given,
fail, or claim to have written any number of bytes. `PgAdapt.QuoteEnds` lists the four ways in
which quoting may end with such a routine, each with what is given and what is left of the session,
and `PgAdapt.quoteEnds_quoteWith` says that there is no other. A connection that cannot be used is
found out before the routine is called; a claim that cannot be true is found out afterwards, before
a byte of the buffer is looked at.

A dumper has copied the connection and the rules of its context when it was made. So, unless it has
literals of its own, its literal of a value is the one that the context would make of the bytes of
the value (`PgAdapt.Dumper.quote_eq_of_builtDumper`). `PgAdapt.quoteEnds_and_quote_eq` puts the
parts together.
-/

/-! ### Sessions during a call -/

namespace Session

/-- The session after the routine of a connection has been called once. -/
def called (s : Session) (id : ConnectionId) : Session :=
  { s with
    connections := assign s.connections id
      { s.connections id with calls := (s.connections id).calls + 1 } }

/-- The session after an event has been reported. -/
def reported (s : Session) (event : Event) : Session := { s with events := s.events ++ [event] }

@[simp]
theorem eventsSince_called (s : Session) (id : ConnectionId) : (s.called id).eventsSince s = [] := by
  simp [eventsSince, called]

@[simp]
theorem eventsSince_reported (s : Session) (event : Event) :
    (s.reported event).eventsSince s = [event] := by
  simp [eventsSince, reported]

@[simp]
theorem eventsSince_called_reported (s : Session) (id : ConnectionId) (event : Event) :
    ((s.called id).reported event).eventsSince s = [event] := by
  simp [eventsSince, reported, called]

end Session

/-! ### The ways in which quoting ends -/

/-- **How quoting a payload on a connection ends**: with what it gives, and with the session that it
leaves. Where the routine of the connection is called, it is called once, with a buffer that has
room for every byte of the payload twice and one more. -/
inductive QuoteEnds (s : Session) (id : ConnectionId) (payload : Bytes) :
    Except AdaptError Bytes → Session → Prop where
  /-- The connection has been dropped or closed. Its routine is not called. -/
  | closed (h : (s.connections id).held = false ∨ (s.connections id).isOpen = false) :
      QuoteEnds s id payload (.error .connectionClosed)
        (s.reported (.quoteOnClosed payload.length))
  /-- The routine fails. -/
  | refused (held : (s.connections id).held = true) (isOpen : (s.connections id).isOpen = true)
      {size : Nat} (room : 2 * payload.length + 1 ≤ size) {buffer left : Vector UInt8 size}
      (call : (s.connections id).escape buffer payload = (left, none)) :
      QuoteEnds s id payload (.error (.escapeFailed (s.connections id).errorMessage))
        ((s.called id).reported (.escapeFailed (s.connections id).errorMessage))
  /-- The routine claims to have written more than it was given room for. -/
  | overlong (held : (s.connections id).held = true) (isOpen : (s.connections id).isOpen = true)
      {size : Nat} (room : 2 * payload.length + 1 ≤ size) {buffer left : Vector UInt8 size}
      {written : Nat} (call : (s.connections id).escape buffer payload = (left, some written))
      (long : 2 * payload.length < written) :
      QuoteEnds s id payload
        (.error (.data ("escape routine wrote " ++ toString written ++ " bytes for a " ++
          toString payload.length ++ " byte payload")))
        (s.called id)
  /-- What the routine claims to have written is there, and is put between quotes. -/
  | quoted (held : (s.connections id).held = true) (isOpen : (s.connections id).isOpen = true)
      {size : Nat} (room : 2 * payload.length + 1 ≤ size) {buffer left : Vector UInt8 size}
      {written : Nat} (call : (s.connections id).escape buffer payload = (left, some written))
      (short : written ≤ 2 * payload.length) (there : (left.toList.take written).length = written) :
      QuoteEnds s id payload
        (.ok (Escape.quote :: left.toList.take written ++ [Escape.quote])) (s.called id)

/-- The levels of the events on the way to what quoting gives. -/
def levelsOf : Except AdaptError Bytes → List String
  | .error .connectionClosed | .error (.escapeFailed _) => ["WARN"]
  | _ => []

namespace QuoteEnds

variable {s s' : Session} {id : ConnectionId} {payload : Bytes} {r : Except AdaptError Bytes}

/-- A warning is reported, and only one, if the connection cannot be used or its routine fails. -/
theorem map_level_eventsSince (h : QuoteEnds s id payload r s') :
    (s'.eventsSince s).map Event.level = levelsOf r := by
  cases h with
  | closed hclosed => simp [levelsOf, Event.level]
  | refused held isOpen room call => simp [levelsOf, Event.level]
  | overlong held isOpen room call long => simp [levelsOf]
  | quoted held isOpen room call short there => simp [levelsOf]

end QuoteEnds

theorem Connection.isUsable_eq_false_iff {connection : Connection} :
    connection.isUsable = false ↔ connection.held = false ∨ connection.isOpen = false :=
  Bool.and_eq_false_iff

section Quoting

variable {s : Session} {id : ConnectionId} (rules : EscapeRules) {payload : Bytes}

/-- A connection that cannot be used is reported, and that is all. -/
theorem quoteWith_of_not_isUsable (h : (s.connections id).isUsable = false) (payload : Bytes) :
    (quoteWith (some id) rules payload).result s = .error .connectionClosed ∧
      (quoteWith (some id) rules payload).after s =
        s.reported (.quoteOnClosed payload.length) := by
  constructor <;>
    simp [quoteWith, Action.result_bind, Action.after_bind, h, Session.reported]

variable (h : (s.connections id).isUsable = true)

include h

theorem quoteWith_of_build_eq_ok {literal : Bytes}
    (hbuild : Literal.build (s.connections id).escape payload = .ok literal) :
    (quoteWith (some id) rules payload).result s = .ok literal ∧
      (quoteWith (some id) rules payload).after s = s.called id := by
  constructor <;>
    simp [quoteWith, Action.result_bind, Action.after_bind, h, hbuild, Session.called, Except.map]

theorem quoteWith_of_build_eq_refused
    (hbuild : Literal.build (s.connections id).escape payload = .error .refused) :
    (quoteWith (some id) rules payload).result s =
        .error (.escapeFailed (s.connections id).errorMessage) ∧
      (quoteWith (some id) rules payload).after s =
        (s.called id).reported (.escapeFailed (s.connections id).errorMessage) := by
  constructor <;>
    simp [quoteWith, Action.result_bind, Action.after_bind, h, hbuild, Session.called,
      Session.reported]

theorem quoteWith_of_build_eq_overlong {written : Nat}
    (hbuild : Literal.build (s.connections id).escape payload = .error (.overlong written)) :
    (quoteWith (some id) rules payload).result s =
        .error ((Literal.Fault.overlong written).error payload.length) ∧
      (quoteWith (some id) rules payload).after s = s.called id := by
  constructor <;>
    simp [quoteWith, Action.result_bind, Action.after_bind, h, hbuild, Session.called]

end Quoting

/-- **Quoting on a connection ends in one of the four ways**, whatever the routine does. -/
theorem quoteEnds_quoteWith (s : Session) (id : ConnectionId) (rules : EscapeRules)
    (payload : Bytes) :
    QuoteEnds s id payload ((quoteWith (some id) rules payload).result s)
      ((quoteWith (some id) rules payload).after s) := by
  rcases husable : (s.connections id).isUsable with _ | _
  · obtain ⟨hresult, hafter⟩ := quoteWith_of_not_isUsable rules husable payload
    rw [hresult, hafter]
    exact .closed (Connection.isUsable_eq_false_iff.mp husable)
  obtain ⟨held, isOpen⟩ := Bool.and_eq_true_iff.mp husable
  have room : 2 * payload.length + 1 ≤ 2 * payload.length + 2 := by omega
  have hbuild := Literal.build_eq (s.connections id).escape payload
  rcases hcall : (s.connections id).escape (Vector.replicate (2 * payload.length + 2) 0) payload
    with ⟨left, _ | written⟩
  · rw [hcall] at hbuild
    obtain ⟨hresult, hafter⟩ := quoteWith_of_build_eq_refused rules husable hbuild
    rw [hresult, hafter]
    exact .refused held isOpen room hcall
  rw [hcall] at hbuild
  by_cases hshort : written ≤ 2 * payload.length
  · obtain ⟨hresult, hafter⟩ := quoteWith_of_build_eq_ok rules husable
      (hbuild.trans (if_pos hshort))
    rw [hresult, hafter]
    have hthere : (left.toList.take written).length = written := by
      rw [List.length_take, Vector.length_toList]
      omega
    exact .quoted held isOpen room hcall hshort hthere
  · obtain ⟨hresult, hafter⟩ := quoteWith_of_build_eq_overlong rules husable
      (hbuild.trans (if_neg hshort))
    rw [hresult, hafter]
    exact .overlong held isOpen room hcall (by omega)

/-- **A routine that goes by fixed rules** makes the literal that these rules make without a
connection. -/
theorem result_quoteWith_of_byRules {s : Session} {id : ConnectionId} (rules server : EscapeRules)
    {payload : Bytes} (husable : (s.connections id).isUsable = true)
    (h : ∀ {size : Nat} (buffer : Vector UInt8 size), 2 * payload.length + 1 ≤ size →
      (s.connections id).escape buffer payload = Literal.byRules server buffer payload) :
    (quoteWith (some id) rules payload).result s = (quoteWith none server payload).result s := by
  have hbuild : Literal.build (s.connections id).escape payload =
      .ok (Escape.quote :: Escape.escaped server payload ++ [Escape.quote]) := by
    rw [← Literal.build_byRules, Literal.build_eq, Literal.build_eq, h _ (by omega)]
  rw [(quoteWith_of_build_eq_ok rules husable hbuild).1, Literal.quoteWith_none]
  rfl

/-! ### Dumpers -/

/-- Whether the dumpers of a maker have **no literals of their own**. -/
def DumperRecipe.QuotesBytes : DumperRecipe → Prop
  | .scalar codec => codec.literal = none
  | .array _ => True

/-- **A dumper without literals of its own** quotes the bytes of a value like the context that it
was made in. -/
theorem Dumper.quote_eq_of_builtDumper {sc : Scope} {live : Set TransformerId}
    {source : ValueType} {recipe : DumperRecipe} {d : Dumper}
    (hd : BuiltDumper sc live source recipe d) (h : recipe.QuotesBytes) (v : Value) :
    d.quote v = d.dump v >>= quoteLiteral sc.context := by
  cases hd with
  | scalar number codec =>
    have hliteral : codec.literal = none := h
    simp only [quote, hliteral]
    rfl
  | array number format helements => rfl

/-- **Quoting is safe on any connection.** On a connection it ends in one of the four ways of
`PgAdapt.QuoteEnds`, whatever the routine of the connection does, and a warning is reported exactly
where the connection cannot be used or its routine fails. A dumper that was made in a context and
has no literals of its own fails like its dump, before the connection is looked at, and else gives
the literal that the context makes of the bytes. And where the routine of the connection goes by
fixed rules, the literal is the one that is made by these rules without a connection. -/
theorem quoteEnds_and_quote_eq :
    (∀ (s : Session) (id : ConnectionId) (rules : EscapeRules) (payload : Bytes),
      let quoting := quoteWith (some id) rules payload
      QuoteEnds s id payload (quoting.result s) (quoting.after s) ∧
        ((quoting.after s).eventsSince s).map Event.level = levelsOf (quoting.result s)) ∧
    (∀ (s₀ : Session) (factory : DumperFactory) (source : ValueType) (ctx : Context) (d : Dumper),
      (factory.build source ctx).result s₀ = .ok d → factory.recipe.QuotesBytes →
        ∀ (s : Session) (v : Value),
          match (d.dump v).result s with
          | .error e => (d.quote v).result s = .error e ∧ (d.quote v).after s = (d.dump v).after s
          | .ok payload =>
            (d.quote v).result s = (quoteLiteral ctx payload).result ((d.dump v).after s) ∧
              (d.quote v).after s = (quoteLiteral ctx payload).after ((d.dump v).after s)) ∧
    ∀ (s : Session) (id : ConnectionId) (rules server : EscapeRules) (payload : Bytes),
      (s.connections id).held = true → (s.connections id).isOpen = true →
        (∀ {size : Nat} (buffer : Vector UInt8 size), 2 * payload.length + 1 ≤ size →
          (s.connections id).escape buffer payload = Literal.byRules server buffer payload) →
          (quoteWith (some id) rules payload).result s =
            (quoteWith none server payload).result s := by
  refine ⟨fun s id rules payload => ?_, fun s₀ factory source ctx d hbuilt hquotes s v => ?_,
    fun s id rules server payload held isOpen h => ?_⟩
  · have hends := quoteEnds_quoteWith s id rules payload
    exact ⟨hends, hends.map_level_eventsSince⟩
  · obtain ⟨d', hd', hd⟩ := factory.exists_result_build source ctx s₀
    obtain rfl : d' = d := Except.ok.inj (hd'.symm.trans hbuilt)
    have hquote := Dumper.quote_eq_of_builtDumper hd hquotes v
    rw [hquote, Action.result_bind, Action.after_bind]
    rcases (d'.dump v).result s with e | payload
    · exact ⟨rfl, rfl⟩
    · exact ⟨rfl, rfl⟩
  · exact result_quoteWith_of_byRules rules server (Bool.and_eq_true_iff.mpr ⟨held, isOpen⟩) h

/-- A session with open connections, whose routine goes by the default rules. -/
def doublingSession : Session where
  connections _ :=
    { held := true
      isOpen := true
      version := 160000
      escape := Literal.byRules {}
      errorMessage := "" }

/-- A maker of dumpers that leave strings of bytes as they are. -/
def verbatimMaker : DumperFactory where
  id := 0
  name := "verbatim"
  recipe := .scalar
    { name := "verbatim"
      format := .text
      oid := .text
      dump := fun
        | .blob bytes => .ok bytes
        | _ => .error (.typeMismatch "verbatim" ValueType.blob.label) }

/-- A quote and a backslash, quoted by the dumper of a context with such a connection; and a value
of another type, which is refused. -/
theorem quoteEnds_and_quote_eq_doubling :
    ∃ d, (verbatimMaker.build .blob { connection := some ⟨0⟩ }).result doublingSession = .ok d ∧
      verbatimMaker.recipe.QuotesBytes ∧
      (doublingSession.connections ⟨0⟩).held = true ∧
      (doublingSession.connections ⟨0⟩).isOpen = true ∧
      (d.quote (.blob (Bytes.ascii ['\'', '\\']))).result doublingSession =
        .ok (Bytes.ascii ['\'', '\'', '\'', '\\', '\\', '\'']) ∧
      (d.quote .null).result doublingSession =
        .error (.typeMismatch "verbatim" ValueType.blob.label) := by
  obtain ⟨-, hdumper, hrules⟩ := quoteEnds_and_quote_eq
  obtain ⟨d, hbuilt, -⟩ :=
    verbatimMaker.exists_result_build .blob { connection := some ⟨0⟩ } doublingSession
  have hquote := hdumper doublingSession verbatimMaker .blob { connection := some ⟨0⟩ } d hbuilt rfl
    doublingSession
  cases hbuilt
  refine ⟨_, rfl, rfl, rfl, rfl, (hquote (.blob _)).1.trans ?_, (hquote .null).1⟩
  -- the connection quotes like the default rules, which are computed
  refine (hrules doublingSession ⟨0⟩ {} {} _ rfl rfl fun _ _ => rfl).trans ?_
  rw [Literal.quoteWith_none]
  rfl

end PgAdapt
