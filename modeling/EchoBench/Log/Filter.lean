import EchoBench.Log
import EchoBench.Log.Pattern
import EchoBench.Text.Character
import EchoBench.Text.Numeral

/-!
# `EchoBench.Log.Filter`: which entries of a log are shown

A filter for a log is given as one text, a list of directives between commas. Here is how a
directive is read, and what the directives of a filter show together.
-/

set_option autoImplicit false

namespace EchoBench.Log

open EchoBench.Text

/-! ### One part of a log filter

A directive is a level, or the path of an origin, or a path with a level behind an equals sign; a
path alone shows everything from there. Behind the path, or in its place, square brackets may name
a span of work, and braces within them a field, alone or with a pattern for its value:
`path[span{field=pattern}]=level`.

Blank characters around a directive are not looked at, but they count as part of its text: a place
in the directive is told by the number of bytes from the first character that is not blank, and
looked up by the number of bytes from the first one of all. So behind a blank in front every part is
cut elsewhere than it seems, and where that lies within a character, the directive cannot be cut at
all.
-/

/-- Why a filter cannot be read. -/
inductive FilterFault
  /-- A directive breaks the form. -/
  | malformed
  /-- A part of a directive would begin or end within a character. -/
  | withinCharacter
  deriving DecidableEq, Repr

/-- What a directive asks of a field. -/
structure FieldTest where
  name : String
  /-- The pattern of its value, if the directive gives one. -/
  pattern : Option String
  deriving DecidableEq, Repr

/-- What a filter says about some of the entries. -/
structure Directive where
  /-- The beginning of the path of their origin; without one, every origin is meant. -/
  path : Option String := none
  /-- The name of the span of work in which they are made. -/
  span : Option String := none
  /-- The field that they have. -/
  field : Option FieldTest := none
  /-- The greatest rank of a level that is shown; zero shows nothing. -/
  rank : Nat
  deriving DecidableEq, Repr

/-- The rank that shows every level. -/
def greatestRank : Nat := 5

/-- The names of the levels, in lower case, with their ranks. -/
def levelNames : List (String × Nat) :=
  [("off", 0), ("error", 1), ("warn", 2), ("info", 3), ("debug", 4), ("trace", 5)]

/-- The rank of a level, by itself or by the name of the level in any case of letters. -/
def rankOf? (s : List Char) : Option Nat :=
  match readNumeral .bits64 s with
  | .ok rank => if rank ≤ greatestRank then some rank else none
  | .error _ => (levelNames.find? (·.1.toList = s.map Char.toLower)).map (·.2)

/-- Reads what a directive asks of a field: its name, or its name, an equals sign and a pattern.
What stands behind a second equals sign is passed over. -/
def FieldTest.ofText? (s : List Char) : Option FieldTest :=
  match s with
  | [] => none
  | _ =>
    match s.splitOn '=' with
    | name :: pattern :: _ =>
      if Pattern.isPattern pattern then some ⟨String.ofList name, some (String.ofList pattern)⟩
      else none
    | _ => some ⟨String.ofList s, none⟩

namespace Directive

/-- How far a directive has been read, with the place at which a part of it begins. -/
inductive Stage
  /-- Nothing has been read. -/
  | front
  /-- A path, or a level that stands alone. -/
  | path
  | span (start : Nat)
  | field (start : Nat)
  /-- The field is closed and the span is not. -/
  | fieldClosed
  | spanClosed
  | level (start : Nat)
  deriving DecidableEq, Repr

/-- The part of a text between two places. -/
def part (text : List Char) (start stop : Nat) : Except FilterFault (List Char) :=
  match (dropBytes? start text).bind (takeBytes? (stop - start)) with
  | some s => .ok s
  | none => .error .withinCharacter

/-- The part of a text behind a place. -/
def partFrom (text : List Char) (start : Nat) : Except FilterFault (List Char) :=
  match dropBytes? start text with
  | some s => .ok s
  | none => .error .withinCharacter

/-- The characters with which a path or a level begins. -/
def isPathFront (c : Char) : Bool :=
  isWordChar c || c == '_' || c == ':' || c == '-'

/-- Reads the character at a place. -/
def step (text : List Char) (stage : Stage) (d : Directive) (place : Nat) (c : Char) :
    Except FilterFault (Stage × Directive) :=
  match stage with
  | .front =>
    if c = '[' then .ok (.span (place + 1), d)
    else if isPathFront c then .ok (.path, d)
    else .error .malformed
  | .path =>
    if c = '=' ∨ c = '[' then do
      let path ← part text 0 place
      let next := if c = '=' then Stage.level (place + 1) else .span (place + 1)
      .ok (next, { d with path := some (String.ofList path) })
    else .ok (.path, d)
  | .span start =>
    if c = ']' then do
      let span ← part text start place
      .ok (.spanClosed, { d with span := some (String.ofList span) })
    else if c = '\x7b' then do
      let span ← part text start place
      .ok (.field (place + 1),
        { d with span := if span.isEmpty then none else some (String.ofList span) })
    else .ok (.span start, d)
  | .field start =>
    if c = '\x7d' then do
      match FieldTest.ofText? (← part text start place) with
      | some field => .ok (.fieldClosed, { d with field := some field })
      | none => .error .malformed
    else .ok (.field start, d)
  | .fieldClosed => if c = ']' then .ok (.spanClosed, d) else .error .malformed
  | .spanClosed => if c = '=' then .ok (.level (place + 1), d) else .error .malformed
  | .level start => .ok (.level start, d)

/-- Ends a directive where its text ends. -/
def finish (text : List Char) (stage : Stage) (d : Directive) : Except FilterFault Directive :=
  match stage with
  | .path =>
    match rankOf? text with
    | some rank => .ok { d with rank }
    | none => .ok { d with path := some (String.ofList text) }
  | .spanClosed => .ok d
  | .level start => do
    let level ← partFrom text start
    if level.isEmpty then .ok d
    else
      match rankOf? level with
      | some rank => .ok { d with rank }
      | none => .error .malformed
  | .front | .span _ | .field _ | .fieldClosed => .error .malformed

/-- Reads the rest of a directive. -/
def readRest (text : List Char) (stage : Stage) (d : Directive) (place : Nat) :
    List Char → Except FilterFault Directive
  | [] => finish text stage d
  | c :: rest => do
    let (stage, d) ← step text stage d place c
    readRest text stage d (place + c.utf8Size) rest

/-- Reads a directive. -/
def ofText (text : List Char) : Except FilterFault Directive :=
  readRest text .front { rank := greatestRank } 0 (trim text)

example : (ofText "server=warn".toList).toOption = some { path := some "server", rank := 2 } := by
  decide +kernel

example : (ofText "[work\x7bsize\x7d]".toList).toOption =
    some { span := some "work", field := some ⟨"size", none⟩, rank := 5 } := by
  decide +kernel

end Directive

/-! ### Which entries are shown

A filter is a list of directives between commas. A directive with a path concerns the entries whose
path begins with it, and one with a field the entries that have a field of that name. A directive
that names a span, or the pattern of a value, is about spans of work and leaves an entry by itself
alone. Of the directives that concern an entry the one that says most decides: the one with the
longest path, then one with a field, then the one whose field comes last in the order of names.

A filter that breaks the form is no filter, and the default one holds in its place.
-/

/-- The names of the fields of an entry. Its message is one of them. -/
def Entry.fieldNames (e : Entry) : List String :=
  "message" :: e.fields.map (·.1)

namespace Directive

/-- Whether an entry has the field that a directive asks for. -/
def fieldFits (d : Directive) (e : Entry) : Bool :=
  match d.field with
  | none => true
  | some test => test.pattern.isNone && e.fieldNames.contains test.name

/-- Whether a directive concerns an entry. -/
def concerns (d : Directive) (e : Entry) : Bool :=
  d.span.isNone && (d.path.all fun p => p.toList.isPrefixOf e.origin.path.toList) && d.fieldFits e

/-- The order of directives by how much they say. -/
def detail (a b : Directive) : Ordering :=
  (compare (a.path.map String.length) (b.path.map String.length)).then
    (compare (a.field.map (·.name)) (b.field.map (·.name)))

end Directive

/-- The later of two directives, unless the earlier says more. -/
def overrule (earlier : Option Directive) (later : Directive) : Option Directive :=
  match earlier with
  | none => some later
  | some d => if (d.detail later).isLE then some later else some d

/-- The directive that decides about an entry. -/
def deciding? (filter : List Directive) (e : Entry) : Option Directive :=
  (filter.filter (·.concerns e)).foldl overrule none

/-- Whether a filter shows an entry. -/
def shows (filter : List Directive) (e : Entry) : Bool :=
  (deciding? filter e).any (e.level.rank ≤ ·.rank)

/-- Reads a filter. One without any directive shows errors. The first fault from the left counts. -/
def readFilter (s : String) : Except FilterFault (List Directive) :=
  let parts := (s.toList.splitOn ',').filter (!·.isEmpty)
  if parts.isEmpty then .ok [{ rank := Level.error.rank }] else parts.mapM Directive.ofText

/-- The filter that holds where none is given. -/
def defaultFilter : List Directive :=
  ["echoload", "echo_server", "echo_load"].map fun path =>
    { path := some path, rank := Level.info.rank }

/-- The filter of a setting. There is none, and nothing can be shown, where a directive would be cut
within a character. -/
def filterOf? (setting : Option String) : Option (List Directive) :=
  match setting.map readFilter with
  | none | some (.error .malformed) => some defaultFilter
  | some (.ok filter) => some filter
  | some (.error .withinCharacter) => none

end EchoBench.Log
