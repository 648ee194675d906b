import EchoBench.Text.Character
import EchoBench.Text.Numeral

/-!
# `EchoBench.Log.Pattern`: texts that describe values

A directive of a log filter may ask for the value of a field by a pattern: characters that stand for
themselves, classes of characters in square brackets, groups in round ones, choices, repetitions,
and escapes behind a backslash. A number describes itself, also one with a plus sign in front, which
would otherwise repeat nothing.

`isPattern` says which texts are patterns. Repetitions with a count in braces are none: the brace
that closes the list of fields comes before the one that would close the count.
-/

set_option autoImplicit false

namespace EchoBench.Log.Pattern

open EchoBench.Text

/-! ### The ways to read a pattern

A pattern sets flags for what follows. Three of them matter here: whether a letter stands for either
of its cases, whether the value is looked at as characters or as bytes, and whether the pattern is
spaced out, so that its white space means nothing and a hash begins a remark. The others say how a
pattern is matched, and not whether it is one.
-/

/-- How a part of a pattern is read. -/
structure Mode where
  /-- A letter stands for either of its cases. -/
  anyCase : Bool := false
  /-- The value is a text of bytes, and not of characters of all scripts. -/
  bytes : Bool := false
  /-- White space and remarks mean nothing. -/
  spaced : Bool := false
  deriving DecidableEq, Repr

/-- The text behind white space and remarks, the first of which may have begun before. A remark goes
from a hash to the end of its line. -/
def dropSpacing : Bool → List Char → List Char
  | _, [] => []
  | true, c :: s => dropSpacing (c != '\n') s
  | false, c :: s =>
    if c = '#' then dropSpacing true s
    else if isBlank c then dropSpacing false s
    else c :: s

namespace Mode

/-- The text behind what means nothing. -/
def skip (m : Mode) (s : List Char) : List Char :=
  if m.spaced then dropSpacing false s else s

/-- The character that tells what a dash in a class means. Of a remark no more than its hash is
skipped: the rest of it counts. -/
def glance? (m : Mode) (s : List Char) : Option Char :=
  if m.spaced then
    match s.dropWhile isBlank with
    | '#' :: rest => (rest.dropWhile isBlank).head?
    | rest => rest.head?
  else s.head?

/-- The mode in which a flag is set, or taken back. -/
def change (m : Mode) (on : Bool) : Char → Mode
  | 'i' => { m with anyCase := on }
  | 'u' => { m with bytes := !on }
  | 'x' => { m with spaced := on }
  | _ => m

/-- The mode in which flags are set and those behind a dash are taken back. -/
def withFlags (m : Mode) (flags : List Char) : Mode :=
  let set := (flags.takeWhile (· ≠ '-')).foldl (·.change true ·) m
  (flags.dropWhile (· ≠ '-')).foldl (·.change false ·) set

end Mode

/-- Whether a text is a list of flags, of which those behind a dash are taken back. -/
def areFlags (s : List Char) : Bool :=
  let letters := s.filter (· ≠ '-')
  s.count '-' ≤ 1 && s.getLast? != some '-' && letters.all "imsUuRx".toList.contains &&
    letters.eraseDups.length == letters.length

example : areFlags "si-u".toList = true ∧ areFlags "i-".toList = false := by decide +kernel
example : ({} : Mode).withFlags "i-u".toList = { anyCase := true, bytes := true } := by decide

/-! ### The smallest parts of a pattern

An atom is a character that stands for itself, a sign with a meaning, or an escape behind a
backslash.

Not every atom may be used in every mode (`Mode.admits`). Where the value is characters, there is
no table of all scripts: so letters of either case, kinds of characters and the bounds of words
cannot be asked for. Where it is bytes, those of ASCII are known, but nothing may stand for a byte
that is only a piece of a character.
-/

/-- One of the smallest parts of a pattern. -/
inductive Atom
  /-- A character; whether it is given by two hexadecimal places, which may also name a byte. -/
  | char (c : Char) (byte : Bool)
  /-- A point, for any character or byte. -/
  | any
  /-- The beginning or the end of the value, or of a line in it. -/
  | bound
  /-- The beginning or the end of a word, or a place that is neither. -/
  | wordBound
  /-- The digits, the white space or the characters of words, or all that are not of the kind. -/
  | kind (negated : Bool)
  deriving DecidableEq, Repr

namespace Mode

/-- Reads a number in hexadecimal places, behind some that have given a number so far. -/
def number? (m : Mode) : Nat → Nat → List Char → Option (Nat × List Char)
  | 0, n, s => some (n, s)
  | places + 1, n, s =>
    match m.skip s with
    | [] => none
    | c :: rest => (hexValue? c).bind fun d => m.number? places (16 * n + d) rest

/-- Reads a character by its number in so many hexadecimal places. -/
def numbered? (m : Mode) (places : Nat) (s : List Char) : Option (Atom × List Char) := do
  let (code, rest) ← m.number? places 0 s
  if code.isValidChar then some (.char (.ofNat code) (places == 2), rest) else none

/-- Reads an escape behind its backslash. A letter or digit has to have a meaning. -/
def escape? (m : Mode) : List Char → Option (Atom × List Char)
  | [] => none
  | c :: s =>
    match c with
    | 'x' => m.numbered? 2 s
    | 'u' => m.numbered? 4 s
    | 'U' => m.numbered? 8 s
    | 'd' | 's' | 'w' => some (.kind false, s)
    | 'D' | 'S' | 'W' => some (.kind true, s)
    | 'a' => some (.char '\x07' false, s)
    | 't' => some (.char '\t' false, s)
    | 'n' => some (.char '\n' false, s)
    | 'v' => some (.char '\x0b' false, s)
    | 'f' => some (.char '\x0c' false, s)
    | 'r' => some (.char '\r' false, s)
    | 'A' | 'z' => some (.bound, s)
    | 'b' | 'B' | '<' | '>' => some (.wordBound, s)
    | _ => if c.toNat < 128 && !c.isAlphanum then some (.char c false, s) else none

/-- Reads an atom of a class, where only a backslash has a meaning. -/
def classAtom? (m : Mode) : List Char → Option (Atom × List Char)
  | [] => none
  | '\\' :: s => m.escape? s
  | c :: s => some (.char c false, s)

/-- Reads an atom. A brace begins the count of a repetition, which is never closed. -/
def atom? (m : Mode) : List Char → Option (Atom × List Char)
  | '.' :: s => some (.any, s)
  | '^' :: s | '$' :: s => some (.bound, s)
  | '\x7b' :: _ => none
  | s => m.classAtom? s

/-- Whether an atom may be used. -/
def admits (m : Mode) : Atom → Bool
  | .char c byte => if m.bytes then !byte || c.toNat < 128 else !m.anyCase
  | .any => !m.bytes
  | .bound => true
  | .wordBound => m.bytes
  | .kind negated => m.bytes && !negated

/-- Whether an atom may be used in a class. -/
def admitsInClass (m : Mode) : Atom → Bool
  | .char c _ => if m.bytes then c.toNat < 128 else !m.anyCase
  | .kind negated => m.bytes && !negated
  | .any | .bound | .wordBound => false

/-- Whether a class of ASCII may be used by its name. -/
def admitsNamed (m : Mode) (negated : Bool) : Bool :=
  if m.bytes then !negated else !m.anyCase

end Mode

example : ({} : Mode).escape? "x41b".toList = some (.char 'A' true, ['b']) := by decide +kernel

/-! ### Classes of characters

A class stands in square brackets: characters, ranges, classes that have a name, and classes again.
A circumflex in front turns it into its opposite, and two ampersands, dashes or tildes combine what
is in front of them with what is behind. In front, dashes stand for themselves, and so does a
closing bracket with nothing before it.

A class is read together with its depth, because a pattern may not be nested too deeply.
-/

/-- How deeply parts in a row are nested. A single part is not in a row. -/
def nesting : List Nat → Nat
  | [] => 0
  | [depth] => depth
  | depths => depths.foldl max 0 + 1

/-- The classes that have a name. -/
def classNames : List String :=
  ["alnum", "alpha", "ascii", "blank", "cntrl", "digit", "graph", "lower", "print", "punct",
   "space", "upper", "word", "xdigit"]

/-- Whether a text is negated, and the text without the mark of it. -/
def negation : List Char → Bool × List Char
  | '^' :: s => (true, s)
  | s => (false, s)

/-- Reads a class that has a name, of which one bracket has been read: whether it is negated. -/
def namedClass? : List Char → Option (Bool × List Char)
  | ':' :: s =>
    let (negated, s) := negation s
    match s.dropWhile (· ≠ ':') with
    | ':' :: ']' :: rest =>
      if classNames.contains (String.ofList (s.takeWhile (· ≠ ':'))) then some (negated, rest)
      else none
    | _ => none
  | _ => none

/-- What has been read of a class that is not closed. -/
structure OpenClass where
  /-- The depth of what is in front of the last operator. -/
  front : Option Nat := none
  /-- The depths of the items behind it. -/
  items : List Nat := []
  /-- Whether dashes still stand for themselves. -/
  dashes : Bool := true
  /-- Whether a closing bracket still stands for itself. -/
  bare : Bool := true
  deriving DecidableEq, Repr

namespace OpenClass

/-- A class with one more item. -/
def push (c : OpenClass) (depth : Nat) : OpenClass :=
  { c with items := depth :: c.items, dashes := false, bare := false }

/-- A class with one more dash in front. -/
def pushDash (c : OpenClass) : OpenClass :=
  { c with items := 0 :: c.items, bare := false }

/-- The depth of what has been read. -/
def depth (c : OpenClass) : Nat :=
  match c.front with
  | none => nesting c.items
  | some depth => max depth (nesting c.items) + 1

/-- A class with one more operator. -/
def combine (c : OpenClass) : OpenClass :=
  { front := some c.depth, dashes := false, bare := false }

end OpenClass

namespace Mode

/-- Reads a character or a range of a class, or an escape for a kind of characters. -/
def item? (m : Mode) (s : List Char) : Option (List Char) := do
  let (low, rest) ← m.classAtom? s
  if !m.admitsInClass low then none
  else
    match m.skip rest with
    | '-' :: behind =>
      if m.glance? behind = some ']' ∨ m.glance? behind = some '-' then some rest
      else
        let (high, rest) ← m.classAtom? (m.skip behind)
        match low, high with
        | .char a _, .char b _ => if m.admitsInClass high && a ≤ b then some rest else none
        | _, _ => none
    | _ => some rest

/-- Reads the rest of a class, inside others that are open as well: the depth of the outermost
one. -/
def classRest? (m : Mode) : Nat → OpenClass → List OpenClass → List Char → Option (Nat × List Char)
  | 0, _, _, _ => none
  | fuel + 1, inner, outer, s =>
    let s := m.skip s
    match s with
    | ']' :: rest =>
      if inner.bare then
        if m.admitsInClass (.char ']' false) then m.classRest? fuel (inner.push 0) outer rest
        else none
      else
        match outer with
        | [] => some (inner.depth + 1, rest)
        | c :: outer => m.classRest? fuel (c.push (inner.depth + 1)) outer rest
    | '[' :: rest =>
      match namedClass? rest with
      | some (negated, rest) =>
        if m.admitsNamed negated then m.classRest? fuel (inner.push 0) outer rest else none
      | none =>
        let (negated, rest) := negation (m.skip rest)
        if negated && m.bytes then none else m.classRest? fuel {} (inner :: outer) rest
    | '-' :: rest =>
      if inner.dashes then
        if m.admitsInClass (.char '-' false) then m.classRest? fuel inner.pushDash outer rest
        else none
      else if rest.head? = some '-' then m.classRest? fuel inner.combine outer (rest.drop 1)
      else (m.item? s).bind (m.classRest? fuel (inner.push 0) outer)
    | '&' :: '&' :: rest | '~' :: '~' :: rest => m.classRest? fuel inner.combine outer rest
    | _ => (m.item? s).bind (m.classRest? fuel (inner.push 0) outer)

/-- Reads a class behind its first bracket, and its depth. -/
def class? (m : Mode) (s : List Char) : Option (Nat × List Char) :=
  let (negated, rest) := negation (m.skip s)
  if negated && m.bytes then none else m.classRest? (s.length + 1) {} [] rest

end Mode

example : ({} : Mode).class? "^]a-c[:alpha:]]x".toList = some (2, ['x']) := by decide +kernel
example : ({} : Mode).class? "z-a]".toList = none := by decide +kernel

/-! ### What a round bracket begins

A round bracket begins a group. With a question mark behind it, it gives the group a name or flags;
flags that are closed at once begin no group, and count up to the end of the group around them.
-/

/-- Whether a text is the name of a group. -/
def isGroupName : List Char → Bool
  | [] => false
  | c :: s =>
    (c == '_' || isLetter c) && s.all fun c => isWordChar c || ['_', '.', '[', ']'].contains c

/-- What a round bracket begins. -/
inductive GroupFront
  /-- A group, with its name if it has one, and the mode for what is in it. -/
  | group (name : Option (List Char)) (mode : Mode)
  /-- No group, but another mode. -/
  | change (mode : Mode)
  deriving DecidableEq, Repr

/-- Reads what a round bracket begins. -/
def Mode.groupFront? (m : Mode) (s : List Char) : Option (GroupFront × List Char) :=
  match m.skip s with
  | '?' :: 'P' :: '<' :: s | '?' :: '<' :: s =>
    let name := s.takeWhile (· ≠ '>')
    match s.dropWhile (· ≠ '>') with
    | _ :: rest => if isGroupName name then some (.group (some name) m, rest) else none
    | [] => none
  | '?' :: s =>
    let isFlag (c : Char) : Bool := c != ':' && c != ')'
    let flags := s.takeWhile isFlag
    if areFlags flags then
      match s.dropWhile isFlag with
      | ':' :: rest => some (.group none (m.withFlags flags), rest)
      | ')' :: rest =>
        if flags.isEmpty then none else some (.change (m.withFlags flags), rest)
      | _ => none
    else none
  | s => some (.group none m, s)

/-! ### Whole patterns -/

/-- A part of a pattern that has been read. -/
structure Part where
  depth : Nat
  /-- Whether it may be repeated; a change of the mode may not. -/
  repeatable : Bool := true
  deriving DecidableEq, Repr

/-- What has been read of a group that is not closed, or of the pattern as a whole. -/
structure Level where
  /-- The mode in which the text behind the group is read. -/
  mode : Mode := {}
  /-- The depths of the choices that have ended. -/
  choices : List Nat := []
  /-- The parts of the last choice, the last one in front. -/
  parts : List Part := []
  deriving DecidableEq, Repr

namespace Level

/-- A level with one more part. -/
def push (l : Level) (part : Part) : Level :=
  { l with parts := part :: l.parts }

/-- The depth of the last choice. -/
def choiceDepth (l : Level) : Nat :=
  nesting (l.parts.map (·.depth))

/-- A level at the beginning of one more choice. -/
def choose (l : Level) : Level :=
  { l with choices := l.choiceDepth :: l.choices, parts := [] }

/-- The depth of what has been read. -/
def depth (l : Level) : Nat :=
  nesting (l.choiceDepth :: l.choices)

/-- A level whose last part is repeated, if there is one that may be. -/
def repeatLast? (l : Level) : Option Level :=
  match l.parts with
  | ⟨depth, true⟩ :: parts => some { l with parts := ⟨depth + 1, true⟩ :: parts }
  | _ => none

end Level

/-- What has been read of a pattern. -/
structure Reading where
  /-- The mode in which the text is read from here on. -/
  mode : Mode := {}
  /-- The names of the groups. -/
  names : List (List Char) := []
  /-- The innermost group. -/
  inner : Level := {}
  /-- The groups around it and at last the pattern, from the inside. -/
  outer : List Level := []
  deriving DecidableEq, Repr

namespace Reading

/-- Goes on with one more part. -/
def push (r : Reading) (part : Part) : Reading :=
  { r with inner := r.inner.push part }

/-- Begins a group, which may not have the name of another one, or changes the mode. -/
def open? (r : Reading) : GroupFront → Option Reading
  | .change mode => some { r.push ⟨0, false⟩ with mode }
  | .group name mode =>
    if name.any r.names.contains then none
    else some
      { mode, names := name.toList ++ r.names, inner := { mode := r.mode },
        outer := r.inner :: r.outer }

/-- Closes the innermost group. -/
def close? (r : Reading) : Option Reading :=
  match r.outer with
  | [] => none
  | l :: outer =>
    some { r with mode := r.inner.mode, inner := l.push ⟨r.inner.depth + 1, true⟩, outer }

end Reading

/-- The depth to which a pattern may be nested. -/
def greatestDepth : Nat := 250

/-- A text without one question mark in front, by which a repetition takes as little as it can. -/
def dropLazy : List Char → List Char
  | '?' :: s => s
  | s => s

/-- Whether the rest of a pattern ends it well. -/
def endsWell : Nat → Reading → List Char → Bool
  | 0, _, _ => false
  | fuel + 1, r, s =>
    let s := r.mode.skip s
    match s with
    | [] => r.outer.isEmpty && r.inner.depth ≤ greatestDepth
    | '(' :: rest =>
      match r.mode.groupFront? rest with
      | some (front, rest) => (r.open? front).any (endsWell fuel · rest)
      | none => false
    | ')' :: rest => r.close?.any (endsWell fuel · rest)
    | '|' :: rest => endsWell fuel { r with inner := r.inner.choose } rest
    | '*' :: rest | '+' :: rest | '?' :: rest =>
      r.inner.repeatLast?.any fun inner => endsWell fuel { r with inner } (dropLazy rest)
    | '[' :: rest =>
      match r.mode.class? rest with
      | some (depth, rest) => endsWell fuel (r.push ⟨depth, true⟩) rest
      | none => false
    | _ =>
      match r.mode.atom? s with
      | some (atom, rest) => r.mode.admits atom && endsWell fuel (r.push ⟨0, true⟩) rest
      | none => false

/-- Whether a text is nothing, or the exponent of a number. -/
def isExponent : List Char → Bool
  | [] => true
  | c :: s =>
    let digits := match s with
      | '+' :: rest | '-' :: rest => rest
      | _ => s
    (c == 'e' || c == 'E') && !digits.isEmpty && digits.all Char.isDigit

/-- Whether a text is a number without a sign. -/
def isUnsigned (s : List Char) : Bool :=
  let whole := s.takeWhile Char.isDigit
  let (fraction, rest) := match s.dropWhile Char.isDigit with
    | '.' :: rest => (rest.takeWhile Char.isDigit, rest.dropWhile Char.isDigit)
    | rest => ([], rest)
  ["inf", "infinity", "nan"].contains (String.ofList (s.map Char.toLower)) ||
    !(whole ++ fraction).isEmpty && isExponent rest

/-- Whether a text is a number with a plus sign. -/
def isPlusNumber : List Char → Bool
  | '+' :: s => isUnsigned s
  | _ => false

/-- Whether a text is a pattern. -/
def isPattern (s : List Char) : Bool :=
  isPlusNumber s || endsWell (s.length + 1) {} s

example : isPattern "p-[0-9]+|(a|b)*".toList = true := by decide +kernel
example : isPattern "*".toList = false ∧ isPattern "(a".toList = false := by decide +kernel
example : isPattern "(?-u)\\w+".toList = true ∧ isPattern "\\w+".toList = false := by
  decide +kernel

end EchoBench.Log.Pattern
