import EchoBench.Text.Numeral

/-!
# `EchoBench.Json.Fault`: why a text cannot be read

Reading goes from left to right and stops at the first fault. A fault is one of three: the text
breaks the grammar, it ends too early, or it is well formed so far and holds something other than
what was asked for. A reader takes the text from its front and gives the value with the rest.
-/

set_option autoImplicit false

namespace EchoBench.Json

open EchoBench.Text

/-! ### Faults -/

/-- What stood where another value was asked for. -/
inductive Found
  | null
  | flag (value : Bool)
  | whole (value : Int)
  | number (value : Float)
  | text (value : String)
  | sequence
  | map
  deriving DecidableEq, Repr

/-- What was asked for. -/
inductive Expected
  | text
  | bits16
  | bits64
  | number
  | flag
  | sequence
  | record
  deriving DecidableEq, Repr

/-- How a well-formed value differs from what was asked for. -/
inductive Mismatch
  /-- The value is of another type. -/
  | wrongType (found : Found) (expected : Expected)
  /-- The value is a whole number beyond the limits of the type. -/
  | outOfRange (value : Int) (expected : Expected)
  /-- A record written as a list has too few members. -/
  | tooShort (length : Nat)
  /-- A record has no value for a field. -/
  | missing (field : String)
  /-- A record has a second value for a field. -/
  | duplicate (field : String)
  deriving DecidableEq, Repr

/-- Why a text cannot be read. -/
inductive Fault
  /-- The text breaks the grammar. -/
  | malformed
  /-- The text ends too early. -/
  | truncated
  /-- The text is well formed so far but holds something else. -/
  | mismatch (reason : Mismatch)
  deriving DecidableEq, Repr

/-- Skips the characters that may stand between tokens. -/
def dropSpace : List Char → List Char
  | [] => []
  | c :: rest =>
    if c = ' ' ∨ c = '\n' ∨ c = '\t' ∨ c = '\r' then dropSpace rest else c :: rest

/-- Reads a fixed word, of which the first letter has been read already. -/
def readWord : List Char → List Char → Except Fault (List Char)
  | [], s => .ok s
  | _ :: _, [] => .error .truncated
  | w :: word, c :: rest => if c = w then readWord word rest else .error .malformed

/-- Space is skipped once and for all. -/
theorem dropSpace_dropSpace (s : List Char) : dropSpace (dropSpace s) = dropSpace s := by
  induction s with
  | nil => rfl
  | cons c rest ih =>
    by_cases h : c = ' ' ∨ c = '\n' ∨ c = '\t' ∨ c = '\r'
    · simp [dropSpace, h, ih]
    · simp [dropSpace, h]

/-! ### Where in a text a fault is

The wording of a fault may end in its place: ` at line 3 column 5`. The place is kept as two
numbers and written anew behind the rest of the wording, so leading zeros go; line zero is no place,
and goes as a whole. An ending of any other form is a part of the wording.
-/

/-- The text in front of an ending. -/
def dropEnding? (ending s : List Char) : Option (List Char) :=
  if ending.isSuffixOf s then some (s.take (s.length - ending.length)) else none

/-- The number of sixty-four bits in which a text ends, with the text in front of it. -/
def endNumber? (s : List Char) : Option (List Char × Nat) :=
  let digits := (s.reverse.takeWhile Char.isDigit).reverse
  match readNumeral .bits64 digits with
  | .ok n => some (s.take (s.length - digits.length), n)
  | .error _ => none

/-- The wording in front of a place, with the line and the column of the place. -/
def place? (s : List Char) : Option (List Char × Nat × Nat) := do
  let (s, column) ← endNumber? s
  let (s, line) ← endNumber? (← dropEnding? " column ".toList s)
  some (← dropEnding? " at line ".toList s, line, column)

/-- A wording with its place written anew. -/
def placeAnew (wording : String) : String :=
  match place? wording.toList with
  | none => wording
  | some (front, line, column) =>
    if line = 0 then String.ofList front
    else String.ofList front ++ " at line " ++ toString line ++ " column " ++ toString column

example : placeAnew "odd at line 03 column 5" = "odd at line 3 column 5" := by decide +kernel
example : placeAnew "odd at line 0 column 5" = "odd" := by decide +kernel

end EchoBench.Json
