import EchoBench.Json.Number
import EchoBench.Json.Quoted

/-!
# `EchoBench.Json.Value`: values that were asked for, and others

The readers of texts and of numbers are put together here to the two things that a reader of records
needs: a value of a given type, and the end of a value that it does not know.
-/

set_option autoImplicit false

namespace EchoBench.Json

/-! ### Values of a type that was asked for

Each reader skips space, reads one value of its type, and gives it with the rest of the text. Where
another value stands, that value is read first, so a fault inside it is reported before its type
is; of a list or a map only the opening bracket is looked at.
-/

/-- What a number is found to be. -/
def Number.found : Number → Found
  | .whole n => .whole n
  | .float x => .number x

/-- What stands at the front of a text that begins with no space. -/
def found : List Char → Except Fault Found
  | [] => .error .truncated
  | c :: rest =>
    if c = 'n' then (readWord ['u', 'l', 'l'] rest).map fun _ => .null
    else if c = 't' then (readWord ['r', 'u', 'e'] rest).map fun _ => .flag true
    else if c = 'f' then (readWord ['a', 'l', 's', 'e'] rest).map fun _ => .flag false
    else if c = '-' then (readNumber true rest).map fun n => n.1.found
    else if c.isDigit then (readNumber false (c :: rest)).map fun n => n.1.found
    else if c = '"' then (unquote rest).map fun s => .text (String.ofList s.1)
    else if c = '[' then .ok .sequence
    else if c = '{' then .ok .map
    else .error .malformed

/-- The fault where a value of another type stands at the front of a text. -/
def misfit (expected : Expected) (s : List Char) : Fault :=
  match found s with
  | .ok value => .mismatch (.wrongType value expected)
  | .error fault => fault

/-- Reads a text. -/
def readText (s : List Char) : Except Fault (String × List Char) :=
  match dropSpace s with
  | '"' :: rest => (unquote rest).map fun p => (String.ofList p.1, p.2)
  | s => .error (misfit .text s)

/-- Reads any number, where one was expected. -/
def readAnyNumber (expected : Expected) (s : List Char) : Except Fault (Number × List Char) :=
  match dropSpace s with
  | '-' :: rest => readNumber true rest
  | s =>
    match s with
    | c :: _ => if c.isDigit then readNumber false s else .error (misfit expected s)
    | [] => .error .truncated

/-- Reads a whole number from zero up to a limit. A number with a fraction or an exponent, and the
negative zero, is no whole number, whatever its value. -/
def readBounded (expected : Expected) (greatest : Nat) (s : List Char) :
    Except Fault (Nat × List Char) :=
  match readAnyNumber expected s with
  | .error fault => .error fault
  | .ok (.float x, _) => .error (.mismatch (.wrongType (.number x) expected))
  | .ok (.whole n, rest) =>
    if 0 ≤ n ∧ n.toNat ≤ greatest then .ok (n.toNat, rest)
    else .error (.mismatch (.outOfRange n expected))

/-- Reads any number as a float. -/
def readFloat (s : List Char) : Except Fault (Float × List Char) :=
  match readAnyNumber .number s with
  | .error fault => .error fault
  | .ok (n, rest) => .ok (n.toFloat, rest)

/-- Reads `true` or `false`. -/
def readFlag (s : List Char) : Except Fault (Bool × List Char) :=
  match dropSpace s with
  | 't' :: rest => (readWord ['r', 'u', 'e'] rest).map fun rest => (true, rest)
  | 'f' :: rest => (readWord ['a', 'l', 's', 'e'] rest).map fun rest => (false, rest)
  | s => .error (misfit .flag s)

/-- Reads the items of a list of texts up to its closing bracket; at least one has to be there.
Every item takes a character, so the length of the text is enough fuel. -/
def readTextItems : Nat → List Char → Except Fault (List String × List Char)
  | 0, _ => .error .truncated
  | fuel + 1, s => do
    let (item, rest) ← readText s
    match dropSpace rest with
    | [] => .error .truncated
    | ',' :: rest =>
      let (items, rest) ← readTextItems fuel rest
      .ok (item :: items, rest)
    | ']' :: rest => .ok ([item], rest)
    | _ => .error .malformed

/-- Reads a list of texts. -/
def readTexts (s : List Char) : Except Fault (List String × List Char) :=
  match dropSpace s with
  | '[' :: rest =>
    match dropSpace rest with
    | ']' :: rest => .ok ([], rest)
    | rest => readTextItems (rest.length + 1) rest
  | s => .error (misfit .sequence s)

/-! ### Values that nobody asked for

A member that a record does not know is skipped. Its value has to follow the grammar, however deep
it is nested, but it is not looked at any further: a number may be beyond every float, and a
surrogate may stand alone.

Every call takes one unit of fuel, and of two calls in a row at least one takes a character. So two
units for each character and two more are never used up (`skipFuel`).
-/

mutual

/-- Skips a value. -/
def skipValue : Nat → List Char → Except Fault (List Char)
  | 0, _ => .error .truncated
  | fuel + 1, s =>
    match dropSpace s with
    | [] => .error .truncated
    | c :: rest =>
      if c = '"' then skipQuoted rest
      else if c = '[' then
        match dropSpace rest with
        | ']' :: rest => .ok rest
        | rest => skipItems fuel rest
      else if c = '{' then
        match dropSpace rest with
        | '}' :: rest => .ok rest
        | rest => skipMembers fuel rest
      else if c = 'n' then readWord ['u', 'l', 'l'] rest
      else if c = 't' then readWord ['r', 'u', 'e'] rest
      else if c = 'f' then readWord ['a', 'l', 's', 'e'] rest
      else if c = '-' then skipNumber rest
      else if c.isDigit then skipNumber (c :: rest)
      else .error .malformed

/-- Skips the items of a list up to its closing bracket; at least one has to be there. -/
def skipItems : Nat → List Char → Except Fault (List Char)
  | 0, _ => .error .truncated
  | fuel + 1, s => do
    match dropSpace (← skipValue fuel s) with
    | [] => .error .truncated
    | ',' :: rest => skipItems fuel rest
    | ']' :: rest => .ok rest
    | _ => .error .malformed

/-- Skips the members of a map up to its closing brace; at least one has to be there. -/
def skipMembers : Nat → List Char → Except Fault (List Char)
  | 0, _ => .error .truncated
  | fuel + 1, s =>
    match dropSpace s with
    | [] => .error .truncated
    | '"' :: rest => do
      match dropSpace (← skipQuoted rest) with
      | [] => .error .truncated
      | ':' :: rest =>
        match dropSpace (← skipValue fuel rest) with
        | [] => .error .truncated
        | ',' :: rest => skipMembers fuel rest
        | '}' :: rest => .ok rest
        | _ => .error .malformed
      | _ => .error .malformed
    | _ => .error .malformed

end

/-- Fuel that is enough to skip any value at the front of a text. -/
def skipFuel (s : List Char) : Nat :=
  2 * s.length + 2

end EchoBench.Json
