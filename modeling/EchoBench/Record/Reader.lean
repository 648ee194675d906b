import EchoBench.Json.Value
import EchoBench.Record.Line

/-!
# `EchoBench.Record.Reader`: texts as records

A record is read from a JSON object that has each field once, in any order and between any other
members, or from a JSON list of the values in order. `TaskRecord.ofText` gives the record or the
first fault from the left.

The values read so far are a `Draft`. A second value for a field is a fault where its name stands;
a field without a value is a fault only at the end of the object, and of several the first in order
is reported.
-/

set_option autoImplicit false

namespace EchoBench

open EchoBench.Json

/-- Reads the value of a field. -/
def Field.read : (f : Field) → List Char → Except Fault (f.Value × List Char)
  | .taskId, s | .host, s => readText s
  | .port, s => (readBounded .bits16 (UInt16.size - 1) s).map fun p => (UInt16.ofNat p.1, p.2)
  | .sent, s | .received, s =>
    (readBounded .bits64 (UInt64.size - 1) s).map fun p => (UInt64.ofNat p.1, p.2)
  | .connected, s => readFlag s
  | .totalMs, s | .averageMs, s => readFloat s
  | .errors, s => readTexts s

/-- The values that have been read. -/
def Draft : Type :=
  (f : Field) → Option f.Value

namespace Draft

/-- No value has been read. -/
def empty : Draft := fun _ => none

/-- The draft with a value for one more field. -/
def set (d : Draft) (f : Field) (v : f.Value) : Draft :=
  fun g => if h : g = f then some (h ▸ v) else d g

@[simp] theorem set_self (d : Draft) (f : Field) (v : f.Value) : d.set f v f = some v := by
  simp [set]

theorem set_of_ne (d : Draft) {f g : Field} (v : f.Value) (h : g ≠ f) : d.set f v g = d g := by
  simp [set, h]

/-- The value of a field, which has to be there. -/
def require (d : Draft) (f : Field) : Except Fault f.Value :=
  match d f with
  | some v => .ok v
  | none => .error (.mismatch (.missing f.name))

/-- The record of a draft that has a value for each field. -/
def record (d : Draft) : Except Fault TaskRecord := do
  let taskId ← d.require .taskId
  let host ← d.require .host
  let port ← d.require .port
  let sent ← d.require .sent
  let received ← d.require .received
  let connected ← d.require .connected
  let totalMs ← d.require .totalMs
  let errors ← d.require .errors
  let averageMs ← d.require .averageMs
  .ok { taskId, host, port, sent, received, connected, totalMs, errors, averageMs }

end Draft

/-- Reads the colon between a name and its value. -/
def readColon (s : List Char) : Except Fault (List Char) :=
  match dropSpace s with
  | [] => .error .truncated
  | ':' :: rest => .ok rest
  | _ => .error .malformed

/-- Reads what follows a name: the value of a field that has none yet, or a value to skip. -/
def readNamed (fuel : Nat) (name : String) (d : Draft) (s : List Char) :
    Except Fault (Draft × List Char) :=
  match Field.ofName? name with
  | some f =>
    if (d f).isSome then .error (.mismatch (.duplicate f.name))
    else do
      let (value, rest) ← f.read (← readColon s)
      .ok (d.set f value, rest)
  | none => do
    let rest ← skipValue fuel (← readColon s)
    .ok (d, rest)

/-- Reads the members of an object, from behind the quote that opens the first name up to the
closing brace. Every member takes a unit of fuel and more than one character, so what is enough to
skip the whole text stays enough to skip the rest. -/
def readMembers : Nat → Draft → List Char → Except Fault (Draft × List Char)
  | 0, _, _ => .error .truncated
  | fuel + 1, d, s => do
    let (name, rest) ← unquote s
    let (d, rest) ← readNamed fuel (String.ofList name) d rest
    match dropSpace rest with
    | [] => .error .truncated
    | '}' :: rest => .ok (d, rest)
    | ',' :: rest =>
      match dropSpace rest with
      | [] => .error .truncated
      | '"' :: rest => readMembers fuel d rest
      | _ => .error .malformed
    | _ => .error .malformed

/-- Reads a record from an object, from behind its opening brace. -/
def readObject (s : List Char) : Except Fault (TaskRecord × List Char) :=
  match dropSpace s with
  | [] => .error .truncated
  | '}' :: rest => Draft.empty.record.map fun r => (r, rest)
  | '"' :: rest => do
    let (d, rest) ← readMembers (skipFuel rest) .empty rest
    let r ← d.record
    .ok (r, rest)
  | _ => .error .malformed

/-- Goes on to the next item of a list, of which `count` have been read. -/
def nextItem (count : Nat) (s : List Char) : Except Fault (List Char) :=
  match dropSpace s with
  | [] => .error .truncated
  | ']' :: _ => .error (.mismatch (.tooShort count))
  | c :: rest =>
    if count = 0 then .ok (c :: rest)
    else if c = ',' then .ok rest
    else .error .malformed

/-- Reads the values of fields in order, where `count` values have been read before. -/
def readItems : List Field → Nat → Draft → List Char → Except Fault (Draft × List Char)
  | [], _, d, s => .ok (d, s)
  | f :: fields, count, d, s => do
    let (value, rest) ← f.read (← nextItem count s)
    readItems fields (count + 1) (d.set f value) rest

/-- Reads a record from a list, from behind its opening bracket. -/
def readList (s : List Char) : Except Fault (TaskRecord × List Char) := do
  let (d, rest) ← readItems Field.all 0 .empty s
  let r ← d.record
  match dropSpace rest with
  | [] => .error .truncated
  | ']' :: rest => .ok (r, rest)
  | _ => .error .malformed

/-- Reads a record from the front of a text. -/
def readRecord (s : List Char) : Except Fault (TaskRecord × List Char) :=
  match dropSpace s with
  | '[' :: rest => readList rest
  | '{' :: rest => readObject rest
  | s => .error (misfit .record s)

/-- Reads a text that is a record and nothing else. -/
def TaskRecord.ofText (text : String) : Except Fault TaskRecord := do
  let (r, rest) ← readRecord text.toList
  match dropSpace rest with
  | [] => .ok r
  | _ => .error .malformed

end EchoBench
