import EchoBench.Json.Number
import EchoBench.Text.Character

/-!
# `EchoBench.Record.Fault`: the wording of what is wrong with a record

A fault in the grammar has no wording of its own. Where the text is well formed, the message names
what was found and what was expected.
-/

set_option autoImplicit false

namespace EchoBench.Json

open EchoBench.Text (display)

/-- What was found, in words. -/
def Found.message : Found → String
  | .null => "null"
  | .flag value => "boolean `" ++ (if value then "true" else "false") ++ "`"
  | .whole value => "integer `" ++ toString value ++ "`"
  | .number value => "floating point `" ++ String.ofList (writeFloat value) ++ "`"
  | .text value => "string " ++ display value
  | .sequence => "sequence"
  | .map => "map"

/-- What was expected, in words. -/
def Expected.message : Expected → String
  | .text => "a string"
  | .bits16 => "u16"
  | .bits64 => "u64"
  | .number => "f64"
  | .flag => "a boolean"
  | .sequence => "a sequence"
  | .record => "struct TaskRecord"

/-- The difference between what was found and what was expected, in words. -/
def Mismatch.message : Mismatch → String
  | .wrongType found expected =>
    "invalid type: " ++ found.message ++ ", expected " ++ expected.message
  | .outOfRange value expected =>
    "invalid value: integer `" ++ toString value ++ "`, expected " ++ expected.message
  | .tooShort length =>
    "invalid length " ++ toString length ++ ", expected " ++ Expected.record.message ++
      " with 9 elements"
  | .missing field => "missing field `" ++ field ++ "`"
  | .duplicate field => "duplicate field `" ++ field ++ "`"

end EchoBench.Json
