import EchoBench.Json.Number
import EchoBench.Json.Quoted
import EchoBench.Record

/-!
# `EchoBench.Record.Line`: a record by its fields, and on a line of its own

The written form of a record lists its fields by name. `Field` is that list, `Field.Value` gives the
type of each, and `TaskRecord.get` takes a field out of a record. What is written or read for one
field is said once for all of them.
-/

set_option autoImplicit false

namespace EchoBench

open EchoBench.Json
open EchoBench.Text (decimal)

/-! ### Fields -/

/-- The fields of a record, in the order in which they are written. -/
inductive Field
  | taskId
  | host
  | port
  | sent
  | received
  | connected
  | totalMs
  | errors
  | averageMs
  deriving DecidableEq, Repr

namespace Field

/-- All fields, in the order in which they are written. -/
def all : List Field :=
  [taskId, host, port, sent, received, connected, totalMs, errors, averageMs]

/-- The name under which a field is written. -/
def name : Field → String
  | taskId => "client_full_id"
  | host => "server_ip"
  | port => "server_port"
  | sent => "messages_sent"
  | received => "messages_received"
  | connected => "connection_success"
  | totalMs => "total_latency_ms"
  | errors => "errors"
  | averageMs => "average_latency_ms"

/-- The field with a name. -/
def ofName? (name : String) : Option Field :=
  all.find? (·.name = name)

/-- The type of the values of a field. -/
abbrev Value : Field → Type
  | taskId | host => String
  | port => UInt16
  | sent | received => UInt64
  | connected => Bool
  | totalMs | averageMs => Float
  | errors => List String

theorem mem_all (f : Field) : f ∈ all := by
  cases f <;> decide

theorem nodup_all : all.Nodup := by
  decide

/-- No two fields have one name, and every field is found under its name. -/
theorem ofName?_name (f : Field) : ofName? f.name = some f := by
  cases f <;> decide

/-- A field is found only under its own name. -/
theorem name_of_ofName? {s : String} {f : Field} (h : ofName? s = some f) : f.name = s := by
  simpa using List.find?_some h

end Field

namespace TaskRecord

/-- The value of a field. -/
def get (r : TaskRecord) : (f : Field) → f.Value
  | .taskId => r.taskId
  | .host => r.host
  | .port => r.port
  | .sent => r.sent
  | .received => r.received
  | .connected => r.connected
  | .totalMs => r.totalMs
  | .errors => r.errors
  | .averageMs => r.averageMs

end TaskRecord

/-! ### A record on a line of its own

A record is written as one JSON object without any space, its fields in order, and ends its line.
A newline inside a text is escaped, so the line break at the end is the only one.
-/

/-- Puts commas between texts. -/
def commaSeparated (items : List (List Char)) : List Char :=
  List.intercalate [','] items

/-- The written form of the value of a field. -/
def Field.write : (f : Field) → f.Value → List Char
  | .taskId, v | .host, v => quote v.toList
  | .port, v => decimal v.toNat
  | .sent, v | .received, v => decimal v.toNat
  | .connected, v => if v then ['t', 'r', 'u', 'e'] else ['f', 'a', 'l', 's', 'e']
  | .totalMs, v | .averageMs, v => writeFloat v
  | .errors, v => '[' :: commaSeparated (v.map fun s => quote s.toList) ++ [']']

namespace TaskRecord

/-- A field with its name. -/
def member (r : TaskRecord) (f : Field) : List Char :=
  quote f.name.toList ++ ':' :: f.write (r.get f)

/-- The written form of a record. -/
def json (r : TaskRecord) : List Char :=
  '{' :: commaSeparated (Field.all.map r.member) ++ ['}']

/-- The line that a record takes, with its line break. -/
def line (r : TaskRecord) : String :=
  String.ofList (r.json ++ ['\n'])

end TaskRecord

end EchoBench
