/-!
# `EchoBench.Log`: what the programs say while they work

An `Entry` is one line of the log: how important it is, which part of the programs says it, and
what it says. Records go to the standard output and log entries never do, so the two cannot mix.
-/

set_option autoImplicit false

namespace EchoBench.Log

/-- How important an entry is, the most important first. -/
inductive Level
  | error
  | warn
  | info
  | debug
  | trace
  deriving DecidableEq, Repr

/-- The place of a level among the levels, from one. -/
def Level.rank : Level → Nat
  | error => 1
  | warn => 2
  | info => 3
  | debug => 4
  | trace => 5

/-- The name of a level. -/
def Level.name : Level → String
  | error => "ERROR"
  | warn => "WARN"
  | info => "INFO"
  | debug => "DEBUG"
  | trace => "TRACE"

/-- The part of the programs that an entry comes from. -/
inductive Origin
  /-- The reading of settings. -/
  | settings
  /-- The load run as a whole. -/
  | run
  /-- The server and its connections. -/
  | server
  /-- The start of the server program. -/
  | serverProgram
  deriving DecidableEq, Repr

/-- The path by which a filter names an origin. -/
def Origin.path : Origin → String
  | settings => "echoload::common::env"
  | run => "echoload::client::generator"
  | server => "echoload::server::server"
  | serverProgram => "echo_server"

/-- A line of the log. -/
structure Entry where
  level : Level
  origin : Origin
  message : String
  /-- Named values that belong to the message. -/
  fields : List (String × String)
  deriving DecidableEq, Repr

/-- The entry as a line of text. -/
def Entry.text (e : Entry) : String :=
  e.level.name ++ " " ++ e.origin.path ++ ": " ++ e.message ++
    String.join (e.fields.map fun (name, value) => " " ++ name ++ "=" ++ value)

end EchoBench.Log
