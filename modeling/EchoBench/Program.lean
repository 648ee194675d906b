import EchoBench.Load.Run
import EchoBench.Log.Filter
import EchoBench.Serve.Server
import EchoBench.Sink.JsonLines

/-!
# `EchoBench.Program`: the two programs

Both programs take their settings from the environment, and what they have to say goes to a log, of
which a filter from the environment chooses the entries that are shown. A program ends at once where
that filter cannot be had.
-/

set_option autoImplicit false

namespace EchoBench.Config

/-! ### A load run

The program lets all clients talk, and writes each record as a line to its standard output. It ends
well whatever became of its clients.
-/

/-- The log entry of a warning. -/
def Warning.entry (w : Warning) : Log.Entry :=
  ⟨.warn, .settings, w.message,
    [("variable", w.name), ("value", w.value)] ++
      (w.fallback.map fun n => ("default", toString n)).toList ++ [("error", w.fault.message)]⟩

/-- The setting that chooses the log entries that are shown. -/
def filterSetting : String := "RUST_LOG"

/-- The filter for the log. -/
def Lookup.filter? (l : Lookup) : Option (List Log.Directive) :=
  Log.filterOf? (l filterSetting)

/-- The log entries that are shown. -/
def Lookup.shown (l : Lookup) (entries : List Log.Entry) : List Log.Entry :=
  match l.filter? with
  | some filter => entries.filter (Log.shows filter)
  | none => []

end EchoBench.Config

namespace EchoBench.Program

open EchoBench.Config
open EchoBench.Load
open EchoBench.Serve

/-- What the program leaves behind. -/
structure LoadReport where
  /-- The number with which it ends. -/
  exit : Nat
  /-- The bytes on its standard output. -/
  output : List UInt8
  /-- The log entries that are shown. -/
  shown : List Log.Entry
  deriving Repr

/-- The number with which a program ends that crashed. -/
def crashExit : Nat := 101

/-- What the program leaves behind when its clients do what `body` says and it has a filter. -/
def loadFiltered (lookup : Lookup) (body : LoadSettings → Nat → Body) (label : Nat → String)
    (writer : Writer) : LoadReport :=
  let settings := LoadSettings.ofLookup lookup
  let plan : RunPlan JsonLines :=
    { settings := settings.value, sink := .jsonLines, body := body settings.value, label }
  let run := LoadRun.execute plan (.start writer)
  let entries := settings.warnings.map Warning.entry ++ run.log.map RunEvent.entry
  { exit := if run.crash.isSome then crashExit else 0
    output := run.sink.output
    shown := lookup.shown entries }

/-- What the program leaves behind when its clients do what `body` says. -/
def load (lookup : Lookup) (body : LoadSettings → Nat → Body) (label : Nat → String)
    (writer : Writer) : LoadReport :=
  if lookup.filter?.isSome then loadFiltered lookup body label writer
  else { exit := crashExit, output := [], shown := [] }

/-! ### An echo server

The program listens. Where it cannot, it says so with the cause and ends with a failure. Otherwise
it serves until it is stopped.
-/

/-- What the program does once it has tried to listen. -/
inductive ServeStart
  /-- It ends at once, for want of a filter. -/
  | crashed
  /-- It ends with a failure: what it could not do, and why. -/
  | failed (context cause : String)
  /-- It serves. -/
  | listening (settings : ServerSettings)
  deriving Repr

/-- The wording of a start that failed. -/
def startContext : String :=
  "Failed to start TCP echo server"

/-- What the program says before it listens. -/
def openingEntries (s : Reported ServerSettings) : List Log.Entry :=
  s.warnings.map Warning.entry ++
    [⟨.info, .serverProgram, "Starting TCP echo server",
      [("address", s.value.endpoint.text), ("buffer_size", toString s.value.bufferSize),
        ("idle_timeout", (s.value.idleTimeout.map fun limit => limit.text).getD "none")]⟩]

/-- What the program says once it listens. -/
def listeningEntry (s : ServerSettings) : Log.Entry :=
  ⟨.info, .server, "Echo server listening", [("address", s.endpoint.text)]⟩

/-- Starts the program, where listening may fail. -/
def serve (lookup : Lookup) (bindFault : ServerSettings → Option IoError) : ServeStart :=
  if lookup.filter?.isNone then .crashed
  else
    let settings := (ServerSettings.ofLookup lookup).value
    match bindFault settings with
    | some cause => .failed startContext (EchoError.bind settings.endpoint cause).message
    | none => .listening settings

/-- The log entries that are shown of a server that listened and did what is given. -/
def serveShown (lookup : Lookup) (events : List ServerEvent) : List Log.Entry :=
  let settings := ServerSettings.ofLookup lookup
  lookup.shown (openingEntries settings ++ listeningEntry settings.value ::
    events.map ServerEvent.entry)

end EchoBench.Program
