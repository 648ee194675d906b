import EchoBench.Rehearsal.Connection
import EchoBench.Serve.Server

/-!
# `EchoBench.Rehearsal.Service`: a server against scripted callers

The script opens connections by name, sends on them and ends them, and tells the server to stop.
Connections that were made before go on after that.
-/

set_option autoImplicit false

namespace EchoBench.Rehearsal

open EchoBench.Serve

/-- What a script does with a server. -/
inductive ServiceStep
  | connect (name : Nat)
  /-- It sends bytes on a connection, and reads as many. -/
  | send (name : Nat) (data : List UInt8)
  | close (name : Nat)
  | reset (name : Nat)
  /-- It reads a connection to the end. -/
  | waitEnd (name : Nat)
  /-- It tells the server to stop, so many times. -/
  | shutdown (times : Nat)
  deriving DecidableEq, Repr

/-- What a script saw of a step. -/
inductive ServiceReport
  | connected
  | refused (cause : IoError)
  | echo (data : List UInt8)
  | left
  | ended (data : List UInt8) (fault : Option IoError)
  /-- The server stopped. For each time that it was told to, and for one more time afterwards: was
  there still somebody to be told? -/
  | stopped (told : List Bool) (after : Bool)
  | alreadyStopped
  deriving DecidableEq, Repr

/-- A server and its callers. -/
structure Service where
  server : Server
  /-- What lies between each handler and its caller. -/
  wires : Array Wire
  /-- The connections by name, the latest first. -/
  names : List (Nat × Nat)
  deriving DecidableEq, Repr

namespace Service

/-- A server without callers. -/
def start (settings : HandlerSettings) : Service :=
  ⟨.start settings, #[], []⟩

/-- Something happens on a connection, and its wire is changed with it. -/
def play (s : Service) (index : Nat) (events : List Handler.Event) (wire : Wire) : Service :=
  { s with
    server := s.server.play (events.map (.connection index))
    wires := s.wires.setIfInBounds index wire }

/-- A caller does something to its wire, and the handler goes on until it has to wait. -/
def on (s : Service) (index : Nat) (change : Wire → Wire) : Service :=
  match s.wires[index]?, s.server.handlers[index]? with
  | some wire, some handler =>
    let (events, wire) := (change wire).answers handler
    s.play index events wire
  | _, _ => s

/-- Time passes on a connection. -/
def passOn (s : Service) (time : Span) (index : Nat) : Service :=
  match s.wires[index]?, s.server.handlers[index]? with
  | some wire, some handler =>
    let (events, wire) := wire.pass handler time
    s.play index events wire
  | _, _ => s

/-- How long the handler of a connection would still wait. -/
def patienceOf? (s : Service) (index : Nat) : Option Span := do
  let wire ← s.wires[index]?
  let handler ← s.server.handlers[index]?
  if handler.stage = .reading then wire.patience? handler else none

/-- Time passes on all connections: those whose silence becomes too long first come first. -/
def pass (s : Service) (time : Span) : Service :=
  let indices := (List.range s.wires.size).mergeSort fun a b =>
    match s.patienceOf? a, s.patienceOf? b with
    | some x, some y => x.nanoseconds ≤ y.nanoseconds
    | some _, none => true
    | none, some _ => false
    | none, none => true
  indices.foldl (passOn · time) s

/-- A caller reads its connection to the end. -/
def readToEnd (s : Service) (index : Nat) : ServiceReport × Service :=
  let wire := s.wires.getD index .start
  (.ended wire.outbound wire.ending,
    { s with wires := s.wires.setIfInBounds index { wire with outbound := [] } })

/-- Whether the handler of a connection is done. -/
def isDone (s : Service) (index : Nat) : Bool :=
  ((s.server.handlers[index]?).map Handler.isDone).getD true

/-- A caller asks for a connection. Nobody listens once the server has stopped. -/
def connect (network : Network) (s : Service) (name : Nat) : ServiceReport × Service :=
  match network.barrier ownHost with
  | some cause => (.refused cause, s)
  | none =>
    if s.server.accepting then
      (.connected, { s with
        server := s.server.step .accepted
        wires := s.wires.push .start
        names := (name, s.wires.size) :: s.names })
    else (.refused .connectionRefused, s)

/-- The script makes a step on a connection. -/
def onConnection (s : Service) (index : Nat) : ServiceStep → Rehearsed (ServiceReport × Service)
  | .send _ data =>
    let s := s.on index (·.send data)
    let (echo, wire) := (s.wires.getD index .start).receive data.length
    .played (.echo echo, { s with wires := s.wires.setIfInBounds index wire })
  | .close _ => .played (.left, s.on index fun w => { w with side := .closed })
  | .reset _ => .played (.left, s.on index fun w => { w with side := .aborted })
  | _ =>
    if s.isDone index then .played (s.readToEnd index)
    else
      match s.patienceOf? index with
      | some time => .played ((s.pass time).readToEnd index)
      | none => .stuck

/-- The script makes a step. -/
def step (network : Network) (s : Service) (action : ServiceStep) :
    Rehearsed (ServiceReport × Service) :=
  match action with
  | .connect name => .played (s.connect network name)
  | .shutdown times =>
    if s.server.accepting then
      .played (.stopped (List.replicate times true) false,
        { s with server := s.server.play (List.replicate times .stop) })
    else .played (.alreadyStopped, s)
  | .send name _ | .close name | .reset name | .waitEnd name =>
    match s.names.lookup name with
    | some index => s.onConnection index action
    | none => .unconnected

/-- The script makes its steps. Each report comes with what the server has said by then. -/
def follow (network : Network) :
    List ServiceStep → Service → Rehearsed (List (ServiceReport × List ServerEvent))
  | [], _ => .played []
  | action :: script, s =>
    match s.step network action with
    | .played (report, after) =>
      let said := after.server.events.drop s.server.events.length
      match follow network script after with
      | .played reports => .played ((report, said) :: reports)
      | other => other
    | .crashed text => .crashed text
    | .stuck => .stuck
    | .unprepared cause => .unprepared cause
    | .unconnected => .unconnected

end Service

/-- Plays a server against scripted callers. -/
def rehearseServer (network : Network) (settings : HandlerSettings) (script : List ServiceStep) :
    Rehearsed (List (ServiceReport × List ServerEvent)) :=
  (Service.start settings).follow network script

end EchoBench.Rehearsal
