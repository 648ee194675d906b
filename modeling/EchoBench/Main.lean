import EchoBench.Load.Client
import EchoBench.Program
import Std.Async.DNS
import Std.Async.Signal
import Std.Async.TCP
import Std.Async.Timer
import Std.Sync.Channel

/-!
# `EchoBench.Main`: the command line

`load` makes a load run against an echo server, and `serve` runs one. Both take their settings from
the environment. Nothing is decided here: the calls of a real machine are made, their answers are
handed to `Client`, `LoadRun`, `Handler` and `Server`, and what these write and say is shown.
-/

set_option autoImplicit false

namespace EchoBench.Main

open EchoBench.Config
open EchoBench.Load
open EchoBench.Net
open EchoBench.Program
open EchoBench.Serve
open Std.Async

/-! ## The machine -/

/-- The failure that the operating system numbers. For a connection the number comes as its
complement. Names are looked up with numbers of their own, which are beyond all others. -/
def causeOfCode (code : UInt32) (details : String) : IoError :=
  let number := min code (0 - code)
  if number < 3000 then .os number.toNat
  else .worded .other ("failed to lookup address information: " ++ details)

/-- The cause of a failed call. -/
def causeOf : IO.Error → IoError
  | .otherError code details | .resourceBusy code details | .resourceVanished code details
  | .unsupportedOperation code details | .hardwareFault code details
  | .unsatisfiedConstraints code details | .illegalOperation code details
  | .protocolError code details | .timeExpired code details | .alreadyExists _ code details
  | .interrupted _ code details | .noFileOrDirectory _ code details
  | .invalidArgument _ code details | .permissionDenied _ code details
  | .resourceExhausted _ code details | .inappropriateType _ code details
  | .noSuchThing _ code details => causeOfCode code details
  | .unexpectedEof => .plain .unexpectedEof
  | .userError text => .worded .other text

/-- The answer to a call, or the cause of its failure. -/
def answered {α : Type} (call : Async α) : Async (Except IoError α) := do
  try return .ok (← call) catch e => return .error (causeOf e)

/-- A span for a timer, which counts whole milliseconds. Thirty years stand for all that is
longer. -/
def timerSpan (s : Span) : Std.Time.Millisecond.Offset :=
  .ofNat (min ((s.nanoseconds + 999999) / 1000000) (30 * 365 * 86400000))

/-- The answer to a call, unless it is given a time and that is over before. -/
def limited {α : Type} (limit : Option Span) (call : Async α) : Async (Option α) := do
  match limit with
  | none => some <$> call
  | some limit =>
    let timer ← Sleep.mk (timerSpan limit)
    let answer ← Async.race (some <$> call) (do timer.wait; return none)
    timer.stop
    return answer

/-- The most bytes that one call asks for; a greater buffer is never filled at once. -/
def greatestRead : UInt64 :=
  4194304

/-- Reads at most so many bytes, within a time if there is a limit. -/
def receive (socket : TCP.Socket.Client) (size : UInt64) (limit : Option Span) :
    Async ReadAnswer := do
  let size := min size greatestRead
  match ← limited limit (answered (socket.recv? size)) with
  | some (.ok none) => return .data []
  | some (.ok (some bytes)) => return .data bytes.toList
  | some (.error cause) => return .failed cause
  | none =>
    (socket.recvSelector size).unregisterFn
    return .expired

/-- Writes bytes, within a time if there is a limit. -/
def transmit (socket : TCP.Socket.Client) (bytes : ByteArray) (limit : Option Span) :
    Async WriteAnswer := do
  match ← limited limit (answered (socket.send bytes)) with
  | some (.ok ()) => return .done
  | some (.error cause) => return .failed 0 cause
  | none => return .expired 0

/-- The settings with some names among the variables that the program was started with. -/
def readLookup (names : List String) : IO Lookup := do
  let values ← names.mapM fun name => do return (name, ← IO.getEnv name)
  return fun name => (values.lookup name).join

/-- Shows what there is to say. -/
def tell (lookup : Lookup) (entries : List Log.Entry) : IO Unit := do
  let log ← IO.getStderr
  for entry in lookup.shown entries do
    log.putStrLn entry.text

/-- Runs a program, unless the filter for its log cannot be had. -/
def filtered (lookup : Lookup) (program : Async UInt32) : Async UInt32 := do
  if lookup.filter?.isSome then program
  else
    IO.eprintln ("the value of " ++ filterSetting ++ " would be cut within a character")
    return .ofNat crashExit

/-! ## A load run -/

/-- Connects to the first address of a host that takes the call. -/
def connect (settings : LoadSettings) : Async TCP.Socket.Client := do
  let addresses ← DNS.getAddrInfo settings.host (toString settings.port)
  let mut failure : IO.Error := .userError "could not resolve to any address"
  for address in addresses.toList.eraseDups do
    try
      let socket ← TCP.Socket.Client.mk
      match address with
      | .v4 ip => socket.connect (.v4 ⟨ip, settings.port⟩)
      | .v6 ip => socket.connect (.v6 ⟨ip, settings.port⟩)
      socket.noDelay
      return socket
    catch e => failure := e
  throw failure

/-- Lets a connected client talk until it is done. The times are those at which its deadline ends
and at which its message was begun. -/
partial def converse (settings : LoadSettings) (socket : TCP.Socket.Client) (deadline begun : Nat)
    (c : Client) : Async Client := do
  let now ← IO.monoNanosNow
  let left : Option Span := some ⟨deadline - now⟩
  match c.stage with
  | .sending seq =>
    let answer ← transmit socket (c.message settings seq).toUTF8 left
    converse settings socket deadline now (c.wrote seq answer)
  | .waiting seq =>
    let answer ← receive socket settings.bufferSize left
    let latency : Span := ⟨(← IO.monoNanosNow) - begun⟩
    converse settings socket deadline begun (c.received settings seq latency answer)
  | .dialing | .finished | .crashed _ => return c

/-- Lets the client with a number talk. -/
def talk (settings : LoadSettings) (index : Nat) : Async Client := do
  let c := Client.start settings index
  match ← limited (some settings.dialTimeout) (answered (connect settings)) with
  | none => return c.dialed settings .expired
  | some (.error cause) => return c.dialed settings (.failed cause)
  | some (.ok socket) =>
    let now ← IO.monoNanosNow
    converse settings socket (deadline .machine now settings.ioDeadline) now
      (c.dialed settings .connected)

/-- Writes bytes to the standard output: the answers of a writer that does the same. -/
def writeOut (bytes : List UInt8) : IO (List Writer.WriteAnswer) := do
  try
    let out ← IO.getStdout
    out.write (ByteArray.mk bytes.toArray)
    out.flush
    return []
  catch e => return [.fails (causeOf e)]

/-- Makes a move of a run, and shows what is written and said. The run keeps neither. -/
def makeMove (lookup : Lookup) (plan : RunPlan JsonLines) (run : LoadRun JsonLines) (move : Move) :
    IO (LoadRun JsonLines) := do
  let moved (answers : List Writer.WriteAnswer) : LoadRun JsonLines :=
    LoadRun.step plan { run with events := [], sink := .start (.scripted answers []) } move
  let output := (moved []).sink.output
  let answers ← if output.isEmpty then pure [] else writeOut output
  let after := moved answers
  tell lookup (after.events.map RunEvent.entry)
  return after

/-- Takes the clients of a run as they finish, until it is complete or ends without a summary. -/
partial def overseeRun (lookup : Lookup) (plan : RunPlan JsonLines)
    (finished : Std.Channel (Nat × Body)) (run : LoadRun JsonLines) : Async UInt32 := do
  if run.isComplete then
    tell lookup [(RunEvent.completed run.summary).entry]
    return 0
  else
    match run.crash with
    | some text =>
      IO.eprintln text
      return .ofNat crashExit
    | none =>
      let (index, body) ← await (← finished.recv)
      let mut run ← makeMove lookup { plan with body := fun _ => body } run (.finish index)
      for _ in List.range (run.handles.size - run.joined) do
        run ← makeMove lookup plan run .join
      overseeRun lookup plan finished run

/-- Makes a load run. -/
def load (lookup : Lookup) : Async UInt32 := do
  let ⟨settings, warnings⟩ := LoadSettings.ofLookup lookup
  let plan : RunPlan JsonLines :=
    { settings, sink := .jsonLines, body := fun _ => .crashed "", label := toString }
  let run := LoadRun.start settings (.start (.scripted [] []))
  tell lookup (warnings.map Warning.entry ++ run.events.map RunEvent.entry)
  let finished ← Std.Channel.new
  for index in List.range run.handles.size do
    background do
      let client ← talk settings index
      discard <| finished.send (index, Body.ofClient client)
  overseeRun lookup plan finished run

/-! ## An echo server -/

/-- Changes a server, and shows what it says. The server keeps neither that nor its handlers, each
of which is kept where its connection is served. -/
def change (lookup : Lookup) (server : IO.Ref Server) (f : Server → Server) : IO Unit := do
  let said ← server.modifyGet fun s =>
    let after := f s
    (after.events, { after with events := [], handlers := #[] })
  tell lookup (said.map ServerEvent.entry)

/-- Serves a connection until its handler is done. -/
partial def attend (lookup : Lookup) (server : IO.Ref Server) (socket : TCP.Socket.Client)
    (h : Handler) : Async Unit := do
  tell lookup (h.events.map HandlerEvent.entry)
  let h := { h with events := [] }
  match h.stage with
  | .reading =>
    let answer ← receive socket (.ofNat h.settings.bufferSize) h.settings.idleTimeout
    attend lookup server socket (h.step (.read answer))
  | .writing _ =>
    let answer ← transmit socket (ByteArray.mk h.chunk.toArray) none
    attend lookup server socket (h.step (.write answer))
  | .ended | .failed _ => change lookup server (·.close h)
  | .crashed text => IO.eprintln text

/-- Accepts connections until the user stops the server. -/
partial def overseeServer (lookup : Lookup) (server : IO.Ref Server)
    (listener : TCP.Socket.Server) (interrupt : Signal.Waiter) : Async Unit := do
  let next ← answered <| Selectable.one #[
    .case listener.acceptSelector fun socket => return some socket,
    .case interrupt.selector fun _ => return none]
  match next with
  | .ok (some socket) =>
    change lookup server (·.step .accepted)
    let settings := (← server.get).settings
    background (attend lookup server socket (.start settings))
    overseeServer lookup server listener interrupt
  | .ok none => change lookup server (·.step .interrupt)
  | .error cause =>
    change lookup server (·.step (.acceptFailed cause))
    overseeServer lookup server listener interrupt

/-- Where a server listens, for the operating system. -/
def addressOf (settings : ServerSettings) : Std.Net.SocketAddress :=
  match settings.ip with
  | .v4 a b c d => .v4 ⟨.ofParts a b c d, settings.port⟩
  | .v6 groups => .v6 ⟨⟨groups⟩, settings.port⟩

/-- Runs an echo server. -/
def serve (lookup : Lookup) : Async UInt32 := do
  let settings := ServerSettings.ofLookup lookup
  tell lookup (openingEntries settings)
  let listener ← TCP.Socket.Server.mk
  let listening ← answered do
    listener.bind (addressOf settings.value)
    listener.listen 1024
    listener.noDelay
  let fault : Option IoError := match listening with
    | .ok () => none
    | .error cause => some cause
  match Program.serve lookup fun _ => fault with
  | .crashed => return .ofNat crashExit
  | .failed context cause =>
    IO.eprintln ("Error: " ++ context ++ "\n\nCaused by:\n    " ++ cause)
    return 1
  | .listening settings =>
    tell lookup [listeningEntry settings]
    let server ← IO.mkRef (Server.start (Server.handlerSettings settings))
    let interrupt ← Signal.Waiter.mk .sigint false
    overseeServer lookup server listener interrupt
    return 0

/-- Runs a program with the settings of some names. -/
def run (names : List String) (program : Lookup → Async UInt32) : IO UInt32 := do
  let lookup ← readLookup (filterSetting :: names)
  (filtered lookup (program lookup)).block

/-- How the program is used. -/
def usage : String :=
  "usage: echobench load | serve"

end EchoBench.Main

/-- Runs the program. -/
def main (args : List String) : IO UInt32 :=
  match args with
  | ["load"] => EchoBench.Main.run EchoBench.Config.LoadSettings.names EchoBench.Main.load
  | ["serve"] => EchoBench.Main.run EchoBench.Config.ServerSettings.names EchoBench.Main.serve
  | _ => do
    IO.eprintln EchoBench.Main.usage
    return 2
