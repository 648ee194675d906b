import EchoBench.Log
import EchoBench.Net.Stream

/-!
# `EchoBench.Serve.Handler`: one connection of an echo server

A handler reads some bytes and writes them back in full before it reads again. It ends well when
the stream ends or has been silent for too long, and with an error when a call fails.

One buffer serves all reads of a connection. A read fills its front and leaves the rest as it was,
so a buffer holds more than the last read gave; only the front is written back. `Handler.buffer` is
the part of the buffer that has ever been filled.
-/

set_option autoImplicit false

namespace EchoBench.Serve

open EchoBench.Net

/-- What a handler says in its log. -/
inductive HandlerEvent
  | clientClosed
  | idle (limit : Span)
  | echoed (size : Nat)
  deriving DecidableEq, Repr

/-- The log entry of an event. -/
def HandlerEvent.entry : HandlerEvent → Log.Entry
  | clientClosed => ⟨.debug, .server, "Client closed connection", []⟩
  | idle limit => ⟨.warn, .server, "Idle timeout", [("timeout", limit.text)]⟩
  | echoed size => ⟨.debug, .server, "Echoed data", [("size", toString size)]⟩

/-- How far a handler is. -/
inductive HandlerStage
  /-- It waits for bytes. -/
  | reading
  /-- It writes back so many bytes from the front of its buffer. -/
  | writing (size : Nat)
  /-- It has ended well. -/
  | ended
  /-- It has ended with an error. -/
  | failed (error : EchoError)
  /-- It stopped without an answer, and left a text. -/
  | crashed (text : String)
  deriving DecidableEq, Repr

/-- How a server treats each of its connections. -/
structure HandlerSettings where
  /-- How many bytes are read at once. -/
  bufferSize : Nat
  /-- How long a connection may stay silent, where there is a limit. -/
  idleTimeout : Option Span
  deriving DecidableEq, Repr

/-- A connection that is being served. -/
structure Handler where
  settings : HandlerSettings
  /-- What the reads so far have left in the buffer. -/
  buffer : List UInt8
  stage : HandlerStage
  /-- What has been said in the log. -/
  events : List HandlerEvent
  deriving DecidableEq, Repr

namespace Handler

/-- A handler before its first read. Its buffer is set up first. -/
def start (settings : HandlerSettings) : Handler :=
  { settings, buffer := []
    stage := if settings.bufferSize ≤ greatestBuffer then .reading else .crashed bufferCrash
    events := [] }

/-- The handler goes on. -/
def goTo (h : Handler) (stage : HandlerStage) : Handler :=
  { h with stage }

/-- The handler says something in its log. -/
def say (h : Handler) (event : HandlerEvent) : Handler :=
  { h with events := h.events ++ [event] }

/-- Fills the front of the buffer. -/
def fill (h : Handler) (bytes : List UInt8) : Handler :=
  { h with buffer := bytes ++ h.buffer.drop bytes.length }

/-- The bytes that are to be written back. -/
def chunk (h : Handler) : List UInt8 :=
  match h.stage with
  | .writing size => h.buffer.take size
  | .reading | .ended | .failed _ | .crashed _ => []

/-- What the answer to a read makes of a handler. Without a limit on silence no time is ever
over. -/
def received (h : Handler) : ReadAnswer → Handler
  | .data [] => (h.say .clientClosed).goTo .ended
  | .data bytes => (h.fill bytes).goTo (.writing bytes.length)
  | .failed cause => h.goTo (.failed (.read cause))
  | .expired =>
    match h.settings.idleTimeout with
    | some limit => (h.say (.idle limit)).goTo .ended
    | none => h

/-- What is written back is what was read, whatever the buffer holds behind it. -/
theorem chunk_received_data (h : Handler) {bytes : List UInt8} (hbytes : bytes ≠ []) :
    (h.received (.data bytes)).chunk = bytes := by
  cases bytes with
  | nil => exact absurd rfl hbytes
  | cons b bytes => simp [received, goTo, fill, chunk]

/-- What the answer to writing back so many bytes makes of a handler. A write has no limit of
time. -/
def wrote (h : Handler) (size : Nat) : WriteAnswer → Handler
  | .done => (h.say (.echoed size)).goTo .reading
  | .failed _ cause => h.goTo (.failed (.write cause))
  | .expired _ => h

/-- What happens next on the stream of a handler. -/
inductive Event
  | read (answer : ReadAnswer)
  | write (answer : WriteAnswer)
  deriving DecidableEq, Repr

/-- What an event makes of a handler. An answer to a call that the handler has not made changes
nothing. -/
def step (h : Handler) : Event → Handler
  | .read answer =>
    match h.stage with
    | .reading => h.received answer
    | .writing _ | .ended | .failed _ | .crashed _ => h
  | .write answer =>
    match h.stage with
    | .writing size => h.wrote size answer
    | .reading | .ended | .failed _ | .crashed _ => h

/-- What a list of events makes of a handler. -/
def play (h : Handler) (events : List Event) : Handler :=
  events.foldl step h

/-- Whether a handler is done, well or with an error. -/
def isDone (h : Handler) : Bool :=
  match h.stage with
  | .ended | .failed _ => true
  | .reading | .writing _ | .crashed _ => false

/-- The error with which a handler ended. -/
def error? (h : Handler) : Option EchoError :=
  match h.stage with
  | .failed error => some error
  | .reading | .writing _ | .ended | .crashed _ => none

end Handler

end EchoBench.Serve
