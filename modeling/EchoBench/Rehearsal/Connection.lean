import EchoBench.Rehearsal.Peer
import EchoBench.Serve.Handler

/-!
# `EchoBench.Rehearsal.Connection`: a handler against a scripted caller

The caller makes one connection and follows its script. Where the script ends and the connection is
still there, the caller drops it.
-/

set_option autoImplicit false

namespace EchoBench.Rehearsal

open EchoBench.Net
open EchoBench.Serve

/-! ### The wire

The caller puts bytes on the wire in pieces, each of which lies there as a whole before the handler
reads. The handler takes as much as its buffer holds, and goes on until it has to wait.
-/

/-- What lies between a caller and its handler. -/
structure Wire where
  /-- The bytes that the caller has sent and the handler has not read. -/
  inbound : List UInt8
  /-- The bytes that the handler has written and the caller has not read. -/
  outbound : List UInt8
  /-- What has become of the caller's side. -/
  side : Side
  /-- How long the handler has waited for bytes. -/
  silence : Span
  deriving DecidableEq, Repr

namespace Wire

/-- A connection on which nothing has been sent. -/
def start : Wire :=
  ⟨[], [], .isOpen, ⟨0⟩⟩

/-- The answer to the next call of a handler, unless it has to wait. -/
def answer? (w : Wire) (h : Handler) : Option (Handler.Event × Wire) :=
  match h.stage with
  | .reading =>
    if w.inbound.isEmpty then
      match w.side with
      | .isOpen => none
      | .closed => some (.read (.data []), w)
      | .aborted => some (.read (.failed .connectionReset), w)
    else
      let size := h.settings.bufferSize
      some (.read (.data (w.inbound.take size)),
        { w with inbound := w.inbound.drop size, silence := ⟨0⟩ })
  | .writing _ =>
    match w.side with
    | .aborted => some (.write (.failed 0 .connectionReset), w)
    | .isOpen | .closed => some (.write .done, { w with outbound := w.outbound ++ h.chunk })
  | .ended | .failed _ | .crashed _ => none

/-- The answers to at most so many calls of a handler. -/
def answersFor : Nat → Wire → Handler → List Handler.Event × Wire
  | 0, w, _ => ([], w)
  | calls + 1, w, h =>
    match w.answer? h with
    | none => ([], w)
    | some (event, w) =>
      let (events, w) := answersFor calls w (h.step event)
      (event :: events, w)

/-- The answers to the calls of a handler until it has to wait. Each read but the last takes a byte,
and each is followed by one write. -/
def answers (w : Wire) (h : Handler) : List Handler.Event × Wire :=
  answersFor (2 * w.inbound.length + 2) w h

/-- The caller sends bytes. -/
def send (w : Wire) (data : List UInt8) : Wire :=
  { w with inbound := w.inbound ++ data }

/-- The caller reads at most so many bytes. -/
def receive (w : Wire) (count : Nat) : List UInt8 × Wire :=
  (w.outbound.take count, { w with outbound := w.outbound.drop count })

/-- How the stream ends for the caller once the handler is gone: a handler that leaves bytes unread
aborts the connection. -/
def ending (w : Wire) : Option IoError :=
  if w.inbound.isEmpty then none else some .connectionReset

/-- Time passes while the handler waits; the silence may then be too long. -/
def pass (w : Wire) (h : Handler) (time : Span) : List Handler.Event × Wire :=
  let silence : Span := ⟨w.silence.nanoseconds + time.nanoseconds⟩
  let isTooLong := match h.stage, h.settings.idleTimeout with
    | .reading, some limit => decide (limit.nanoseconds ≤ silence.nanoseconds)
    | _, _ => false
  (if isTooLong then [.read .expired] else [], { w with silence })

/-- How long a handler would still wait. -/
def patience? (w : Wire) (h : Handler) : Option Span :=
  h.settings.idleTimeout.map fun limit => ⟨limit.nanoseconds - w.silence.nanoseconds⟩

end Wire

/-! ### One connection -/

/-- What a caller does. -/
inductive CallerStep
  /-- It sends bytes, and reads as many. -/
  | send (data : List UInt8)
  /-- It lets time pass. -/
  | pause (time : Span)
  /-- It sends bytes, ends its own side, and reads to the end. -/
  | halfClose (data : List UInt8)
  /-- It sends bytes, and reads to the end. -/
  | waitEnd (data : List UInt8)
  /-- It drops the connection. -/
  | close
  /-- It sends bytes, and aborts the connection before the handler gets them. -/
  | reset (data : List UInt8)
  deriving DecidableEq, Repr

/-- What a caller saw of a step. -/
inductive StepReport
  /-- The bytes that it read. -/
  | echo (data : List UInt8)
  | paused
  /-- The bytes that it read to the end, and the fault at the end, where there was one. -/
  | ended (data : List UInt8) (fault : Option IoError)
  /-- It has left. -/
  | left
  deriving DecidableEq, Repr

/-- A caller and its handler. -/
structure Exchange where
  handler : Handler
  wire : Wire
  deriving DecidableEq, Repr

namespace Exchange

/-- The handler goes on until it has to wait. -/
def settle (x : Exchange) : Exchange :=
  let (events, wire) := x.wire.answers x.handler
  ⟨x.handler.play events, wire⟩

/-- Time passes. -/
def pass (x : Exchange) (time : Span) : Exchange :=
  let (events, wire) := x.wire.pass x.handler time
  ⟨x.handler.play events, wire⟩

/-- The caller does something to the wire, and the handler goes on. -/
def on (x : Exchange) (change : Wire → Wire) : Exchange :=
  settle ⟨x.handler, change x.wire⟩

/-- The caller reads to the end. -/
def readToEnd (x : Exchange) : StepReport × Exchange :=
  (.ended x.wire.outbound x.wire.ending, { x with wire := { x.wire with outbound := [] } })

/-- The caller makes a step of its script, unless it would wait for ever. -/
def step? (x : Exchange) : CallerStep → Option (StepReport × Exchange)
  | .send data =>
    let x := x.on (·.send data)
    let (echo, wire) := x.wire.receive data.length
    some (.echo echo, { x with wire })
  | .pause time => some (.paused, x.pass time)
  | .halfClose data => some (x.on fun w => { w.send data with side := .closed }).readToEnd
  | .waitEnd data =>
    let x := x.on (·.send data)
    if x.handler.isDone then some x.readToEnd
    else (x.wire.patience? x.handler).map fun time => (x.pass time).readToEnd
  | .close => some (.left, x.on fun w => { w with side := .closed })
  | .reset data => some (.left, x.on fun w => { w.send data with side := .aborted })

/-- The caller follows its script. Each report comes with what the handler has said by then. -/
def follow :
    List CallerStep → Exchange → Option (List (StepReport × List HandlerEvent) × Exchange)
  | [], x => some ([], x)
  | action :: script, x => do
    let (report, after) ← x.step? action
    let said := after.handler.events.drop x.handler.events.length
    let (reports, last) ← follow script after
    some ((report, said) :: reports, last)

end Exchange

/-- What came of a connection: the reports, and the handler at its end. -/
structure ConnectionReport where
  steps : List (StepReport × List HandlerEvent)
  /-- What the handler said when the caller was gone. -/
  said : List HandlerEvent
  handler : Handler
  deriving DecidableEq, Repr

/-- Plays a handler against a scripted caller. -/
def rehearseHandler (network : Network) (settings : HandlerSettings) (script : List CallerStep) :
    Rehearsed ConnectionReport :=
  let start : Exchange := ⟨.start settings, .start⟩
  let play : Rehearsed ConnectionReport :=
    match start.follow script with
    | none => .stuck
    | some (steps, last) =>
      let gone :=
        if last.wire.side = .isOpen then last.on fun w => { w with side := .closed } else last
      let said := gone.handler.events.drop last.handler.events.length
      match gone.handler.stage with
      | .crashed text => .crashed text
      | _ => .played ⟨steps, said, gone.handler⟩
  play.prepared network

end EchoBench.Rehearsal
