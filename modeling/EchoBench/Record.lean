import EchoBench.Span

/-!
# `EchoBench.Record`: what one client did

A load run has many clients, and each leaves one `TaskRecord`: whom it called, how many messages it
sent and had answered, how long the answers took, and what went wrong. The record is filled in while
the client talks, and `finish` adds the average at the end.
-/

set_option autoImplicit false

namespace EchoBench

/-- The result of one client. -/
structure TaskRecord where
  /-- The name of the client and its number, see `taskId`. -/
  taskId : String
  /-- The host that was called. -/
  host : String
  /-- The port that was called. -/
  port : UInt16
  /-- The number of messages that were sent in full. -/
  sent : UInt64
  /-- The number of messages that had an answer. -/
  received : UInt64
  /-- Whether the connection was made. -/
  connected : Bool
  /-- The time that all answers took, in milliseconds. -/
  totalMs : Float
  /-- What went wrong, in order. -/
  errors : List String
  /-- The time that an answer took on average, in milliseconds. -/
  averageMs : Float
  deriving DecidableEq, Repr, Inhabited

/-- The name of a client: that of the whole run, and its number in it. -/
def taskId (clientId : String) (index : Nat) : String :=
  clientId ++ "-" ++ toString index

/-- The error of a client whose connection ends while it waits for an answer. -/
def prematureClose : String :=
  "server closed connection prematurely"

namespace TaskRecord

/-- The record of a client that has not called yet. -/
def start (taskId host : String) (port : UInt16) : TaskRecord :=
  { taskId, host, port, sent := 0, received := 0, connected := false, totalMs := 0.0, errors := [],
    averageMs := 0.0 }

/-- Notes that the connection was made. -/
def connect (r : TaskRecord) : TaskRecord :=
  { r with connected := true }

/-- Notes what went wrong. -/
def addError (r : TaskRecord) (error : String) : TaskRecord :=
  { r with errors := r.errors ++ [error] }

/-- Counts a message that was sent. -/
def addSent (r : TaskRecord) : TaskRecord :=
  { r with sent := r.sent + 1 }

/-- Counts an answer and the time that it took. -/
def addAnswer (r : TaskRecord) (latency : Span) : TaskRecord :=
  { r with totalMs := r.totalMs + latency.milliseconds, received := r.received + 1 }

/-- The time that an answer took on average; zero where there was no answer. -/
def average (r : TaskRecord) : Float :=
  if 0 < r.received then r.totalMs / r.received.toFloat else 0.0

/-- Closes the record. -/
def finish (r : TaskRecord) : TaskRecord :=
  { r with averageMs := r.average }

/-- The client was connected, nothing went wrong and every message had an answer. -/
def succeeded (r : TaskRecord) : Bool :=
  r.connected && r.errors.isEmpty && r.sent == r.received

/-- Whether two records have the same values. Times are compared as numbers: a time that is not a
number differs from itself, and the two zeros are the same. -/
def agrees (a b : TaskRecord) : Bool :=
  a.taskId == b.taskId && a.host == b.host && a.port == b.port && a.sent == b.sent &&
    a.received == b.received && a.connected == b.connected && a.totalMs == b.totalMs &&
    a.errors == b.errors && a.averageMs == b.averageMs

end TaskRecord

end EchoBench
