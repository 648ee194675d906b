import EchoBench.Record

/-!
# `EchoBench.Summary`: a load run as a whole

A summary counts what the records of a run say. It can be built record by record (`observe`) or
from the summaries of parts (`merge`). The two figures that are shown are means: an answer's time,
averaged over the clients that had an answer, and the part of the messages that had an answer.
-/

set_option autoImplicit false

namespace EchoBench

/-- The counts of a load run. -/
structure LoadSummary where
  /-- How many clients there were. -/
  clients : Nat
  /-- How many of them were connected. -/
  connected : Nat
  /-- How many of them did all they were asked to do. -/
  succeeded : Nat
  /-- How many messages were sent. -/
  sent : Nat
  /-- How many messages had an answer. -/
  received : Nat
  /-- How many errors there were. -/
  errors : Nat
  /-- The sum of the average times of the clients that had an answer, in milliseconds. -/
  latencySum : Float
  /-- How many clients had an answer. -/
  answered : Nat
  deriving DecidableEq, Repr, Inhabited

namespace LoadSummary

/-- The summary of no client at all. -/
def empty : LoadSummary :=
  ⟨0, 0, 0, 0, 0, 0, 0.0, 0⟩

/-- Takes one more record into account. -/
def observe (s : LoadSummary) (r : TaskRecord) : LoadSummary where
  clients := s.clients + 1
  connected := s.connected + r.connected.toNat
  succeeded := s.succeeded + r.succeeded.toNat
  sent := s.sent + r.sent.toNat
  received := s.received + r.received.toNat
  errors := s.errors + r.errors.length
  latencySum := if 0 < r.received then s.latencySum + r.averageMs else s.latencySum
  answered := if 0 < r.received then s.answered + 1 else s.answered

/-- Takes the summary of other clients into account. -/
def merge (s t : LoadSummary) : LoadSummary where
  clients := s.clients + t.clients
  connected := s.connected + t.connected
  succeeded := s.succeeded + t.succeeded
  sent := s.sent + t.sent
  received := s.received + t.received
  errors := s.errors + t.errors
  latencySum := s.latencySum + t.latencySum
  answered := s.answered + t.answered

/-- The mean of the average times, in milliseconds; zero where no client had an answer. -/
def meanLatency (s : LoadSummary) : Float :=
  if 0 < s.answered then s.latencySum / Float.ofNat s.answered else 0.0

/-- The part of the messages that had an answer; zero where none was sent. -/
def deliveryRate (s : LoadSummary) : Float :=
  if 0 < s.sent then Float.ofNat s.received / Float.ofNat s.sent else 0.0

/-- Whether two summaries have the same counts. The sums of times are compared as numbers: one that
is not a number differs from itself, and the two zeros are the same. -/
def agrees (a b : LoadSummary) : Bool :=
  a.clients == b.clients && a.connected == b.connected && a.succeeded == b.succeeded &&
    a.sent == b.sent && a.received == b.received && a.errors == b.errors &&
    a.latencySum == b.latencySum && a.answered == b.answered

end LoadSummary

end EchoBench
