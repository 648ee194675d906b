import EchoBench.Config.LoadSettings
import EchoBench.Net.Stream
import EchoBench.Record
import EchoBench.Span

/-!
# `EchoBench.Load.Client`: one client of a load run

A client asks for a connection, and then sends its messages one at a time: a message is written in
full, and after that a single read takes its answer. The first fault ends the conversation. How far
a client is, is its `Stage`; `Client.dialed`, `Client.wrote` and `Client.received` say what an
answer of the connection makes of it.

`Client.run` lets a client talk over a `Link`, which gives the answers. A conversation takes one
call for the connection and two for each message (`Client.callsNeeded`), and ends sooner after a
fault.
-/

set_option autoImplicit false

namespace EchoBench.Load

open EchoBench.Config (LoadSettings)
open EchoBench.Net

/-! ### The text of a message

Every message names its client and its number among the messages of that client. It may begin with
a text of the user's choice.
-/

/-- The text of the message with a number, counted from one. -/
def payload (taskId : String) (seq : Nat) : Option String → String
  | none => "msg " ++ toString seq ++ " from " ++ taskId
  | some opening => opening ++ " (from " ++ taskId ++ " - msg " ++ toString seq ++ ")"

/-! ### When a client has to be done

All reads and writes of a client share one deadline, which is set once the client is connected. The
settings admit spans of any length, and a clock tells times up to a last one only. A deadline that
the clock cannot tell is moved to a time that it can tell and that no run sees (`farFuture`).
-/

/-- A clock, which counts nanoseconds. -/
structure Clock where
  /-- The last time that it can tell. -/
  last : Nat
  deriving DecidableEq, Repr

namespace Clock

/-- The clock of a machine that counts seconds in a signed word of sixty-four bits. -/
def machine : Clock :=
  ⟨9223372036854775808 * 1000000000 - 1⟩

/-- The time that is so long after another, if the clock can tell it. -/
def after? (clock : Clock) (time : Nat) (s : Span) : Option Nat :=
  if time + s.nanoseconds ≤ clock.last then some (time + s.nanoseconds) else none

end Clock

/-- Thirty years, without the leap days. -/
def farFuture : Span :=
  .ofSeconds (86400 * 365 * 30)

/-- The deadline of a client that begins at a time and is given a span. -/
def deadline (clock : Clock) (begun : Nat) (s : Span) : Nat :=
  (clock.after? begun s).getD (begun + farFuture.nanoseconds)

/-- The clock can tell every deadline, if it goes on for thirty years at all. -/
theorem deadline_le_last {clock : Clock} {begun : Nat}
    (h : begun + farFuture.nanoseconds ≤ clock.last) (s : Span) :
    deadline clock begun s ≤ clock.last := by
  unfold deadline Clock.after?
  split
  · next htold => exact htold
  · exact h

/-! ### Clients -/

/-- How far a client is. -/
inductive Stage
  /-- It waits for its connection. -/
  | dialing
  /-- It is about to send the message with a number. -/
  | sending (seq : Nat)
  /-- It has sent the message with a number, and waits for the answer. -/
  | waiting (seq : Nat)
  /-- It is done, and its record is closed. -/
  | finished
  /-- It stopped without a record, and left a text. -/
  | crashed (text : String)
  deriving DecidableEq, Repr

/-- A client that talks. -/
structure Client where
  record : TaskRecord
  stage : Stage
  deriving DecidableEq, Repr

namespace Client

/-- The error text of a call whose time is over. -/
def deadlineText : String :=
  "deadline has elapsed"

/-- The client with a number, before its first call. -/
def start (settings : LoadSettings) (index : Nat) : Client :=
  ⟨.start (taskId settings.clientId index) settings.host settings.port, .dialing⟩

/-- Ends the conversation. -/
def finish (c : Client) : Client :=
  ⟨c.record.finish, .finished⟩

/-- Ends the conversation with an error. -/
def fail (c : Client) (error : String) : Client :=
  ⟨(c.record.addError error).finish, .finished⟩

/-- Goes on to the message with a number, unless all messages have been sent. -/
def goOn (settings : LoadSettings) (c : Client) (seq : Nat) : Client :=
  if seq ≤ settings.messages.toNat then ⟨c.record, .sending seq⟩ else c.finish

/-- What the answer to the call for a connection makes of a client. The buffer for answers is set
up once the connection is there. -/
def dialed (settings : LoadSettings) (c : Client) : DialAnswer → Client
  | .connected =>
    let c : Client := ⟨c.record.connect, c.stage⟩
    if settings.bufferSize.toNat ≤ greatestBuffer then c.goOn settings 1
    else ⟨c.record, .crashed bufferCrash⟩
  | .failed cause => c.fail ("Connection failed: " ++ cause.message)
  | .expired => c.fail ("Connection failed: timed out after " ++ settings.dialTimeout.text)

/-- What the answer to writing a message makes of a client. -/
def wrote (c : Client) (seq : Nat) : WriteAnswer → Client
  | .done => ⟨c.record.addSent, .waiting seq⟩
  | .failed _ cause =>
    c.fail ("Error sending message " ++ toString seq ++ ": " ++ cause.message)
  | .expired _ => c.fail ("Error sending message " ++ toString seq ++ ": " ++ deadlineText)

/-- What the answer to the read after a message makes of a client. -/
def received (settings : LoadSettings) (c : Client) (seq : Nat) (latency : Span) :
    ReadAnswer → Client
  | .data [] => c.fail prematureClose
  | .data (_ :: _) => goOn settings ⟨c.record.addAnswer latency, c.stage⟩ (seq + 1)
  | .failed cause =>
    c.fail ("Error receiving response for message " ++ toString seq ++ ": " ++ cause.message)
  | .expired =>
    c.fail ("Error receiving response for message " ++ toString seq ++ ": " ++ deadlineText)

/-- The bytes of the message with a number. -/
def message (settings : LoadSettings) (c : Client) (seq : Nat) : String :=
  payload c.record.taskId seq settings.opening

end Client

/-- The other end of the calls of a client, with states of type `σ`. -/
structure Link (σ : Type) where
  /-- Asks for a connection. -/
  dial : σ → DialAnswer × σ
  /-- Writes a text. -/
  write : σ → String → WriteAnswer × σ
  /-- Reads at most so many bytes, and says how long that took since the message was begun. -/
  read : σ → Nat → (ReadAnswer × Span) × σ

namespace Client

variable {σ : Type}

/-- Whether there is no call left to make. -/
def isOver (c : Client) : Bool :=
  match c.stage with
  | .finished | .crashed _ => true
  | .dialing | .sending _ | .waiting _ => false

/-- Makes the next call. -/
def advance (link : Link σ) (settings : LoadSettings) (c : Client) (s : σ) : Client × σ :=
  match c.stage with
  | .dialing =>
    let (answer, s) := link.dial s
    (c.dialed settings answer, s)
  | .sending seq =>
    let (answer, s) := link.write s (c.message settings seq)
    (c.wrote seq answer, s)
  | .waiting seq =>
    let ((answer, latency), s) := link.read s settings.bufferSize.toNat
    (c.received settings seq latency answer, s)
  | .finished | .crashed _ => (c, s)

/-- Makes at most so many calls. -/
def runFor (link : Link σ) (settings : LoadSettings) : Nat → Client → σ → Client × σ
  | 0, c, s => (c, s)
  | calls + 1, c, s =>
    if c.isOver then (c, s)
    else
      let (c, s) := c.advance link settings s
      runFor link settings calls c s

/-- The calls of a conversation without a fault. -/
def callsNeeded (settings : LoadSettings) : Nat :=
  2 * settings.messages.toNat + 1

/-- Lets the client with a number talk until it is done. -/
def run (link : Link σ) (settings : LoadSettings) (index : Nat) (s : σ) : Client × σ :=
  runFor link settings (callsNeeded settings) (start settings index) s

end Client

end EchoBench.Load
