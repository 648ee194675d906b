import EchoBench.Load.Client
import EchoBench.Rehearsal
import EchoBench.Text.Character

/-!
# `EchoBench.Rehearsal.Peer`: a scripted partner of a client

A peer takes the messages of one client and does for each what its script says; once the script is
used up it echoes. What it writes waits until the client reads it.

A stream keeps the order of its bytes and nothing else: where one answer ends and the next begins is
not to be seen, and an answer need not arrive at once. How much of what waits has arrived when a
read comes is the business of the connection, and its `pace` says so, one `Arrival` for each read. A
read takes at least a byte of what waits and at most its size, or it comes too early or finds the
connection broken and takes nothing. So the bytes of an answer may be read in answer to a later
message, be the answer too long for the buffer or only late. Once the pace is used up, all that
waits has arrived.

A peer that has closed or aborted the connection takes no more messages. The bytes that it wrote
before still arrive. The client may be late to notice, and a message is then written to nobody. So
what becomes of the messages is said as well, by one `Passage` for each write. Once these are used
up, a peer that has closed lets messages go by, and one that has aborted has them refused.
-/

set_option autoImplicit false

namespace EchoBench.Rehearsal

open EchoBench.Config (LoadSettings)
open EchoBench.Load
open EchoBench.Net
open EchoBench.Text (utf8)

/-- What a peer does when it has a message. -/
inductive Action
  /-- It writes the message back. -/
  | echo
  /-- It writes some bytes. -/
  | reply (data : List UInt8)
  /-- It writes nothing. -/
  | silent
  /-- It closes the connection. -/
  | close
  /-- It aborts the connection. -/
  | reset
  /-- It writes some bytes, and closes the connection. -/
  | replyClose (data : List UInt8)
  /-- It writes some bytes, and aborts the connection. -/
  | replyReset (data : List UInt8)
  /-- It does not take the message at all. -/
  | stall
  deriving DecidableEq, Repr

/-- How much of what a peer has written is there when the client reads. -/
inductive Arrival
  /-- All of it. -/
  | all
  /-- So many bytes, if there are so many, and one at least. -/
  | upTo (count : Nat)
  /-- Nothing in time. -/
  | late
  /-- The connection is broken, and nothing comes any more. -/
  | broken (cause : IoError)
  deriving DecidableEq, Repr

/-- What becomes of a message on its way to a peer. -/
inductive Passage
  /-- It comes to the peer, or to where the peer has been. -/
  | through
  /-- It is written, whether or not there is still somebody to take it. -/
  | unnoticed
  /-- The connection is broken, with so many bytes of the message written. -/
  | broken (written : Nat) (cause : IoError)
  deriving DecidableEq, Repr

/-- What has become of one side of a connection. -/
inductive Side
  | isOpen
  | closed
  | aborted
  deriving DecidableEq, Repr

/-- Whom a client calls. -/
inductive Callee
  /-- A peer that waits for the call. -/
  | serving
  /-- Nobody. -/
  | refusing
  /-- Somebody who never answers. -/
  | unreachable
  deriving DecidableEq, Repr

/-- A peer of one client. -/
structure Peer where
  /-- What it will do with the next messages. -/
  script : List Action
  /-- How much will be there at the next reads. -/
  pace : List Arrival
  /-- What will become of the next messages on their way. -/
  sends : List Passage
  /-- The bytes that it has written and the client has not read. -/
  waiting : List UInt8
  side : Side
  /-- The messages that it has taken. -/
  seen : List String
  /-- Whether it has been called. -/
  called : Bool
  deriving DecidableEq, Repr

namespace Peer

/-- A peer that has not been called yet. -/
def start (script : List Action) (pace : List Arrival) (sends : List Passage) : Peer :=
  ⟨script, pace, sends, [], .isOpen, [], false⟩

/-- The peer takes a message. -/
def take (p : Peer) (message : String) : Peer :=
  { p with script := p.script.drop 1, seen := p.seen ++ [message] }

/-- The peer writes some bytes. -/
def put (p : Peer) (data : List UInt8) : Peer :=
  { p with waiting := p.waiting ++ data }

/-- The answer to a client that calls a host. -/
def dial (network : Network) (callee : Callee) (host : String) (p : Peer) : DialAnswer × Peer :=
  match network.barrier host, callee with
  | some cause, _ => (.failed cause, p)
  | none, .serving => (.connected, { p with called := true })
  | none, .refusing => (.failed .connectionRefused, p)
  | none, .unreachable => (.expired, p)

/-- The answer to a client whose message has come to a peer that is there to take it. -/
def receive (p : Peer) (message : String) : WriteAnswer × Peer :=
  let taken := p.take message
  match p.script.headD .echo with
  | .echo => (.done, taken.put (utf8 message))
  | .reply data => (.done, taken.put data)
  | .silent => (.done, taken)
  | .close => (.done, { taken with side := .closed })
  | .reset => (.done, { taken with side := .aborted })
  | .replyClose data => (.done, { taken.put data with side := .closed })
  | .replyReset data => (.done, { taken.put data with side := .aborted })
  | .stall => (.expired 0, p)

/-- The answer to a client whose message takes its passage to a peer. -/
def arrive (p : Peer) (message : String) : Passage → WriteAnswer × Peer
  | .through =>
    match p.side with
    | .isOpen => p.receive message
    | .closed => (.done, p)
    | .aborted => (.failed 0 .connectionReset, p)
  | .unnoticed =>
    match p.side with
    | .isOpen => p.receive message
    | .closed | .aborted => (.done, p)
  | .broken written cause => (.failed written cause, p)

/-- The answer to a client that sends a message. -/
def write (p : Peer) (message : String) : WriteAnswer × Peer :=
  { p with sends := p.sends.drop 1 }.arrive message (p.sends.headD .through)

/-- The answer to a client that reads, where so many bytes are to be had. -/
def give (p : Peer) (count : Nat) : ReadAnswer × Peer :=
  if p.waiting.isEmpty then
    match p.side with
    | .isOpen => (.expired, p)
    | .closed => (.data [], p)
    | .aborted => (.failed .connectionReset, p)
  else (.data (p.waiting.take count), { p with waiting := p.waiting.drop count })

/-- The answer to a client that reads at most so many bytes. -/
def read (p : Peer) (size : Nat) : ReadAnswer × Peer :=
  let next := { p with pace := p.pace.drop 1 }
  match p.pace.headD .all with
  | .all => next.give size
  | .upTo count => next.give (min size (max count 1))
  | .late => (.expired, next)
  | .broken cause => (.failed cause, next)

/-- The time that every answer takes. -/
def latency : Span :=
  ⟨1000⟩

/-- The connection between a client and its peer on a host. -/
def link (network : Network) (callee : Callee) (host : String) : Link Peer where
  dial p := p.dial network callee host
  write p message := p.write message
  read p size :=
    let (answer, p) := p.read size
    ((answer, latency), p)

end Peer

/-- Lets a client talk to its peer, over a connection that is fast enough for both. -/
def converse (network : Network) (callee : Callee) (settings : LoadSettings) (index : Nat)
    (script : List Action) : Client × Peer :=
  Client.run (Peer.link network callee settings.host) settings index (.start script [] [])

/-- Plays one client against its peer: its record, and the messages that the peer took. A peer that
serves waits for its call. To be out of reach, a callee fills its queue by a call of its own. -/
def rehearseClient (network : Network) (callee : Callee) (settings : LoadSettings) (index : Nat)
    (script : List Action) : Rehearsed (TaskRecord × List String) :=
  let play : Rehearsed (TaskRecord × List String) :=
    let (client, peer) := converse network callee settings index script
    match client.stage with
    | .crashed text => .crashed text
    | _ =>
      if callee = .serving && !peer.called then .stuck
      else .played (client.record, peer.seen)
  if callee = .unreachable then play.prepared network else play

end EchoBench.Rehearsal
