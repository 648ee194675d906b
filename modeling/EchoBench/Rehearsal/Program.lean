import EchoBench.Program
import EchoBench.Rehearsal.Run
import EchoBench.Rehearsal.Service

/-!
# `EchoBench.Rehearsal.Program`: the programs as a user starts them

The load program calls an echo server or nobody. The server program is called once, on a port that
may be taken, and is then stopped by its user; one that has ended by itself takes no call.
-/

set_option autoImplicit false

namespace EchoBench.Rehearsal

open EchoBench.Config
open EchoBench.Load
open EchoBench.Program
open EchoBench.Serve

/-- Plays the load program on a machine on which one port is the callee's. A program that calls
another port finds nobody. -/
def rehearseLoad (network : Network) (callee : Callee) (port : UInt16) (lookup : Lookup) :
    LoadReport :=
  let body (settings : LoadSettings) (index : Nat) : Body :=
    let callee := if settings.port = port then callee else .refusing
    .ofClient (converse network callee settings index []).1
  Program.load lookup body toString (.scripted [] [])

/-- What came of the server program. -/
inductive ServeReport
  /-- It ended at once, for want of a filter. -/
  | crashed
  /-- It ended with a failure: what it could not do, and why. -/
  | failed (context cause : String)
  /-- It served until it was stopped: the bytes that came back for each piece, and the log entries
  that are shown. -/
  | served (echoes : List (List UInt8)) (shown : List Log.Entry)
  deriving Repr

/-- Sends pieces on the first connection of a server, and reads back as many bytes for each. -/
def sendPieces : List (List UInt8) → Service → List (List UInt8) × Service
  | [], s => ([], s)
  | piece :: pieces, s =>
    let s := s.on 0 (·.send piece)
    let (echo, wire) := (s.wires.getD 0 .start).receive piece.length
    let (echoes, s) := sendPieces pieces { s with wires := s.wires.setIfInBounds 0 wire }
    (echo :: echoes, s)

/-- Plays the server program on a machine on which one port may be taken. A program that listens
elsewhere than on that port goes on for ever. -/
def rehearseServe (network : Network) (lookup : Lookup) (taken : Option UInt16)
    (pieces : List (List UInt8)) : Rehearsed ServeReport :=
  let bindFault (s : ServerSettings) : Option IoError :=
    network.bindFault s.ip (taken = some s.port)
  match Program.serve lookup bindFault, taken with
  | .crashed, some _ => .played .crashed
  | .crashed, none => Rehearsed.stuck.prepared network
  | .failed context cause, _ => .played (.failed context cause)
  | .listening _, some _ => .stuck
  | .listening settings, none =>
    let play : Rehearsed ServeReport :=
      let s := Service.start (Server.handlerSettings settings)
      let s := { s with server := s.server.step .accepted, wires := #[.start] }
      let (echoes, s) := sendPieces pieces s
      let server := s.server.step .interrupt
      .played (.served echoes (serveShown lookup server.events))
    play.prepared network

end EchoBench.Rehearsal
