import EchoBench.Load.Run
import EchoBench.Rehearsal.Peer

/-!
# `EchoBench.Rehearsal.Run`: a load run against scripted peers

Every client of the run has a peer of its own. The sink may be told to fail or to crash for some of
the clients (`Temper`).
-/

set_option autoImplicit false

namespace EchoBench.Rehearsal

open EchoBench.Config (LoadSettings)
open EchoBench.Load

/-- How a sink treats the records of some clients. -/
structure Temper where
  /-- The numbers of clients, with the number of times that the sink crashes on their records. -/
  crashes : List (Nat × Nat)
  /-- The numbers of clients whose records the sink refuses. -/
  rejects : List Nat
  deriving DecidableEq, Repr

/-- What a sink with a temper has done. -/
structure Store where
  /-- The records that it took. -/
  records : List TaskRecord
  /-- The names of the clients on whose records it crashed. -/
  crashed : List String
  deriving DecidableEq, Repr

/-- A sink with a temper, for the clients of a run by its name. -/
def temperedSink (clientId : String) (temper : Temper) : Sink Store where
  emit s r :=
    let isOf (index : Nat) : Bool := taskId clientId index == r.taskId
    let planned := ((temper.crashes.find? fun p => isOf p.1).map (·.2)).getD 0
    if s.crashed.count r.taskId < planned then
      (.crashed ("sink failed while emitting " ++ r.taskId),
        { s with crashed := s.crashed ++ [r.taskId] })
    else
      match temper.rejects.find? isOf with
      | some index => (.failed (.config ("rejected " ++ toString index)), s)
      | none => (.ok, { s with records := s.records ++ [r] })

/-- The records of a store in the order of the clients. -/
def Store.inOrder (s : Store) (clientId : String) (clients : Nat) : List TaskRecord :=
  (List.range clients).flatMap fun index => s.records.filter (·.taskId == taskId clientId index)

/-- What came of a run. -/
structure RunReport (σ : Type) where
  run : LoadRun σ
  /-- The numbers of the clients that sent messages, with the messages that their peers took. -/
  seen : List (Nat × List String)

/-- Plays a run whose clients call peers with scripts by number. The machine runs all clients under
one name. -/
def rehearseRun {σ : Type} (network : Network) (callee : Callee) (settings : LoadSettings)
    (scripts : Nat → List Action) (label : String) (sink : Sink σ) (s : σ) :
    Rehearsed (RunReport σ) :=
  let play : Rehearsed (RunReport σ) :=
    let talks := (List.range (LoadRun.start settings s).handles.size).map fun index =>
      converse network callee settings index (scripts index)
    let plan : RunPlan σ :=
      { settings, sink
        body := fun index => ((talks[index]?).map fun t => Body.ofClient t.1).getD (.crashed "")
        label := fun _ => label }
    let run := LoadRun.execute plan s
    match run.crash with
    | some text => .crashed text
    | none =>
      if callee = .serving && talks.any (!·.2.called) then .stuck
      else .played ⟨run, talks.zipIdx.filterMap fun (t, index) =>
        if t.2.seen.isEmpty then none else some (index, t.2.seen)⟩
  if callee = .unreachable then play.prepared network else play

end EchoBench.Rehearsal
