import EchoBench.Json.Number
import EchoBench.Load.Client
import EchoBench.Log
import EchoBench.Sink
import EchoBench.Summary
import EchoBench.Text.Character

/-!
# `EchoBench.Load.Run`: many clients at once

A run starts all its clients and then waits for them in the order of their numbers. A client that
is done hands its record to the sink, and leaves a summary of that record. A client that crashed,
or whose sink crashed, leaves nothing; when its turn comes, a record of the abort is made in its
place, counted, and handed to the sink. A sink that fails is noted in the log and nothing more. A
sink that crashes on the record of an abort ends the run without a summary. So do more clients than
a run can keep account of: none of them is started.

Clients finish in any order, also while the run waits for others. A `Move` is what happens next,
and a schedule is a list of moves; a move that is not possible changes nothing. `LoadRun.execute`
is the run in which every client finishes before the first is waited for.
-/

set_option autoImplicit false

namespace EchoBench.Load

open EchoBench.Config (LoadSettings)
open EchoBench.Json (writeFloat)
open EchoBench.Text (display)

/-- What came of the conversation of a client. -/
inductive Body
  | returned (record : TaskRecord)
  /-- It stopped without a record, and left a text. -/
  | crashed (text : String)
  deriving DecidableEq, Repr, Inhabited

/-- What came of a client that is done. -/
def Body.ofClient (c : Client) : Body :=
  match c.stage with
  | .crashed text => .crashed text
  | .dialing | .sending _ | .waiting _ | .finished => .returned c.record

/-- What a run knows of a client. -/
inductive Handle
  | running
  /-- It is done, and its record has been handed over. -/
  | done (summary : LoadSummary)
  /-- It is gone, for a reason. -/
  | aborted (reason : String)
  deriving DecidableEq, Repr

/-- What a run says in its log. -/
inductive RunEvent
  | started (settings : LoadSettings)
  | emitFailed (error : EchoError)
  | clientAborted (taskId reason : String)
  | completed (summary : LoadSummary)
  deriving DecidableEq, Repr

/-- The log entry of an event. -/
def RunEvent.entry : RunEvent → Log.Entry
  | started settings =>
    ⟨.info, .run, "Starting load run",
      [("target_host", settings.host), ("target_port", toString settings.port),
        ("tasks", toString settings.clients), ("messages_per_task", toString settings.messages)]⟩
  | emitFailed error => ⟨.error, .run, "Failed to emit task record", [("error", error.message)]⟩
  | clientAborted taskId reason =>
    ⟨.error, .run, "Client task aborted", [("task_id", taskId), ("error", reason)]⟩
  | completed summary =>
    ⟨.info, .run, "Load run complete",
      [("tasks", toString summary.clients), ("connected", toString summary.connected),
        ("succeeded", toString summary.succeeded), ("sent", toString summary.sent),
        ("received", toString summary.received), ("errors", toString summary.errors),
        ("mean_latency_ms", String.ofList (writeFloat summary.meanLatency)),
        ("delivery_rate", String.ofList (writeFloat summary.deliveryRate))]⟩

/-- What a run is made of: its settings, its sink, what its clients do, and the names under which
the machine runs them. -/
structure RunPlan (σ : Type) where
  settings : LoadSettings
  sink : Sink σ
  body : Nat → Body
  label : Nat → String

/-- A run on its way. -/
structure LoadRun (σ : Type) where
  /-- What is known of each client. -/
  handles : Array Handle
  /-- How many clients have been waited for. -/
  joined : Nat
  /-- The summary so far. -/
  summary : LoadSummary
  /-- The state of the sink. -/
  sink : σ
  /-- What has been said in the log. -/
  events : List RunEvent
  /-- The text that the run left when it ended without a summary. -/
  crash : Option String

/-- What happens next in a run. -/
inductive Move
  /-- The client with a number finishes. -/
  | finish (index : Nat)
  /-- The run takes the next client that it waits for, if that client is done or gone. -/
  | join
  deriving DecidableEq, Repr

/-- The reason for which a client is gone that crashed under a name. -/
def abortReason (label text : String) : String :=
  "task " ++ label ++ " panicked with message " ++ display text

/-- The record of a client that is gone. -/
def abortedRecord (settings : LoadSettings) (index : Nat) (reason : String) : TaskRecord :=
  ((TaskRecord.start (taskId settings.clientId index) settings.host settings.port).addError
    ("Task aborted: " ++ reason)).finish

/-- The greatest number of clients that a run can keep account of: a handle takes sixteen bytes, and
all of them together take fewer than there are places in a memory of sixty-three bits. -/
def greatestClients : Nat := 576460752303423487

namespace LoadRun

variable {σ : Type}

/-- A run whose clients have all been started, if there are not too many. -/
def start (settings : LoadSettings) (sink : σ) : LoadRun σ :=
  if settings.clients.toNat ≤ greatestClients then
    ⟨Array.replicate settings.clients.toNat .running, 0, .empty, sink, [.started settings], none⟩
  else ⟨#[], 0, .empty, sink, [.started settings], some "capacity overflow"⟩

/-- A run starts unless there are too many clients. -/
theorem start_crash_eq_none_iff (settings : LoadSettings) (sink : σ) :
    (start settings sink).crash = none ↔ settings.clients.toNat ≤ greatestClients := by
  unfold start
  split <;> simp_all

/-- The run with something more known of a client. -/
def setHandle (run : LoadRun σ) (index : Nat) (handle : Handle) : LoadRun σ :=
  { run with handles := run.handles.setIfInBounds index handle }

/-- The client with a number finishes. -/
def finish (plan : RunPlan σ) (run : LoadRun σ) (index : Nat) : LoadRun σ :=
  match run.handles[index]? with
  | some .running =>
    match plan.body index with
    | .crashed text => run.setHandle index (.aborted (abortReason (plan.label index) text))
    | .returned record =>
      let (outcome, sink) := plan.sink.emit run.sink record
      let run := { run with sink }
      let done := Handle.done (LoadSummary.empty.observe record)
      match outcome with
      | .ok => run.setHandle index done
      | .failed error =>
        { run.setHandle index done with events := run.events ++ [.emitFailed error] }
      | .crashed text => run.setHandle index (.aborted (abortReason (plan.label index) text))
  | _ => run

/-- The run takes a client that is gone. -/
def joinAborted (plan : RunPlan σ) (run : LoadRun σ) (reason : String) : LoadRun σ :=
  let record := abortedRecord plan.settings run.joined reason
  let (outcome, sink) := plan.sink.emit run.sink record
  let run := { run with
    joined := run.joined + 1
    summary := run.summary.observe record
    sink
    events := run.events ++ [.clientAborted record.taskId reason] }
  match outcome with
  | .ok => run
  | .failed error => { run with events := run.events ++ [.emitFailed error] }
  | .crashed text => { run with crash := some text }

/-- The run takes the next client, if it is done or gone. -/
def join (plan : RunPlan σ) (run : LoadRun σ) : LoadRun σ :=
  if run.crash.isSome then run
  else
    match run.handles[run.joined]? with
    | some (.done summary) =>
      { run with joined := run.joined + 1, summary := run.summary.merge summary }
    | some (.aborted reason) => run.joinAborted plan reason
    | some .running | none => run

/-- Makes a move. -/
def step (plan : RunPlan σ) (run : LoadRun σ) : Move → LoadRun σ
  | .finish index => run.finish plan index
  | .join => run.join plan

/-- Makes the moves of a schedule. -/
def play (plan : RunPlan σ) (run : LoadRun σ) (schedule : List Move) : LoadRun σ :=
  schedule.foldl (step plan) run

/-- Whether every client has been waited for. -/
def isComplete (run : LoadRun σ) : Bool :=
  run.joined == run.handles.size && run.crash.isNone

/-- The summary that a run gives, once every client has been waited for. -/
def result? (run : LoadRun σ) : Option LoadSummary :=
  if run.isComplete then some run.summary else none

/-- What a run has said in its log; at its end it says so. -/
def log (run : LoadRun σ) : List RunEvent :=
  if run.isComplete then run.events ++ [.completed run.summary] else run.events

/-- The schedule in which the clients finish in order, and are waited for afterwards. -/
def inOrder (clients : Nat) : List Move :=
  (List.range clients).map .finish ++ List.replicate clients .join

/-- A run in order. -/
def execute (plan : RunPlan σ) (sink : σ) : LoadRun σ :=
  let run := start plan.settings sink
  run.play plan (inOrder run.handles.size)

end LoadRun

end EchoBench.Load
