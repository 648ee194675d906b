import EchoBench.Proofs.History
import EchoBench.Proofs.Load.Schedule
import EchoBench.Proofs.Load.Sender

/-!
# `EchoBench.Proofs.Load.Emission`: which records a sink is called with

The sink of a run is called from two places: by a client that is done, and by the run when it waits
for a client that is gone. `sinkCalls` are the records of all these calls, in order. They are those
of the sink that notes its calls (`Sink.traced`), and `untraced_play` shows that noting them changes
nothing else. It is a case of `mapSink_play`: a run is the same over two sinks of which one answers
as the other does.

`callsAreAttempts_play` accounts for them, for every plan and every schedule: up to their order,
they are the `attempts` of the clients, one client after the other. It follows from what one move
adds (`addsAlike_step`): nothing, or one call and one attempt of the same record. `calls_once` is
the case of a sink that does not crash: every client has exactly one attempt, and no two of these
records have the same name.
-/

set_option autoImplicit false

namespace EchoBench.Proofs.Load

open EchoBench.Config (LoadSettings)
open EchoBench.Load

/-! ### The same run over another sink -/

section Carried

variable {σ τ : Type}

/-- The plan with another sink, and everything else as it was. Runs over two sinks that answer alike
go the same way, whatever the sinks keep for themselves. -/
def overSink (plan : RunPlan σ) (sink : Sink τ) : RunPlan τ where
  settings := plan.settings
  sink := sink
  body := plan.body
  label := plan.label

/-- The run with its sink in another state, and with handles, events and summary untouched. -/
def mapSink (f : τ → σ) (run : LoadRun τ) : LoadRun σ where
  handles := run.handles
  joined := run.joined
  summary := run.summary
  sink := f run.sink
  events := run.events
  crash := run.crash

/-- A sink answers as another one does, and its states are those of the other as `f` sees them. -/
def Follows (sink : Sink σ) (f : τ → σ) (other : Sink τ) : Prop :=
  ∀ t r, sink.emit (f t) r = ((other.emit t r).1, f (other.emit t r).2)

/-- Before the first move the sink is all that a run has of its sink's type, so changing it changes
the start alone. -/
theorem mapSink_start (f : τ → σ) (settings : LoadSettings) (t : τ) :
    mapSink f (LoadRun.start settings t) = LoadRun.start settings (f t) := by
  unfold LoadRun.start
  split <;> rfl

variable {plan : RunPlan σ} {f : τ → σ} {other : Sink τ}

/-- A move does the same over a sink and over one that it follows. -/
theorem mapSink_step (h : Follows plan.sink f other) (run : LoadRun τ) (move : Move) :
    mapSink f (run.step (overSink plan other) move) = (mapSink f run).step plan move := by
  cases move with
  | finish index =>
    change mapSink f (run.finish (overSink plan other) index) = (mapSink f run).finish plan index
    rcases hhandle : run.handles[index]? with _ | handle
    · simp [LoadRun.finish, mapSink, hhandle]
    · cases handle with
      | running =>
        -- The sink is called only here, with the record of a body that returned.
        cases hbody : plan.body index with
        | crashed text =>
          simp [LoadRun.finish, LoadRun.setHandle, mapSink, overSink, hhandle, hbody]
        | returned record =>
          have hsink := h run.sink record
          rcases hemit : other.emit run.sink record with ⟨_ | error | text, sink⟩ <;>
            simp [LoadRun.finish, LoadRun.setHandle, mapSink, overSink, hhandle, hbody, hsink, hemit]
      | done summary | aborted reason => simp [LoadRun.finish, mapSink, hhandle]
  | join =>
    change mapSink f (run.join (overSink plan other)) = (mapSink f run).join plan
    cases hcrash : run.crash with
    | some text => simp [LoadRun.join, mapSink, hcrash]
    | none =>
      rcases hhandle : run.handles[run.joined]? with _ | handle
      · simp [LoadRun.join, mapSink, hcrash, hhandle]
      · cases handle with
        | running | done summary => simp [LoadRun.join, mapSink, hcrash, hhandle]
        | aborted reason =>
          -- And here, with the record of an abort.
          have hsink := h run.sink (abortedRecord plan.settings run.joined reason)
          rcases hemit : other.emit run.sink (abortedRecord plan.settings run.joined reason)
            with ⟨_ | error | text, sink⟩ <;>
            simp [LoadRun.join, LoadRun.joinAborted, mapSink, overSink, hcrash, hhandle, hsink,
              hemit]

/-- A run over a sink that another sink follows is the run over that other one, move by move. So
what a run does to its handles and its summary does not depend on what else the sink remembers. -/
theorem mapSink_play (h : Follows plan.sink f other) (run : LoadRun τ) (schedule : List Move) :
    mapSink f (run.play (overSink plan other) schedule) = (mapSink f run).play plan schedule := by
  induction schedule generalizing run with
  | nil => rfl
  | cons move schedule ih => rw [play_cons, play_cons, ih, mapSink_step h]

end Carried

/-! ### Noting the calls of a sink -/

section Traced

variable {σ : Type} (plan : RunPlan σ)

/-- The plan with a sink that notes its calls before it passes them on. The notes are the history
that statements on exactly one call are made of; no program has them. -/
def traced : RunPlan (σ × List TaskRecord) where
  settings := plan.settings
  sink := plan.sink.traced
  body := plan.body
  label := plan.label

/-- The run without the notes of its sink, which is the run that the program makes. -/
def untraced (run : LoadRun (σ × List TaskRecord)) : LoadRun σ where
  handles := run.handles
  joined := run.joined
  summary := run.summary
  sink := run.sink.1
  events := run.events
  crash := run.crash

/-- A run that notes its calls starts as the run itself does; it is the first case of
`untraced_play`. -/
theorem untraced_start (settings : LoadSettings) (s : σ) :
    untraced (LoadRun.start settings (s, [])) = LoadRun.start settings s :=
  mapSink_start Prod.fst settings (s, [])

/-- Noting the calls changes nothing else, at any moment of a run. What is proved with the notes at
hand is therefore true of the run without them. -/
theorem untraced_play (run : LoadRun (σ × List TaskRecord)) (schedule : List Move) :
    untraced (run.play (traced plan) schedule) = (untraced run).play plan schedule := by
  have hfollows : Follows plan.sink Prod.fst plan.sink.traced := fun _ _ => rfl
  exact mapSink_play hfollows run schedule

/-- Noting the calls changes nothing else about a run: the handles, the summary and the crash are
those of the run without notes. -/
theorem untraced_play_start (s : σ) (schedule : List Move) :
    untraced ((LoadRun.start plan.settings (s, [])).play (traced plan) schedule)
      = (LoadRun.start plan.settings s).play plan schedule := by
  rw [untraced_play, untraced_start]

/-- A run that is complete has waited for all its clients with the notes of its sink as well. -/
theorem joined_traced {s : σ} {schedule : List Move}
    (h : ((LoadRun.start plan.settings s).play plan schedule).isComplete = true) :
    let run := (LoadRun.start plan.settings (s, [])).play (traced plan) schedule
    Sound (traced plan) run ∧ run.joined = plan.settings.clients.toNat ∧
      run.handles.size = plan.settings.clients.toNat := by
  intro run
  rw [← untraced_play_start] at h
  have hcomplete : run.isComplete = true := h
  exact ⟨sound_play (traced plan) (s, []) schedule, joined_of_isComplete (traced plan) hcomplete,
    size_handles_of_start_crash (traced plan) (start_crash_of_isComplete (traced plan) hcomplete)
      schedule⟩

/-- The records with which the sink of a run has been called, in order. -/
def sinkCalls (s : σ) (schedule : List Move) : List TaskRecord :=
  ((LoadRun.start plan.settings (s, [])).play (traced plan) schedule).sink.2

end Traced

/-! ### What a move adds -/

section Attempts

variable {σ : Type} (plan : RunPlan σ)

/-- The record that a client leaves by itself, or nothing where its task is aborted. An aborted
client is given a record by the run. -/
def ownRecord? : Body → Option TaskRecord
  | .returned record => some record
  | .crashed _ => none

/-- The records of a client with which the sink has been called. A client that is done or gone has
handed over its own record, if it left one. For one that is gone, the run does so again when it
waits for it, with the record of the abort. -/
def attempts (run : LoadRun σ) (i : Nat) : List TaskRecord :=
  match run.handles[i]? with
  | none | some .running => []
  | some (.done _) => (ownRecord? (plan.body i)).toList
  | some (.aborted reason) =>
    (ownRecord? (plan.body i)).toList ++
      if i < run.joined then [abortedRecord plan.settings i reason] else []

/-- The attempts of a client depend on its handle, and on whether it has been waited for. -/
theorem attempts_congr {run after : LoadRun σ} {i : Nat}
    (hhandle : after.handles[i]? = run.handles[i]?)
    (hjoined : i < after.joined ↔ i < run.joined) : attempts plan after i = attempts plan run i := by
  simp [attempts, hhandle, hjoined]

/-- A client that is still running has not been given to the sink, neither with a record of its own
nor with that of an abort. -/
theorem attempts_of_running {run : LoadRun σ} {i : Nat} (h : run.handles[i]? = some .running) :
    attempts plan run i = [] := by
  simp [attempts, h]

/-- An attempt of a client has its own record or that of its abort, and comes when it is not running
any more. -/
theorem mem_attempts {run : LoadRun σ} {i : Nat} {r : TaskRecord} (h : r ∈ attempts plan run i) :
    run.handles[i]? ≠ some .running ∧
      (plan.body i = .returned r ∨ ∃ reason, r = abortedRecord plan.settings i reason) := by
  -- A body hands over the record that it returns, and nothing if it crashes.
  have hown : r ∈ (ownRecord? (plan.body i)).toList → plan.body i = .returned r := by
    intro hr
    cases hbody : plan.body i with
    | crashed text => simp [hbody, ownRecord?] at hr
    | returned record => simp_all [ownRecord?]
  unfold attempts at h
  split at h
  · cases h
  · cases h
  · next hhandle => exact ⟨by simp [hhandle], .inl (hown h)⟩
  · next reason hhandle =>
    refine ⟨by simp [hhandle], ?_⟩
    rcases List.mem_append.mp h with hr | hr
    · exact .inl (hown hr)
    · -- The run has handed over the record of the abort.
      split at hr
      · exact .inr ⟨reason, List.mem_singleton.mp hr⟩
      · cases hr

/-- A client that has just finished has handed over its own record, if it left one. -/
theorem attempts_of_finished {run after : LoadRun σ} {index : Nat} {handle : Handle}
    (h : Sound plan run) (hrunning : run.handles[index]? = some .running)
    (hjoined : after.joined = run.joined)
    (hhandles : after.handles = run.handles.setIfInBounds index handle) (hnew : handle ≠ .running) :
    attempts plan after index = (ownRecord? (plan.body index)).toList := by
  -- A client that was running has not been waited for.
  have hlater : ¬ index < run.joined := fun hlt => h.not_running index hlt hrunning
  obtain ⟨hlt, -⟩ := Array.getElem?_eq_some_iff.mp hrunning
  have hhandle : after.handles[index]? = some handle := by
    rw [hhandles, Array.getElem?_setIfInBounds_self_of_lt hlt]
  cases handle with
  | running => exact absurd rfl hnew
  | done summary => simp [attempts, hhandle]
  | aborted reason => simp [attempts, hhandle, hjoined, hlater]

/-- A client that finishes leaves the attempts of all others as they are. -/
theorem attempts_of_ne {run after : LoadRun σ} {index i : Nat} {handle : Handle} (hne : i ≠ index)
    (hjoined : after.joined = run.joined)
    (hhandles : after.handles = run.handles.setIfInBounds index handle) :
    attempts plan after i = attempts plan run i := by
  refine attempts_congr plan ?_ (by rw [hjoined])
  rw [hhandles, Array.getElem?_setIfInBounds_ne (Ne.symm hne)]

/-- What a move adds to the calls of the sink and to the attempts of the clients: nothing, or one
call and one attempt of the same record. -/
def AddsAlike (run after : LoadRun (σ × List TaskRecord)) : Prop :=
  (after.sink.2 = run.sink.2 ∧ ∀ i, attempts (traced plan) after i = attempts (traced plan) run i) ∨
  ∃ i < run.handles.size, ∃ r, after.sink.2 = run.sink.2 ++ [r] ∧
    attempts (traced plan) after i = attempts (traced plan) run i ++ [r] ∧
    ∀ j, j ≠ i → attempts (traced plan) after j = attempts (traced plan) run j

variable {plan}

/-- A client that hands over its record adds a call and an attempt of it. -/
theorem addsAlike_of_finished {run after : LoadRun (σ × List TaskRecord)} {index : Nat}
    {handle : Handle} {record : TaskRecord} (h : Sound (traced plan) run)
    (hrunning : run.handles[index]? = some .running) (hbody : plan.body index = .returned record)
    (hjoined : after.joined = run.joined)
    (hhandles : after.handles = run.handles.setIfInBounds index handle) (hnew : handle ≠ .running)
    (hsink : after.sink.2 = run.sink.2 ++ [record]) : AddsAlike plan run after := by
  obtain ⟨hlt, -⟩ := Array.getElem?_eq_some_iff.mp hrunning
  refine .inr ⟨index, hlt, record, hsink, ?_, fun j hne => ?_⟩
  · rw [attempts_of_running _ hrunning,
      attempts_of_finished _ h hrunning hjoined hhandles hnew]
    simp [traced, hbody, ownRecord?]
  · exact attempts_of_ne _ hne hjoined hhandles

/-- Every move adds calls and attempts alike: where a client finishes it is its own record, where it
is made up for it is that of the abort, and any other move adds neither. -/
theorem addsAlike_step (run : LoadRun (σ × List TaskRecord)) (move : Move)
    (h : Sound (traced plan) run) : AddsAlike plan run (run.step (traced plan) move) := by
  have hstep := stepped (traced plan) run move
  generalize run.step (traced plan) move = after at hstep ⊢
  cases hstep with
  | passed | waited => exact .inl ⟨rfl, fun _ => rfl⟩
  | bodyCrashed index text hrunning hbody =>
    -- The client is gone without a record, so neither side has one.
    refine .inl ⟨rfl, fun i => ?_⟩
    rcases Decidable.em (i = index) with rfl | hne
    · have hafter : attempts (traced plan)
          (run.setHandle i (.aborted (abortReason (plan.label i) text))) i
            = (ownRecord? (plan.body i)).toList :=
        attempts_of_finished _ h hrunning rfl rfl nofun
      have hbody' : plan.body i = .crashed text := hbody
      rw [hbody'] at hafter
      exact hafter.trans (attempts_of_running _ hrunning).symm
    · exact attempts_of_ne _ hne rfl rfl
  | sinkCrashed index record text sink hrunning hbody hemit =>
    have hsink : sink.2 = run.sink.2 ++ [record] := congrArg (fun p => p.2.2) hemit.symm
    exact addsAlike_of_finished h hrunning hbody rfl rfl nofun hsink
  | emitted index record outcome sink hrunning hbody hemit =>
    have hsink : sink.2 = run.sink.2 ++ [record] := congrArg (fun p => p.2.2) hemit.symm
    exact addsAlike_of_finished h hrunning hbody rfl rfl nofun hsink
  | joinedDone summary hcrash hhandle =>
    -- A client that is done has handed over its record before, and nothing is left to hand over.
    refine .inl ⟨rfl, fun i => ?_⟩
    rcases Decidable.em (i = run.joined) with rfl | hne
    · simp [attempts, hhandle]
    · exact attempts_congr _ rfl (show i < run.joined + 1 ↔ _ by omega)
  | joinedAborted reason hcrash hhandle =>
    -- The record of the abort is the new one, on both sides.
    obtain ⟨hlt, -⟩ := Array.getElem?_eq_some_iff.mp hhandle
    refine .inr ⟨run.joined, hlt, abortedRecord plan.settings run.joined reason, ?_, ?_,
      fun j hne => ?_⟩
    · rw [joinAborted_sink]
      rfl
    · simp [attempts, hhandle, traced]
    · refine attempts_congr _ (by rw [joinAborted_handles]) ?_
      rw [joinAborted_joined]
      omega

/-! ### The calls of a whole run -/

/-- Up to their order, the calls of the sink are the attempts of the clients. -/
def CallsAreAttempts (plan : RunPlan σ) (run : LoadRun (σ × List TaskRecord)) : Prop :=
  run.sink.2.Perm ((List.range run.handles.size).flatMap (attempts (traced plan) run))

/-- Every move keeps it: the calls that are noted are those that the handles account for. A client
that finishes adds its own call, and one that is joined after a crash adds the call for its abort.
-/
theorem callsAreAttempts_step (run : LoadRun (σ × List TaskRecord)) (move : Move)
    (hsound : Sound (traced plan) run) (hperm : CallsAreAttempts plan run) :
    CallsAreAttempts plan (run.step (traced plan) move) := by
  rw [CallsAreAttempts, size_handles_step]
  rcases addsAlike_step run move hsound with ⟨hcalls, hsame⟩ | ⟨i, hi, r, hcalls, hadded, hsame⟩
  · rw [hcalls, funext hsame]
    exact hperm
  · rw [hcalls]
    -- The new record comes last among the calls, and last among the attempts of one client.
    exact (hperm.append_right [r]).trans
      (perm_flatMap_append List.nodup_range (List.mem_range.mpr hi) hadded hsame).symm

/-- At the start nothing has been handed over, and every handle is running, so both sides of the
invariant are empty. -/
theorem callsAreAttempts_start (s : σ) :
    CallsAreAttempts plan (LoadRun.start plan.settings (s, [])) := by
  -- Nobody has finished yet, and the sink has not been called.
  have hnone : ∀ i, attempts (traced plan) (LoadRun.start plan.settings (s, [])) i = [] := by
    intro i
    unfold LoadRun.start
    split
    · rcases Nat.lt_or_ge i plan.settings.clients.toNat with hlt | hge
      · exact attempts_of_running _ (by simp [hlt])
      · simp [attempts, hge]
    · simp [attempts]
  rw [CallsAreAttempts, funext hnone]
  unfold LoadRun.start
  split <;> simp

/-- The calls of the sink are the attempts of the clients after every schedule. -/
theorem callsAreAttempts_play (plan : RunPlan σ) (s : σ) (schedule : List Move) :
    CallsAreAttempts plan
      ((LoadRun.start plan.settings (s, [])).play (traced plan) schedule) := by
  have h := play_induction (traced plan) _
    (P := fun run => Sound (traced plan) run ∧ CallsAreAttempts plan run)
    (fun run move h => ⟨sound_step move h.1, callsAreAttempts_step run move h.1 h.2⟩) schedule
    ⟨sound_start (traced plan) (s, []), callsAreAttempts_start s⟩
  exact h.2

end Attempts

/-! ### A sink that does not crash -/

section Once

variable {σ : Type} (plan : RunPlan σ)

/-- The record of a client: its own, or that of its abort. It depends on the body of the client
alone and not on the schedule, and so it can be said in advance what the sink is called with. -/
def accountedRecord (index : Nat) : TaskRecord :=
  match plan.body index with
  | .returned record => record
  | .crashed text => abortedRecord plan.settings index (abortReason (plan.label index) text)

/-- A record that is made for a client that is gone: it has no connection and no message, and its
only error says that the client is gone. -/
def IsAborted (r : TaskRecord) : Prop :=
  r.connected = false ∧ r.sent = 0 ∧ r.received = 0 ∧ r.totalMs = 0.0 ∧ r.averageMs = 0.0 ∧
    ∃ reason, r.errors = ["Task aborted: " ++ reason]

/-- The record of an abort is about its client, and says that there was no connection, no message
and one error, the reason. -/
theorem isAborted_abortedRecord (settings : LoadSettings) (index : Nat) (reason : String) :
    IsAbout settings index (abortedRecord settings index reason) ∧
      IsAborted (abortedRecord settings index reason) :=
  ⟨⟨rfl, rfl, rfl⟩, rfl, rfl, rfl, rfl, rfl, reason, rfl⟩

variable {plan}

/-- The record that is accounted for a client is about that client, be it the client's own or that
of its abort. So the task ids in a run are distinct. -/
theorem isAbout_accountedRecord {index : Nat}
    (h : IsOutcome plan.settings index (plan.body index)) :
    IsAbout plan.settings index (accountedRecord plan index) := by
  unfold accountedRecord
  split
  · rename_i record hbody
    exact h.isAbout hbody
  · exact (isAborted_abortedRecord _ _ _).1

/-- A client that has been waited for has had exactly one attempt, and it was with its own record or
that of its abort. Together with the order of the handles this makes the calls a permutation of the
clients. -/
theorem attempts_of_joined {run : LoadRun σ} {i : Nat} (hsink : NeverCrashes plan.sink)
    (h : Sound plan run) (hi : i < run.joined) :
    attempts plan run i = [accountedRecord plan i] := by
  unfold attempts accountedRecord
  obtain ⟨summary, hhandle⟩ | ⟨reason, hhandle⟩ := h.handle_of_joined hi
  · obtain ⟨record, hbody, -⟩ := h.accounts i _ hhandle
    simp [hhandle, hbody, ownRecord?]
  · -- The sink does not crash, so it was the client that did, and it left no record of its own.
    obtain ⟨text, rfl, hbody | ⟨record, s, -, hcrash⟩⟩ := h.accounts i _ hhandle
    · simp [hhandle, hbody, ownRecord?, hi]
    · exact absurd hcrash (hsink s record text)

/-- The records of the clients have different names, so each is found by its name. -/
theorem filter_accountedRecord {n i : Nat} (hi : i < n)
    (hbodies : ∀ j < n, IsOutcome plan.settings j (plan.body j)) :
    ((List.range n).map (accountedRecord plan)).filter
        (fun r => r.taskId = taskId plan.settings.clientId i)
      = [accountedRecord plan i] := by
  have hname : ∀ j ∈ List.range n,
      decide ((accountedRecord plan j).taskId = taskId plan.settings.clientId i) = (j == i) := by
    intro j hj
    rw [(isAbout_accountedRecord (hbodies j (List.mem_range.mp hj))).1]
    by_cases hji : j = i
    · simp [hji]
    · have hne : ¬ taskId plan.settings.clientId j = taskId plan.settings.clientId i :=
        fun h => hji (taskId_eq_iff.mp h).2
      simp [hji, hne]
  -- So the records with this name are those of the clients with this number.
  have hfilter : (List.range n).filter
      ((fun r => decide (r.taskId = taskId plan.settings.clientId i)) ∘ accountedRecord plan)
      = (List.range n).filter (· == i) :=
    List.filter_congr hname
  have hone : (List.range n).filter (· == i) = [i] := by
    rw [List.filter_beq, List.count_range, if_pos hi]
    rfl
  rw [List.filter_map, hfilter, hone]
  rfl

/-- At the end of a run the sink has been called with the record of each client, in some order. -/
theorem perm_sinkCalls (hsink : NeverCrashes plan.sink) (s : σ) (schedule : List Move)
    (hcomplete : ((LoadRun.start plan.settings s).play plan schedule).isComplete = true) :
    ((LoadRun.start plan.settings s).play plan schedule).joined = plan.settings.clients.toNat ∧
      (sinkCalls plan s schedule).Perm
        ((List.range plan.settings.clients.toNat).map (accountedRecord plan)) := by
  refine ⟨joined_of_isComplete plan hcomplete, ?_⟩
  obtain ⟨hsound, hjoined, hsize⟩ := joined_traced plan hcomplete
  have hperm := callsAreAttempts_play plan s schedule
  rw [CallsAreAttempts, hsize] at hperm
  rw [sinkCalls]
  generalize (LoadRun.start plan.settings (s, [])).play (traced plan) schedule = run
    at hsound hjoined hperm ⊢
  have hnever : NeverCrashes (traced plan).sink := fun t r => hsink t.1 r
  have hattempts : ∀ i ∈ List.range plan.settings.clients.toNat,
      attempts (traced plan) run i = [accountedRecord plan i] := fun i hi =>
    attempts_of_joined hnever hsound (hjoined ▸ List.mem_range.mp hi)
  rw [List.flatMap_def, List.map_congr_left hattempts, ← List.flatMap_def,
    ← List.map_eq_flatMap] at hperm
  exact hperm

/-- With a sink that does not crash, a run that gives a summary has called its sink once for every
client. -/
theorem calls_once (hsink : NeverCrashes plan.sink) (s : σ) (schedule : List Move)
    (hbodies : ∀ i < plan.settings.clients.toNat, IsOutcome plan.settings i (plan.body i)) :
    let n := plan.settings.clients.toNat
    let run := (LoadRun.start plan.settings s).play plan schedule
    let calls := sinkCalls plan s schedule
    (∀ summary, run.result? = some summary →
      summary.clients = n ∧ calls.length = n ∧
      ∀ i < n, ∃ r,
        calls.filter (fun r => r.taskId = taskId plan.settings.clientId i) = [r] ∧
        IsAbout plan.settings i r ∧
        match plan.body i with
        | .returned record => r = record
        | .crashed _ => IsAborted r) ∧
    ((run.play plan (LoadRun.inOrder n)).result?.isSome = true ↔ n ≤ greatestClients) := by
  intro n run calls
  refine ⟨fun summary hresult => ?_, result?_play_inOrder plan hsink s schedule⟩
  obtain ⟨hcomplete, rfl⟩ : run.isComplete = true ∧ run.summary = summary := by
    simpa [LoadRun.result?] using hresult
  -- Up to their order the calls are one record for each client.
  obtain ⟨hjoined, hperm⟩ := perm_sinkCalls hsink s schedule hcomplete
  refine ⟨(clients_summary_play plan s schedule).trans hjoined, ?_, fun i hi => ?_⟩
  · rw [hperm.length_eq, List.length_map, List.length_range]
  · -- No other client has this name, so one call is left under it.
    have hname := hperm.filter fun r => r.taskId = taskId plan.settings.clientId i
    rw [filter_accountedRecord hi hbodies, List.perm_singleton] at hname
    refine ⟨accountedRecord plan i, hname, isAbout_accountedRecord (hbodies i hi), ?_⟩
    unfold accountedRecord
    split
    · rfl
    · exact (isAborted_abortedRecord _ _ _).2

end Once

/-- The link of a client that finds nobody to talk to, and whose record is that of a failed
connection. -/
def nobody : Link Unit where
  dial s := (.failed .connectionRefused, s)
  write s _ := (.failed 0 .connectionReset, s)
  read s _ := ((.failed .connectionReset, ⟨0⟩), s)

/-- Two clients, of which the first finds nobody to talk to and the second crashes, and a sink that
takes no record. -/
def lostPlan : RunPlan Unit where
  settings := { LoadSettings.default with clients := 2 }
  sink := ⟨fun s _ => (.failed (.config "rejected"), s)⟩
  body
    | 0 => .ofClient (Client.run nobody { LoadSettings.default with clients := 2 } 0 ()).1
    | _ => .crashed "lost"
  label := toString

/-- Both clients of `lostPlan` are accounted for, although the second finishes first and no call of
the sink succeeds. -/
theorem calls_once_lostPlan :
    let schedule : List Move := [.finish 1, .join, .finish 0, .join, .join]
    let run := (LoadRun.start lostPlan.settings ()).play lostPlan schedule
    NeverCrashes lostPlan.sink ∧
    (∀ i < 2, IsOutcome lostPlan.settings i (lostPlan.body i)) ∧
    ∃ summary, run.result? = some summary ∧ summary.clients = 2 ∧
      (sinkCalls lostPlan () schedule).length = 2 ∧
      (∃ r, (sinkCalls lostPlan () schedule).filter
          (fun r => r.taskId = taskId lostPlan.settings.clientId 0) = [r] ∧
        lostPlan.body 0 = .returned r) ∧
      ∃ r, (sinkCalls lostPlan () schedule).filter
          (fun r => r.taskId = taskId lostPlan.settings.clientId 1) = [r] ∧ IsAborted r := by
  intro schedule run
  have hsink : NeverCrashes lostPlan.sink := nofun
  have hbodies : ∀ i < 2, IsOutcome lostPlan.settings i (lostPlan.body i) := by
    intro i hi
    obtain rfl | rfl : i = 0 ∨ i = 1 := by omega
    · exact .talked nobody ()
    · exact .crashed "lost"
  obtain ⟨hcalls, -⟩ := calls_once hsink () schedule hbodies
  -- The five moves bring the run to its summary.
  obtain ⟨summary, hsummary⟩ : ∃ summary, run.result? = some summary :=
    Option.isSome_iff_exists.mp (by decide)
  obtain ⟨hclients, hlength, honce⟩ := hcalls summary hsummary
  obtain ⟨first, hfirst, -, hown⟩ := honce 0 (by decide)
  obtain ⟨second, hsecond, -, haborted⟩ := honce 1 (by decide)
  exact ⟨hsink, hbodies, summary, hsummary, hclients, hlength, ⟨first, hfirst, hown ▸ rfl⟩,
    second, hsecond, haborted⟩

end EchoBench.Proofs.Load
