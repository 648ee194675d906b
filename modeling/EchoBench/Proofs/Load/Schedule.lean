import EchoBench.Load.Run
import EchoBench.Proofs.Load.Ending

/-!
# `EchoBench.Proofs.Load.Schedule`: what the moves of a run do

A schedule is any list of moves, so what is said of all schedules is said of every order in which
clients finish and are waited for. `stepped` lists once what a single move can do, with all that it
reads and changes, and the invariants of a run are read off that list.

* `Sound` says what the handles of a run stand for: the body of each client that is not running,
  and that no client was waited for while it ran. `sound_play` takes it to all schedules.
* `ended_play_inOrder` says that a run ends from anywhere, once its clients have finished and been
  waited for: it comes to its summary or it crashes. With a sink that does not crash, a run that has
  been started comes to its summary (`result?_play_inOrder`).
-/

set_option autoImplicit false

namespace EchoBench.Proofs.Load

open EchoBench.Config (LoadSettings)
open EchoBench.Load
open EchoBench.Net

/-- What can come of the client with a number: it talks over some link, or it crashes. -/
inductive IsOutcome (settings : LoadSettings) (index : Nat) : Body → Prop
  | talked {σ : Type} (link : Link σ) (s : σ) :
    IsOutcome settings index (.ofClient (Client.run link settings index s).1)
  | crashed (text : String) : IsOutcome settings index (.crashed text)

/-- The record that a client leaves is about that client. Two records of a run are therefore never
mistaken for each other. -/
theorem IsOutcome.isAbout {settings : LoadSettings} {index : Nat} {body : Body} {r : TaskRecord}
    (h : IsOutcome settings index body) (hbody : body = .returned r) :
    IsAbout settings index r := by
  cases h with
  | crashed text => cases hbody
  | talked link s =>
    have habout : IsAbout settings index _ := isAbout_run link index s
    unfold Body.ofClient at hbody
    split at hbody
    · cases hbody
    all_goals
      cases hbody
      exact habout

/-- The record that a client leaves is that of some ending, so the counts in it are within the
bounds that endings have. -/
theorem IsOutcome.exists_describes {settings : LoadSettings} {index : Nat} {body : Body}
    {r : TaskRecord} (h : IsOutcome settings index body) (hbody : body = .returned r) :
    ∃ e : Ending, e.Describes settings r := by
  cases h with
  | crashed text => cases hbody
  | talked link s =>
    by_cases hdial : (link.dial s).1 = .connected
    · rcases Nat.lt_or_ge greatestBuffer settings.bufferSize.toNat with hgreat | hbuffer
      · -- Without its buffer the client leaves no record.
        have hstage := crashed_run link settings index s hdial hgreat
        simp [Body.ofClient, hstage] at hbody
      · obtain ⟨hstage, htalking⟩ := talking_run link settings index s hdial hbuffer
        simp only [Body.ofClient, hstage] at hbody
        obtain ⟨-, e, he⟩ := htalking.of_finished hstage
        exact ⟨e, Body.returned.inj hbody ▸ he⟩
    · obtain ⟨hstage, -, reason, he⟩ := dialFailed_run link settings index s hdial
      simp only [Body.ofClient, hstage] at hbody
      exact ⟨_, Body.returned.inj hbody ▸ he⟩

section

variable {σ : Type} (plan : RunPlan σ) (run : LoadRun σ)

/-- What a run notes of the answer of its sink: a warning where the sink failed, and nothing where
it took the record. -/
def noted : Outcome → List RunEvent
  | .failed error => [.emitFailed error]
  | .ok | .crashed _ => []

/-- Everything that a move can do to a run. `stepped` says that a move does one of these, and all
invariants over schedules are case analyses of it; none of them opens the step function again. -/
inductive Stepped : Move → LoadRun σ → Prop
  /-- The client had finished before, or there is no such client. -/
  | passed (index : Nat) (hhandle : run.handles[index]? ≠ some .running) :
    Stepped (.finish index) run
  /-- The client crashes. -/
  | bodyCrashed (index : Nat) (text : String) (hhandle : run.handles[index]? = some .running)
      (hbody : plan.body index = .crashed text) :
    Stepped (.finish index) (run.setHandle index (.aborted (abortReason (plan.label index) text)))
  /-- The sink crashes on the record of the client. -/
  | sinkCrashed (index : Nat) (record : TaskRecord) (text : String) (sink : σ)
      (hhandle : run.handles[index]? = some .running) (hbody : plan.body index = .returned record)
      (hemit : plan.sink.emit run.sink record = (.crashed text, sink)) :
    Stepped (.finish index)
      ({ run with sink }.setHandle index (.aborted (abortReason (plan.label index) text)))
  /-- The sink answers for the record of the client. -/
  | emitted (index : Nat) (record : TaskRecord) (outcome : Outcome) (sink : σ)
      (hhandle : run.handles[index]? = some .running) (hbody : plan.body index = .returned record)
      (hemit : plan.sink.emit run.sink record = (outcome, sink))
      (houtcome : ∀ text, outcome ≠ .crashed text) :
    Stepped (.finish index) { run with
      handles := run.handles.setIfInBounds index (.done (LoadSummary.empty.observe record))
      sink
      events := run.events ++ noted outcome }
  /-- There is nobody to be waited for, or the next client is still running. -/
  | waited (hhandle : run.crash.isSome = true ∨ run.handles[run.joined]? = none ∨
      run.handles[run.joined]? = some .running) :
    Stepped .join run
  /-- The next client is done. -/
  | joinedDone (summary : LoadSummary) (hcrash : run.crash = none)
      (hhandle : run.handles[run.joined]? = some (.done summary)) :
    Stepped .join { run with joined := run.joined + 1, summary := run.summary.merge summary }
  /-- The next client is gone. -/
  | joinedAborted (reason : String) (hcrash : run.crash = none)
      (hhandle : run.handles[run.joined]? = some (.aborted reason)) :
    Stepped .join (run.joinAborted plan reason)

/-- A move does what `Stepped` lists. -/
theorem stepped (move : Move) : Stepped plan run move (run.step plan move) := by
  cases move with
  | finish index =>
    change Stepped plan run _ (run.finish plan index)
    unfold LoadRun.finish
    split
    · rename_i hhandle
      cases hbody : plan.body index with
      | crashed text => exact .bodyCrashed index text hhandle hbody
      | returned record =>
        -- What becomes of the handle is up to the sink.
        rcases hemit : plan.sink.emit run.sink record with ⟨outcome, sink⟩
        cases outcome with
        | ok =>
          have h := Stepped.emitted index record .ok sink hhandle hbody hemit nofun
          simpa [noted, LoadRun.setHandle, hemit] using h
        | failed error =>
          have h := Stepped.emitted index record (.failed error) sink hhandle hbody hemit nofun
          simpa [noted, LoadRun.setHandle, hemit] using h
        | crashed text =>
          have h := Stepped.sinkCrashed index record text sink hhandle hbody hemit
          simpa [LoadRun.setHandle, hemit] using h
    · rename_i hhandle
      exact .passed index fun h => hhandle h
  | join =>
    change Stepped plan run _ (run.join plan)
    unfold LoadRun.join
    split
    · exact .waited (.inl ‹_›)
    · rename_i hcrash
      have hcrash : run.crash = none := by simpa using hcrash
      split
      · exact .joinedDone _ hcrash ‹_›
      · exact .joinedAborted _ hcrash ‹_›
      · exact .waited (.inr (.inr ‹_›))
      · exact .waited (.inr (.inl ‹_›))

/-! ### A client that is gone -/

section JoinAborted

variable (reason : String)

/-- Making up for a client that is gone does not bring it back. -/
@[simp] theorem joinAborted_handles : (run.joinAborted plan reason).handles = run.handles := by
  simp only [LoadRun.joinAborted]
  split <;> rfl

/-- The client counts as waited for from now on. -/
@[simp] theorem joinAborted_joined :
    (run.joinAborted plan reason).joined = run.joined + 1 := by
  simp only [LoadRun.joinAborted]
  split <;> rfl

/-- The record of the abort is counted before it is handed to the sink, so it counts whatever the
sink makes of it. -/
@[simp] theorem joinAborted_summary :
    (run.joinAborted plan reason).summary
      = run.summary.observe (abortedRecord plan.settings run.joined reason) := by
  simp only [LoadRun.joinAborted]
  split <;> rfl

/-- The record of the abort is handed to the sink once, and the answer of the sink is not looked at.
-/
@[simp] theorem joinAborted_sink :
    (run.joinAborted plan reason).sink
      = (plan.sink.emit run.sink (abortedRecord plan.settings run.joined reason)).2 := by
  simp only [LoadRun.joinAborted]
  split <;> rfl

/-- Only a sink that crashes on the record of an abort ends a run. -/
theorem joinAborted_crash
    (hemit : ∀ text,
      (plan.sink.emit run.sink (abortedRecord plan.settings run.joined reason)).1 ≠ .crashed text) :
    (run.joinAborted plan reason).crash = run.crash := by
  simp only [LoadRun.joinAborted]
  split
  · rfl
  · rfl
  · rename_i text hcrash
    exact absurd hcrash (hemit text)

end JoinAborted

/-! ### What a run keeps -/

/-- What every move keeps, a schedule keeps. All invariants of runs are proved by this, from one
lemma about a single move each. -/
theorem play_induction {P : LoadRun σ → Prop}
    (hstep : ∀ (run : LoadRun σ) (move : Move), P run → P (run.step plan move))
    (schedule : List Move) (h : P run) : P (run.play plan schedule) := by
  induction schedule generalizing run with
  | nil => exact h
  | cons move schedule ih => exact ih _ (hstep run move h)

/-- What every call keeps of the state of the sink, a move keeps, since a move touches the sink by
calling it and in no other way. -/
theorem sink_step {P : σ → Prop} (hemit : ∀ s r, P s → P (plan.sink.emit s r).2) (move : Move)
    (h : P run.sink) : P (run.step plan move).sink := by
  have hstep := stepped plan run move
  generalize run.step plan move = after at hstep ⊢
  cases hstep with
  | passed | bodyCrashed | waited | joinedDone => exact h
  | sinkCrashed index record text sink _ _ hcall =>
    have hkept := hemit run.sink record h
    rwa [hcall] at hkept
  | emitted index record outcome sink _ _ hcall =>
    have hkept := hemit run.sink record h
    rwa [hcall] at hkept
  | joinedAborted reason =>
    rw [joinAborted_sink]
    exact hemit run.sink _ h

/-- What every call of the sink keeps holds of the sink at the end of a run. This is the way from a
fact about one call to a fact about all schedules. -/
theorem sink_play {P : σ → Prop} (hemit : ∀ s r, P s → P (plan.sink.emit s r).2)
    (schedule : List Move) (h : P run.sink) : P (run.play plan schedule).sink :=
  play_induction plan run (P := fun r => P r.sink)
    (fun r move h => sink_step plan r hemit move h) schedule h

/-- The number of clients never changes: a move replaces a handle and adds none. -/
theorem size_handles_step (move : Move) :
    (run.step plan move).handles.size = run.handles.size := by
  have hstep := stepped plan run move
  generalize run.step plan move = after at hstep ⊢
  cases hstep <;> simp [LoadRun.setHandle]

/-- A run keeps its handles: no move starts a client or forgets one. -/
theorem size_handles_play (schedule : List Move) :
    (run.play plan schedule).handles.size = run.handles.size :=
  play_induction plan run (P := fun r => r.handles.size = run.handles.size)
    (fun r move h => (size_handles_step plan r move).trans h) schedule rfl

/-- A client that is not running never runs again, because a handle is replaced only by one that is
not running. -/
theorem not_running_step (move : Move) (i : Nat) (h : run.handles[i]? ≠ some .running) :
    (run.step plan move).handles[i]? ≠ some .running := by
  have hstep := stepped plan run move
  generalize run.step plan move = after at hstep ⊢
  cases hstep with
  | passed index _ => exact h
  | waited _ => exact h
  | joinedDone summary _ _ => exact h
  | joinedAborted reason _ _ => simpa using h
  | bodyCrashed index | sinkCrashed index | emitted index =>
    -- The client with this number is done or gone now, and the others are as they were.
    simp only [LoadRun.setHandle, Array.getElem?_setIfInBounds]
    split
    · split <;> simp
    · exact h

/-- The text that a run has ended with stays: a run that has crashed makes no move any more. -/
theorem crash_step_of_some {text : String} (move : Move) (h : run.crash = some text) :
    (run.step plan move).crash = some text := by
  have hstep := stepped plan run move
  generalize run.step plan move = after at hstep ⊢
  cases hstep with
  | joinedDone summary hcrash | joinedAborted reason hcrash => simp [hcrash] at h
  | _ => exact h

/-- A run that has crashed stays so, and its text stays the first, because no client is waited for
after it. -/
theorem crash_play_of_some {text : String} (schedule : List Move) (h : run.crash = some text) :
    (run.play plan schedule).crash = some text :=
  play_induction plan run (P := fun r => r.crash = some text)
    (fun r move h => crash_step_of_some plan r move h) schedule h

/-- A sink that answers every call, well or with an error, in whatever state it is. Errors are part
of the bargain; only a crash inside of a call is not. -/
def NeverCrashes (sink : Sink σ) : Prop :=
  ∀ (s : σ) (r : TaskRecord) (text : String), (sink.emit s r).1 ≠ .crashed text

/-- With a sink that does not crash, a move does not end a run. -/
theorem crash_step (hsink : NeverCrashes plan.sink) (move : Move) :
    (run.step plan move).crash = run.crash := by
  have hstep := stepped plan run move
  generalize run.step plan move = after at hstep ⊢
  cases hstep with
  | joinedAborted reason => exact joinAborted_crash plan run reason (hsink _ _)
  | _ => rfl

/-- Where no call of the sink crashes, no move crashes the run, and only the start can have. -/
theorem crash_play (hsink : NeverCrashes plan.sink) (schedule : List Move) :
    (run.play plan schedule).crash = run.crash :=
  play_induction plan run (P := fun r => r.crash = run.crash)
    (fun r move h => (crash_step plan r hsink move).trans h) schedule rfl

/-! ### What the handles stand for -/

/-- What the handle of a client says of its body. A client is gone because its body crashed or
because the sink crashed on its record. -/
def Accounts (index : Nat) : Handle → Prop
  | .running => True
  | .done summary =>
    ∃ record, plan.body index = .returned record ∧ summary = LoadSummary.empty.observe record
  | .aborted reason =>
    ∃ text, reason = abortReason (plan.label index) text ∧
      (plan.body index = .crashed text ∨
        ∃ record s, plan.body index = .returned record ∧
          (plan.sink.emit s record).1 = .crashed text)

/-- The handles of a run are in order: those that have been joined are a front of them, each is done
or gone, and what it says of a record is an outcome of its client. -/
structure Sound : Prop where
  joined_le : run.joined ≤ run.handles.size
  /-- Nobody was waited for who was still running. -/
  not_running : ∀ i < run.joined, run.handles[i]? ≠ some .running
  accounts : ∀ i handle, run.handles[i]? = some handle → Accounts plan i handle

variable {plan run}

/-- A new handle that stands for the body of its client keeps `Sound`. -/
theorem Sound.setHandle {after : LoadRun σ} {index : Nat} {handle : Handle} (h : Sound plan run)
    (hjoined : after.joined = run.joined)
    (hhandles : after.handles = run.handles.setIfInBounds index handle)
    (hnew : handle ≠ .running) (haccounts : Accounts plan index handle) : Sound plan after where
  joined_le := by
    rw [hjoined, hhandles, Array.size_setIfInBounds]
    exact h.joined_le
  not_running i hi := by
    rw [hhandles, Array.getElem?_setIfInBounds]
    split
    · split <;> simp [hnew]
    · exact h.not_running i (hjoined ▸ hi)
  accounts i other hother := by
    rw [hhandles, Array.getElem?_setIfInBounds] at hother
    split at hother
    · rename_i hi
      -- The handle that is new is the one that was asked for.
      subst hi
      split at hother
      · cases hother
        exact haccounts
      · cases hother
    · exact h.accounts i other hother

/-- Waiting for a client that is not running keeps `Sound`, since the front of those that have been
joined grows by one that is done or gone. -/
theorem Sound.join {after : LoadRun σ} {handle : Handle} (h : Sound plan run)
    (hjoined : after.joined = run.joined + 1) (hhandles : after.handles = run.handles)
    (hhandle : run.handles[run.joined]? = some handle) (hnew : handle ≠ .running) :
    Sound plan after where
  joined_le := by
    obtain ⟨hlt, -⟩ := Array.getElem?_eq_some_iff.mp hhandle
    rw [hjoined, hhandles]
    exact hlt
  not_running i hi := by
    rw [hhandles]
    -- The client was waited for before, or just now.
    rcases Nat.lt_or_ge i run.joined with hlt | hge
    · exact h.not_running i hlt
    · obtain rfl : i = run.joined := by omega
      rw [hhandle]
      simpa using hnew
  accounts i other hother := h.accounts i other (hhandles ▸ hother)

/-- A client that has been waited for is done or gone. This is where the counting of a summary
begins, for each of the two is counted in its own way. -/
theorem Sound.handle_of_joined {i : Nat} (h : Sound plan run) (hi : i < run.joined) :
    (∃ summary, run.handles[i]? = some (.done summary)) ∨
      ∃ reason, run.handles[i]? = some (.aborted reason) := by
  have hlt : i < run.handles.size := Nat.lt_of_lt_of_le hi h.joined_le
  have hhandle : run.handles[i]? = some run.handles[i] := Array.getElem?_eq_getElem hlt
  cases hcase : run.handles[i] with
  | running => exact absurd (hcase ▸ hhandle) (h.not_running i hi)
  | done summary => exact .inl ⟨summary, hcase ▸ hhandle⟩
  | aborted reason => exact .inr ⟨reason, hcase ▸ hhandle⟩

/-- Every move keeps `Sound`: a client that finishes gets its handle, and the next in turn is joined
only when it has finished. -/
theorem sound_step (move : Move) (h : Sound plan run) : Sound plan (run.step plan move) := by
  have hstep := stepped plan run move
  generalize run.step plan move = after at hstep ⊢
  cases hstep with
  | passed | waited => exact h
  | bodyCrashed index text _ hbody =>
    exact h.setHandle rfl rfl nofun ⟨text, rfl, .inl hbody⟩
  | sinkCrashed index record text sink _ hbody hemit =>
    exact h.setHandle rfl rfl nofun ⟨text, rfl, .inr ⟨record, run.sink, hbody, by rw [hemit]⟩⟩
  | emitted index record outcome sink _ hbody =>
    exact h.setHandle rfl rfl nofun ⟨record, hbody, rfl⟩
  | joinedDone summary _ hhandle => exact h.join rfl rfl hhandle nofun
  | joinedAborted reason _ hhandle => exact h.join (by simp) (by simp) hhandle nofun

variable (plan run)

/-- At the start no client has finished and none has been joined, so all that `Sound` asks of them
is asked of nothing. -/
theorem sound_start (s : σ) : Sound plan (LoadRun.start plan.settings s) := by
  unfold LoadRun.start
  split
  · refine ⟨Nat.zero_le _, fun i hi => absurd hi (Nat.not_lt_zero i), fun i handle hhandle => ?_⟩
    obtain ⟨-, rfl⟩ := Array.getElem?_eq_some_iff.mp hhandle
    simp [Accounts]
  · exact ⟨Nat.le_refl _, fun i hi => absurd hi (Nat.not_lt_zero i), by simp⟩

/-- The handles are in order after every schedule, so whatever is said of the handles of a sound run
holds of every run. -/
theorem sound_play (s : σ) (schedule : List Move) :
    Sound plan ((LoadRun.start plan.settings s).play plan schedule) :=
  play_induction plan _ (fun _ move h => sound_step move h) schedule (sound_start plan s)

/-- A move that waits for a client counts it. So the summary has counted as many clients as have
been waited for, one record for each. -/
theorem clients_summary_step (move : Move) (h : Sound plan run)
    (hclients : run.summary.clients = run.joined) :
    (run.step plan move).summary.clients = (run.step plan move).joined := by
  have hstep := stepped plan run move
  generalize run.step plan move = after at hstep ⊢
  cases hstep with
  | joinedDone summary _ hhandle =>
    -- The summary of a client that is done is that of its one record.
    obtain ⟨record, -, rfl⟩ := h.accounts _ _ hhandle
    simp [LoadSummary.merge, LoadSummary.observe, LoadSummary.empty, hclients]
  | joinedAborted => simp [LoadSummary.observe, hclients]
  | _ => exact hclients

/-- The summary counts the clients that have been waited for, no more and no less, at any moment of
a run. -/
theorem clients_summary_play (s : σ) (schedule : List Move) :
    ((LoadRun.start plan.settings s).play plan schedule).summary.clients
      = ((LoadRun.start plan.settings s).play plan schedule).joined := by
  have hstart : (LoadRun.start plan.settings s).summary.clients
      = (LoadRun.start plan.settings s).joined := by
    unfold LoadRun.start
    split <;> rfl
  have h := play_induction plan _ (P := fun run => Sound plan run ∧ run.summary.clients = run.joined)
    (fun run move h => ⟨sound_step move h.1, clients_summary_step plan run move h.1 h.2⟩) schedule
    ⟨sound_start plan s, hstart⟩
  exact h.2

/-! ### How a run ends -/

/-- A schedule can be cut anywhere, and the run goes on from where its first part has left it. -/
theorem play_append (first second : List Move) :
    run.play plan (first ++ second) = (run.play plan first).play plan second := by
  simp [LoadRun.play, List.foldl_append]

/-- The first move of a schedule comes first; this is the equation by which runs are taken apart
from the front. -/
theorem play_cons (move : Move) (schedule : List Move) :
    run.play plan (move :: schedule) = (run.step plan move).play plan schedule :=
  rfl

/-- A client that has finished is not running, whatever came of its call to the sink. -/
theorem not_running_finish (index : Nat) :
    (run.step plan (.finish index)).handles[index]? ≠ some .running := by
  have hstep := stepped plan run (.finish index)
  generalize run.step plan (.finish index) = after at hstep ⊢
  cases hstep with
  | passed _ h => exact h
  | bodyCrashed | sinkCrashed | emitted =>
    simp only [LoadRun.setHandle, Array.getElem?_setIfInBounds, if_true]
    split <;> simp

/-- Clients that have finished one after the other are not running, in whatever order that was. The
in-order schedule begins in this way. -/
theorem not_running_play_finish (indices : List Nat) (i : Nat)
    (h : i ∈ indices ∨ run.handles[i]? ≠ some .running) :
    (run.play plan (indices.map .finish)).handles[i]? ≠ some .running := by
  induction indices generalizing run with
  | nil =>
    rcases h with h | h
    · cases h
    · exact h
  | cons index indices ih =>
    rw [List.map_cons, play_cons]
    refine ih _ ?_
    rcases h with h | h
    · rcases List.mem_cons.mp h with rfl | h
      · exact .inr (not_running_finish plan run i)
      · exact .inl h
    · exact .inr (not_running_step plan run _ i h)

/-- A client that is not running is waited for at once, and so the run gets on by one client. -/
theorem joined_join (hcrash : run.crash = none) (hlt : run.joined < run.handles.size)
    (h : run.handles[run.joined]? ≠ some .running) :
    (run.step plan .join).joined = run.joined + 1 := by
  have hstep := stepped plan run .join
  generalize run.step plan .join = after at hstep ⊢
  cases hstep with
  | waited hwaited =>
    rcases hwaited with hsome | hnone | hrunning
    · simp [hcrash] at hsome
    · rw [Array.getElem?_eq_none_iff] at hnone
      omega
    · exact absurd hrunning h
  | joinedDone => rfl
  | joinedAborted => simp

/-- With nobody running, all clients are waited for in as many moves as there are clients left,
unless the run crashes before that. -/
theorem ended_play_join (hle : run.joined ≤ run.handles.size)
    (hidle : ∀ i : Nat, run.handles[i]? ≠ some .running) (k : Nat)
    (hk : run.handles.size ≤ run.joined + k) :
    (run.play plan (List.replicate k .join)).crash.isSome = true ∨
      (run.play plan (List.replicate k .join)).joined = run.handles.size := by
  induction k generalizing run with
  | zero => exact .inr (Nat.le_antisymm hle hk)
  | succ k ih =>
    cases hcrash : run.crash with
    | some text =>
      left
      rw [crash_play_of_some plan run _ hcrash]
      rfl
    | none =>
      rw [List.replicate_succ, play_cons, ← size_handles_step plan run .join]
      have hidle' := fun i => not_running_step plan run .join i (hidle i)
      have hsize := size_handles_step plan run .join
      rcases Nat.lt_or_ge run.joined run.handles.size with hlt | hge
      · -- The next client has finished, so this move waits for it.
        have hjoined := joined_join plan run hcrash hlt (hidle _)
        exact ih _ (by omega) hidle' (by omega)
      · -- Everybody has been waited for, and the move changes nothing.
        have hsame : run.step plan .join = run := by
          have hnone : run.handles[run.joined]? = none := Array.getElem?_eq_none_iff.mpr hge
          simp [LoadRun.step, LoadRun.join, hcrash, hnone]
        rw [hsame]
        exact ih _ hle hidle (by omega)

/-- A run with its handles in order has come to its summary or has crashed once its clients have
finished and been waited for. -/
theorem ended_play_inOrder (hsound : Sound plan run) :
    (run.play plan (LoadRun.inOrder run.handles.size)).crash.isSome = true ∨
      (run.play plan (LoadRun.inOrder run.handles.size)).isComplete = true := by
  have hrunning : ∀ i : Nat,
      (run.play plan ((List.range run.handles.size).map .finish)).handles[i]? ≠ some .running := by
    intro i
    apply not_running_play_finish
    rcases Nat.lt_or_ge i run.handles.size with hlt | hge
    · exact .inl (List.mem_range.mpr hlt)
    · right
      rw [Array.getElem?_eq_none_iff.mpr hge]
      simp
  -- From here on only the run after all clients have finished matters.
  rw [LoadRun.inOrder, play_append]
  generalize hfinished : run.play plan ((List.range run.handles.size).map .finish) = finished
    at hrunning
  have hsize : finished.handles.size = run.handles.size :=
    hfinished ▸ size_handles_play plan run _
  have hsound' : Sound plan finished :=
    hfinished ▸ play_induction plan run (fun _ move h => sound_step move h) _ hsound
  have hended := ended_play_join plan finished hsound'.joined_le hrunning run.handles.size (by omega)
  have hlast := size_handles_play plan finished (List.replicate run.handles.size .join)
  generalize finished.play plan (List.replicate run.handles.size .join) = last at hended hlast ⊢
  cases hcrash : last.crash with
  | some text => exact .inl rfl
  | none =>
    right
    have hjoined : last.joined = finished.handles.size := by simpa [hcrash] using hended
    simp [LoadRun.isComplete, hjoined, hlast, hcrash]

/-- A run gives a summary if and only if every client has been waited for and nothing has crashed,
and it is the summary kept so far. -/
theorem result?_eq_some_iff {run : LoadRun σ} {summary : LoadSummary} :
    run.result? = some summary ↔ run.isComplete = true ∧ run.summary = summary := by
  simp [LoadRun.result?]

/-- A run that could not start is gone, and no move brings it back; so one that is complete did
start. -/
theorem start_crash_of_isComplete {s : σ} {schedule : List Move}
    (h : ((LoadRun.start plan.settings s).play plan schedule).isComplete = true) :
    (LoadRun.start plan.settings s).crash = none := by
  obtain ⟨-, hcrash⟩ : _ = _ ∧ _ = none := by simpa [LoadRun.isComplete] using h
  cases hstart : (LoadRun.start plan.settings s).crash with
  | none => rfl
  | some text => simp [crash_play_of_some plan _ schedule hstart] at hcrash

/-- A run that started has a handle for each of its clients. The other case is that of too many
clients, where nothing has been started. -/
theorem size_handles_of_start_crash {s : σ}
    (h : (LoadRun.start plan.settings s).crash = none) (schedule : List Move) :
    ((LoadRun.start plan.settings s).play plan schedule).handles.size
      = plan.settings.clients.toNat := by
  have hle := (LoadRun.start_crash_eq_none_iff plan.settings s).mp h
  simp [size_handles_play, LoadRun.start, hle]

/-- A run that is complete has waited for all its clients, so what holds of the clients that have
been joined holds of every one. -/
theorem joined_of_isComplete {s : σ} {schedule : List Move}
    (h : ((LoadRun.start plan.settings s).play plan schedule).isComplete = true) :
    ((LoadRun.start plan.settings s).play plan schedule).joined = plan.settings.clients.toNat := by
  obtain ⟨hjoined, -⟩ : _ = _ ∧ _ = none := by simpa [LoadRun.isComplete] using h
  rw [hjoined, size_handles_of_start_crash plan (start_crash_of_isComplete plan h)]

/-- Once its clients have finished and been waited for, a run has its summary unless it crashed. -/
theorem isSome_result?_play_inOrder_iff (s : σ) (schedule : List Move) :
    let last := ((LoadRun.start plan.settings s).play plan schedule).play plan
      (LoadRun.inOrder plan.settings.clients.toNat)
    last.result?.isSome = true ↔ last.crash = none := by
  intro last
  constructor
  · intro hresult
    obtain ⟨summary, hsummary⟩ := Option.isSome_iff_exists.mp hresult
    have hcomplete : last.isComplete = true := (result?_eq_some_iff.mp hsummary).1
    simp only [LoadRun.isComplete, Bool.and_eq_true, Option.isNone_iff_eq_none] at hcomplete
    exact hcomplete.2
  · intro hcrash
    -- The run did start, so it has a handle for each of its clients.
    have hstart : (LoadRun.start plan.settings s).crash = none := by
      cases hstart : (LoadRun.start plan.settings s).crash with
      | none => rfl
      | some text =>
        have hlast : last.crash = some text :=
          crash_play_of_some plan _ _ (crash_play_of_some plan _ schedule hstart)
        simp [hlast] at hcrash
    have hended := ended_play_inOrder plan _ (sound_play plan s schedule)
    rw [size_handles_of_start_crash plan hstart schedule] at hended
    have hcomplete : last.isComplete = true :=
      hended.resolve_left fun hsome => by simp [last, hcrash] at hsome
    simp [LoadRun.result?, hcomplete]

/-- A run whose clients are not too many comes to its summary from anywhere, once its clients have
finished and been waited for. A run with too many clients never does. -/
theorem result?_play_inOrder (hsink : NeverCrashes plan.sink) (s : σ) (schedule : List Move) :
    (((LoadRun.start plan.settings s).play plan schedule).play plan
        (LoadRun.inOrder plan.settings.clients.toNat)).result?.isSome = true
      ↔ plan.settings.clients.toNat ≤ greatestClients := by
  refine (isSome_result?_play_inOrder_iff plan s schedule).trans ?_
  rw [crash_play plan _ hsink, crash_play plan _ hsink, LoadRun.start_crash_eq_none_iff]

end

end EchoBench.Proofs.Load
