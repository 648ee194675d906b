import EchoBench.Proofs.Load.Emission
import Mathlib.Data.List.Induction

/-!
# `EchoBench.Proofs.Load.Crash`: when a run ends without a summary

A crash within a client is noted at its handle, whether it was the client that crashed or its call
of the sink, and the run goes on. There are two crashes that nobody catches (`LostTo`). A run with
too many clients cannot keep account of them; and where the run itself hands the record of an abort
to the sink, a crash of that call is one of the run. `crash_play_iff` says that these are all.

`ended_of_any_sink` puts together what becomes of a run with any sink whatever. Once its clients
have finished and been waited for, it has come to its summary or has crashed. With a summary, every
client is counted and the sink has been called for it. So a sink that crashes on a record, and then
again on the record of that abort, takes the run with it (`summary_lost`).
-/

set_option autoImplicit false

namespace EchoBench.Proofs.Load

open EchoBench.Config (LoadSettings)
open EchoBench.Load

section Crash

variable {σ : Type} (plan : RunPlan σ)

/-! ### What ends a run -/

/-- The sink crashes, and leaves a text, where the run hands over the record of an abort. -/
def LosesAbort (run : LoadRun σ) (text : String) : Prop :=
  run.crash = none ∧ ∃ reason, run.handles[run.joined]? = some (.aborted reason) ∧
    (plan.sink.emit run.sink (abortedRecord plan.settings run.joined reason)).1 = .crashed text

/-- A schedule ends a run with a text, and leaves it without a summary: there are too many clients,
or one of the moves hands over the record of an abort on which the sink crashes. -/
def LostTo (s : σ) (schedule : List Move) (text : String) : Prop :=
  (greatestClients < plan.settings.clients.toNat ∧ text = "capacity overflow") ∨
  ∃ before after, schedule = before ++ .join :: after ∧
    LosesAbort plan ((LoadRun.start plan.settings s).play plan before) text

/-- The record of an abort ends a run with the text that the sink leaves, if it leaves one. -/
theorem joinAborted_crash_eq_some_iff (run : LoadRun σ) (reason text : String)
    (hcrash : run.crash = none) :
    (run.joinAborted plan reason).crash = some text ↔
      (plan.sink.emit run.sink (abortedRecord plan.settings run.joined reason)).1
        = .crashed text := by
  simp only [LoadRun.joinAborted]
  cases (plan.sink.emit run.sink (abortedRecord plan.settings run.joined reason)).1 with
  | ok | failed error => simp [hcrash]
  | crashed text' => simp

/-- A move ends a run only where it waits for a client that is gone. -/
theorem crash_step_iff (run : LoadRun σ) (move : Move) (text : String) :
    (run.step plan move).crash = some text ↔
      run.crash = some text ∨ (move = .join ∧ LosesAbort plan run text) := by
  cases hcrash : run.crash with
  | some text' => simp [crash_step_of_some plan run move hcrash, LosesAbort, hcrash]
  | none =>
    have hstep := stepped plan run move
    generalize run.step plan move = after at hstep ⊢
    cases hstep with
    | passed | bodyCrashed | sinkCrashed | emitted => simp [hcrash, LoadRun.setHandle]
    | waited hwaited =>
      rcases hwaited with hsome | hnone | hrunning
      · simp [hcrash] at hsome
      · simp [LosesAbort, hcrash, hnone]
      · simp [LosesAbort, hcrash, hrunning]
    | joinedDone summary _ hhandle => simp [LosesAbort, hcrash, hhandle]
    | joinedAborted reason _ hhandle =>
      rw [joinAborted_crash_eq_some_iff plan run reason text hcrash]
      simp [LosesAbort, hcrash, hhandle]

variable (s : σ)

/-- A run that cannot be started has ended, and every other one begins without a crash. -/
theorem crash_start_iff (text : String) :
    (LoadRun.start plan.settings s).crash = some text ↔ LostTo plan s [] text := by
  have hnone : ∀ before after : List Move, [] ≠ before ++ .join :: after := by simp
  unfold LoadRun.start LostTo
  split
  · next hle => simp [hnone, Nat.not_lt.mpr hle]
  · next hgreat => simp [hnone, Nat.lt_of_not_le hgreat, eq_comm]

/-- With one move more, a run is lost if it was so before or that move loses it. -/
theorem lostTo_append_iff (schedule : List Move) (move : Move) (text : String) :
    LostTo plan s (schedule ++ [move]) text ↔
      LostTo plan s schedule text ∨
        (move = .join ∧ LosesAbort plan ((LoadRun.start plan.settings s).play plan schedule) text) := by
  constructor
  · rintro (hgreat | ⟨before, after, hsplit, hlost⟩)
    · exact .inl (.inl hgreat)
    · -- The move that loses the run is the last one, or it stands before it.
      rcases append_singleton_cases hsplit with ⟨rfl, hmove, -⟩ | ⟨rest, -, rfl⟩
      · exact .inr ⟨hmove, hlost⟩
      · exact .inl (.inr ⟨before, rest, rfl, hlost⟩)
  · rintro ((hgreat | ⟨before, after, rfl, hlost⟩) | ⟨rfl, hlost⟩)
    · exact .inl hgreat
    · exact .inr ⟨before, after ++ [move], by simp, hlost⟩
    · exact .inr ⟨schedule, [], rfl, hlost⟩

/-- A run has ended with a text exactly where its schedule lost it to that text. -/
theorem crash_play_iff (schedule : List Move) (text : String) :
    ((LoadRun.start plan.settings s).play plan schedule).crash = some text ↔
      LostTo plan s schedule text := by
  induction schedule using List.reverseRecOn with
  | nil => exact crash_start_iff plan s text
  | append_singleton schedule move ih =>
    rw [play_append, lostTo_append_iff, ← ih]
    exact crash_step_iff plan _ move text

/-! ### What a summary is evidence of -/

variable {plan s}

/-- The sink has been called for a client that has been waited for, with its own record or with that
of its abort. -/
theorem exists_attempt_of_joined {run : LoadRun σ} {i : Nat} (h : Sound plan run)
    (hi : i < run.joined) :
    ∃ r ∈ attempts plan run i,
      plan.body i = .returned r ∨ ∃ reason, r = abortedRecord plan.settings i reason := by
  obtain ⟨summary, hhandle⟩ | ⟨reason, hhandle⟩ := h.handle_of_joined hi
  · obtain ⟨record, hbody, -⟩ := h.accounts i _ hhandle
    exact ⟨record, by simp [attempts, hhandle, hbody, ownRecord?], .inl hbody⟩
  · exact ⟨_, by simp [attempts, hhandle, hi], .inr ⟨reason, rfl⟩⟩

/-- A run that is complete has called the sink for every client, so a sink that crashes on some
record has had the occasion to. -/
theorem exists_call_of_isComplete {schedule : List Move}
    (hcomplete : ((LoadRun.start plan.settings s).play plan schedule).isComplete = true) {i : Nat}
    (hi : i < plan.settings.clients.toNat)
    (hbody : IsOutcome plan.settings i (plan.body i)) :
    ∃ r ∈ sinkCalls plan s schedule, IsAbout plan.settings i r := by
  obtain ⟨hsound, hjoined, hsize⟩ := joined_traced plan hcomplete
  have hperm := callsAreAttempts_play plan s schedule
  rw [CallsAreAttempts, hsize] at hperm
  rw [sinkCalls]
  obtain ⟨r, hr, hown⟩ := exists_attempt_of_joined hsound (hjoined.symm ▸ hi)
  refine ⟨r, hperm.mem_iff.mpr (List.mem_flatMap.mpr ⟨i, List.mem_range.mpr hi, hr⟩), ?_⟩
  obtain hown | ⟨reason, rfl⟩ := hown
  · exact hbody.isAbout hown
  · exact (isAborted_abortedRecord plan.settings i reason).1

/-- What becomes of a run, whatever its sink does. A summary counts every client, and the sink has
been called for each of them. A run has crashed exactly where there are too many clients or the sink
crashed on the record of an abort. And there is no third way: once the clients have finished and
been waited for, the run has come to its summary or has crashed. -/
theorem ended_of_any_sink (plan : RunPlan σ) (s : σ) (schedule : List Move)
    (hbodies : ∀ i < plan.settings.clients.toNat, IsOutcome plan.settings i (plan.body i)) :
    let n := plan.settings.clients.toNat
    let run := (LoadRun.start plan.settings s).play plan schedule
    let last := run.play plan (LoadRun.inOrder n)
    (∀ summary, run.result? = some summary →
      summary.clients = n ∧ ∀ i < n, ∃ r ∈ sinkCalls plan s schedule, IsAbout plan.settings i r) ∧
    (∀ text, run.crash = some text ↔ LostTo plan s schedule text) ∧
    (last.result?.isSome = true ↔ last.crash = none) := by
  intro n run last
  refine ⟨fun summary hresult => ?_, crash_play_iff plan s schedule,
    isSome_result?_play_inOrder_iff plan s schedule⟩
  obtain ⟨hcomplete, rfl⟩ := result?_eq_some_iff.mp hresult
  have hclients : run.summary.clients = run.joined := clients_summary_play plan s schedule
  exact ⟨hclients.trans (joined_of_isComplete plan hcomplete),
    fun i hi => exists_call_of_isComplete hcomplete hi (hbodies i hi)⟩

end Crash

/-! ### A sink that crashes -/

/-- Two clients that find nobody to talk to, and a sink that crashes at its first calls. -/
def stubbornPlan (crashes : Nat) : RunPlan Nat where
  settings := { LoadSettings.default with clients := 2 }
  sink := ⟨fun calls _ => (if calls < crashes then .crashed "full" else .ok, calls + 1)⟩
  body index := .ofClient (Client.run nobody { LoadSettings.default with clients := 2 } index ()).1
  label := toString

/-- A sink that crashes once costs a record, and not the summary: the general statement at a sink
that is in order again at its second call. -/
theorem ended_of_any_sink_crashOnce :
    let schedule : List Move := [.finish 1, .finish 0, .join, .join]
    let run := (LoadRun.start (stubbornPlan 1).settings 0).play (stubbornPlan 1) schedule
    (∀ i < 2, IsOutcome (stubbornPlan 1).settings i ((stubbornPlan 1).body i)) ∧
    ∃ summary, run.result? = some summary ∧ summary.clients = 2 ∧
      ∀ i < 2, ∃ r ∈ sinkCalls (stubbornPlan 1) 0 schedule, IsAbout (stubbornPlan 1).settings i r := by
  intro schedule run
  have hbodies : ∀ i < 2, IsOutcome (stubbornPlan 1).settings i ((stubbornPlan 1).body i) :=
    fun i _ => .talked nobody ()
  obtain ⟨hsummary, -, -⟩ := ended_of_any_sink (stubbornPlan 1) 0 schedule hbodies
  obtain ⟨summary, hresult⟩ : ∃ summary, run.result? = some summary :=
    Option.isSome_iff_exists.mp (by decide)
  obtain ⟨hclients, hcalls⟩ := hsummary summary hresult
  exact ⟨hbodies, summary, hresult, hclients, hcalls⟩

/-- A sink that crashes on the record of a client, and then on that of its abort, ends the run while
the other client is still talking. No summary comes of it any more. -/
theorem summary_lost :
    let schedule : List Move := [.finish 0, .join]
    (∀ i < 2, IsOutcome (stubbornPlan 2).settings i ((stubbornPlan 2).body i)) ∧
    ((LoadRun.start (stubbornPlan 2).settings 0).play (stubbornPlan 2) schedule).crash
      = some "full" ∧
    ∀ more, ((LoadRun.start (stubbornPlan 2).settings 0).play (stubbornPlan 2)
      (schedule ++ more)).result? = none := by
  intro schedule
  have hcrash : ((LoadRun.start (stubbornPlan 2).settings 0).play (stubbornPlan 2) schedule).crash
      = some "full" := by
    decide
  refine ⟨fun i _ => .talked nobody (), hcrash, fun more => ?_⟩
  rw [play_append]
  have hlast := crash_play_of_some (stubbornPlan 2) _ more hcrash
  simp [LoadRun.result?, LoadRun.isComplete, hlast]

end EchoBench.Proofs.Load
