import EchoBench.Proofs.Load.Crash
import EchoBench.Proofs.Load.Printed
import EchoBench.Proofs.Sink.Poisoning

/-!
# `EchoBench.Proofs.Load.Containment`: a writer that crashes costs one record

The writer of a sink of lines may crash in any of its calls. The client that made the call is gone
then, and the run hands over a record of the abort in its place. That second call is not caught. If
it crashed as well, the run would end without a summary. It does not, because the first crash has
left the sink unusable: every later call is refused before it comes to the writer.

`Contained` says what holds in every moment of a run whose clients all leave records. A client is
gone only after a call with its own record crashed, and the record of its abort comes after that
call. A call that finds the sink usable is the first for its client. `contained_step` keeps this for
every move, and `contained_play` for all schedules.

`crash_contained` is the summary of it. Such a run comes to its summary if it can keep account of
its clients, and in the summary either all clients are counted with their own records (`KeptAll`) or
all but one (`LostOne`). The bound on their number is no matter of the writer: a run with one client
more has crashed before anything is written (`overfull_lost`).
-/

set_option autoImplicit false

namespace EchoBench.Proofs.Load

open EchoBench.Config (LoadSettings)
open EchoBench.Load
open EchoBench.Proofs.Sink (CrashedOn GoesOn ReachesOnce ReachesWriter answers answers_cons
  crashedOn_append_iff emit_of_whole length_answers refused_of_crashed sinkAfter
  sinkAfter_append_length sinkAfter_zero writeAll_of_goesOn)
open EchoBench.Text (utf8)

/-! ### Runs over lines -/

/-- A plan with a sink of lines, whose clients all leave records. No client is aborted for a reason
of its own, so whoever is missing at the end was lost by the sink. -/
structure LeavesRecords (plan : RunPlan JsonLines) (record : Nat → TaskRecord) : Prop where
  sink : plan.sink = .jsonLines
  outcome : ∀ i < plan.settings.clients.toNat, IsOutcome plan.settings i (plan.body i)
  returned : ∀ i < plan.settings.clients.toNat, plan.body i = .returned (record i)

/-- A client is gone because the call with its record crashed. Once the run has waited for it, the
record of its abort has been handed over, in a later call. -/
def GoneByCrash (plan : RunPlan JsonLines) (record : Nat → TaskRecord) (s : JsonLines)
    (run : LoadRun (JsonLines × List TaskRecord)) (i : Nat) (reason : String) : Prop :=
  ∃ k text, CrashedOn s run.sink.2 k (record i) text ∧
    reason = abortReason (plan.label i) text ∧
    (i < run.joined → ∃ k' > k, run.sink.2[k']? = some (abortedRecord plan.settings i reason))

/-- What holds in every moment of a run over lines, whose sink was `s` when it began. -/
structure Contained (plan : RunPlan JsonLines) (record : Nat → TaskRecord) (s : JsonLines)
    (run : LoadRun (JsonLines × List TaskRecord)) : Prop where
  /-- The sink is as its calls have left it. -/
  sink_eq : run.sink.1 = sinkAfter s run.sink.2 run.sink.2.length
  /-- A run that has been started does not crash. -/
  crash_eq : run.crash = (LoadRun.start plan.settings s).crash
  gone : ∀ (i : Nat) (reason : String), run.handles[i]? = some (.aborted reason) →
    GoneByCrash plan record s run i reason
  /-- A call that crashed has cost a client. -/
  exists_gone : ∀ k r text, CrashedOn s run.sink.2 k r text →
    ∃ (i : Nat) (reason : String), run.handles[i]? = some (.aborted reason)
  reachesOnce : ReachesOnce s run.sink.2

section Runs

variable {plan : RunPlan JsonLines} {record : Nat → TaskRecord} {s : JsonLines}
  {run after : LoadRun (JsonLines × List TaskRecord)}

/-- The record that a client leaves names that client, so records of different clients differ. -/
theorem LeavesRecords.isAbout (hplan : LeavesRecords plan record) {i : Nat}
    (hi : i < plan.settings.clients.toNat) : IsAbout plan.settings i (record i) :=
  (hplan.outcome i hi).isAbout (hplan.returned i hi)

/-- There is only one record that a client can leave, whatever the schedule is. -/
theorem LeavesRecords.record_eq (hplan : LeavesRecords plan record) {i : Nat} {own : TaskRecord}
    (hi : i < plan.settings.clients.toNat) (hbody : plan.body i = .returned own) :
    record i = own :=
  Body.returned.inj ((hplan.returned i hi).symm.trans hbody)

/-- A call of the sink is noted, and answered by the lines as it would have been without the note.
So what is known of a sink of lines can be used for a run with its calls noted. -/
theorem LeavesRecords.emit_traced (hplan : LeavesRecords plan record)
    (t : JsonLines × List TaskRecord) (r : TaskRecord) :
    (traced plan).sink.emit t r = ((t.1.emit r).1, (t.1.emit r).2, t.2 ++ [r]) := by
  show plan.sink.traced.emit t r = _
  rw [hplan.sink]
  rfl

/-- Every call has had a record of a client that is not running any more. -/
theorem LeavesRecords.exists_isAbout_of_mem (hplan : LeavesRecords plan record)
    (hsize : run.handles.size ≤ plan.settings.clients.toNat) (hcalls : CallsAreAttempts plan run)
    {r : TaskRecord} (hr : r ∈ run.sink.2) :
    ∃ i < run.handles.size, run.handles[i]? ≠ some .running ∧ IsAbout plan.settings i r := by
  obtain ⟨i, hi, hattempt⟩ := List.mem_flatMap.mp (hcalls.mem_iff.mp hr)
  have hi : i < run.handles.size := List.mem_range.mp hi
  obtain ⟨hdone, hbody | ⟨reason, rfl⟩⟩ := mem_attempts (traced plan) hattempt
  · exact ⟨i, hi, hdone, (hplan.outcome i (Nat.lt_of_lt_of_le hi hsize)).isAbout hbody⟩
  · exact ⟨i, hi, hdone, (isAborted_abortedRecord plan.settings i reason).1⟩

/-- A call more leaves a client gone, as long as the run has not come to wait for it just now. -/
theorem GoneByCrash.append {i : Nat} {reason : String} {next : TaskRecord}
    (h : GoneByCrash plan record s run i reason) (hcalls : after.sink.2 = run.sink.2 ++ [next])
    (hjoined : i < after.joined → i < run.joined) : GoneByCrash plan record s after i reason := by
  obtain ⟨k, text, hcrashed, hreason, hwaited⟩ := h
  refine ⟨k, text, hcalls ▸ hcrashed.append next, hreason, fun hi => ?_⟩
  obtain ⟨k', hk', habort⟩ := hwaited (hjoined hi)
  refine ⟨k', hk', ?_⟩
  rw [hcalls, List.getElem?_append_left (List.getElem?_eq_some_iff.mp habort).1, habort]

/-- A client that has been running finishes with a call of the sink. It is gone exactly if that call
crashed. -/
theorem Contained.finish {index : Nat} {handle : Handle} (h : Contained plan record s run)
    (hplan : LeavesRecords plan record) (hsound : Sound (traced plan) run)
    (hsize : run.handles.size ≤ plan.settings.clients.toNat) (hcalls : CallsAreAttempts plan run)
    (hrunning : run.handles[index]? = some .running)
    (hhandles : after.handles = run.handles.setIfInBounds index handle)
    (hjoined : after.joined = run.joined) (hcrash : after.crash = run.crash)
    (hsink : after.sink = ((run.sink.1.emit (record index)).2, run.sink.2 ++ [record index]))
    (hhandle : ∀ reason, handle = .aborted reason ↔ ∃ text,
      (run.sink.1.emit (record index)).1 = .crashed text ∧
        reason = abortReason (plan.label index) text) :
    Contained plan record s after := by
  obtain ⟨hlt, -⟩ := Array.getElem?_eq_some_iff.mp hrunning
  have hnew : after.handles[index]? = some handle := by
    rw [hhandles, Array.getElem?_setIfInBounds_self_of_lt hlt]
  have hold : ∀ i, i ≠ index → after.handles[i]? = run.handles[i]? := by
    intro i hi
    rw [hhandles, Array.getElem?_setIfInBounds_ne (Ne.symm hi)]
  have hcalls' : after.sink.2 = run.sink.2 ++ [record index] := by rw [hsink]
  have hnotJoined : ¬ index < after.joined := fun hi =>
    hsound.not_running index (hjoined ▸ hi) hrunning
  refine {
    sink_eq := by rw [hsink, sinkAfter_append_length, ← h.sink_eq]
    crash_eq := hcrash.trans h.crash_eq
    gone := ?_
    exists_gone := ?_
    reachesOnce := ?_ }
  · intro i reason hgone
    by_cases hi : i = index
    · -- The client is gone just now, by the call that it made.
      subst hi
      rw [hnew] at hgone
      obtain ⟨text, hemit, hreason⟩ := (hhandle reason).mp (Option.some.inj hgone)
      rw [h.sink_eq] at hemit
      refine ⟨run.sink.2.length, text, ?_, hreason, fun hwaited => absurd hwaited hnotJoined⟩
      rw [hcalls']
      exact crashedOn_append_iff.mpr (.inr ⟨rfl, rfl, hemit⟩)
    · rw [hold i hi] at hgone
      exact (h.gone i reason hgone).append hcalls' (hjoined ▸ id)
  · intro k r text hcrashed
    rw [hcalls'] at hcrashed
    obtain hbefore | ⟨-, -, hemit⟩ := crashedOn_append_iff.mp hcrashed
    · obtain ⟨i, reason, hgone⟩ := h.exists_gone k r text hbefore
      have hi : i ≠ index := by
        rintro rfl
        simp [hrunning] at hgone
      exact ⟨i, reason, (hold i hi).trans hgone⟩
    · rw [← h.sink_eq] at hemit
      have haborted := (hhandle _).mpr ⟨text, hemit, rfl⟩
      exact ⟨index, _, haborted ▸ hnew⟩
  · rw [hcalls']
    refine h.reachesOnce.append fun _ r hr hname => ?_
    -- Whoever made an earlier call is not running, and so has another name.
    obtain ⟨i, -, hdone, habout⟩ := hplan.exists_isAbout_of_mem hsize hcalls hr
    have hrecord := hplan.isAbout (Nat.lt_of_lt_of_le hlt hsize)
    have hi : i = index := (taskId_eq_iff.mp (habout.1.symm.trans (hname.trans hrecord.1))).2
    exact hdone (hi ▸ hrunning)

/-- The run hands over the record of a client that is gone. The sink has been left unusable, and
refuses it. -/
theorem Contained.joinAborted {reason : String} (h : Contained plan record s run)
    (hplan : LeavesRecords plan record)
    (hgone : run.handles[run.joined]? = some (.aborted reason)) :
    Contained plan record s (run.joinAborted (traced plan) reason) := by
  obtain ⟨k, text, hcrashed, hreason, -⟩ := h.gone _ _ hgone
  -- The client is gone because its own call crashed, so by now the sink refuses every call.
  have hpoisoned : run.sink.1.poisoned = true := by rw [h.sink_eq, hcrashed.poisoned]
  have hrefused : run.sink.1.emit (abortedRecord plan.settings run.joined reason)
      = (.failed JsonLines.poisonedError, run.sink.1) := by
    simp [JsonLines.emit, hpoisoned]
  have hemit := hplan.emit_traced run.sink (abortedRecord plan.settings run.joined reason)
  rw [hrefused] at hemit
  have hcalls : (run.joinAborted (traced plan) reason).sink.2
      = run.sink.2 ++ [abortedRecord plan.settings run.joined reason] := by
    rw [joinAborted_sink]
    exact congrArg (fun p => p.2.2) hemit
  refine { sink_eq := ?_, crash_eq := ?_, gone := ?_, exists_gone := ?_, reachesOnce := ?_ }
  · rw [hcalls, sinkAfter_append_length, ← h.sink_eq, hrefused, joinAborted_sink]
    exact congrArg (fun p => p.2.1) hemit
  · -- A refusal is no crash, and the run goes on.
    rw [← h.crash_eq]
    refine joinAborted_crash (traced plan) run reason fun text' hcrash => ?_
    rw [show (traced plan).settings = plan.settings from rfl, hemit] at hcrash
    cases hcrash
  · intro i reason' hi
    rw [joinAborted_handles] at hi
    by_cases hjoined : i = run.joined
    · -- The call of just now is the later one that this client has.
      subst hjoined
      obtain rfl : reason = reason' := by simpa [hgone] using hi
      refine ⟨k, text, hcalls ▸ hcrashed.append _, hreason, fun _ => ?_⟩
      refine ⟨run.sink.2.length, hcrashed.lt_length, ?_⟩
      rw [hcalls, List.getElem?_concat_length]
    · -- Any other client has the call of its abort behind it or still to come, as before.
      refine (h.gone i reason' hi).append hcalls fun hlt => ?_
      rw [joinAborted_joined] at hlt
      omega
  · intro k' r text' hcrash
    rw [hcalls] at hcrash
    rw [joinAborted_handles]
    exact ⟨_, reason, hgone⟩
  · rw [hcalls]
    -- The new call reaches nothing, so it cannot be a second one that does.
    refine h.reachesOnce.append fun hopen => ?_
    rw [← h.sink_eq, hpoisoned] at hopen
    cases hopen

/-- Every move keeps the account of what the crash of the writer has done. Only a move that calls
the sink can change it: a client that finishes hands over its own record, a client that is waited
for and gone hands over that of its abort, and both are settled before this. -/
theorem contained_step (hplan : LeavesRecords plan record) (move : Move)
    (hsound : Sound (traced plan) run) (hsize : run.handles.size ≤ plan.settings.clients.toNat)
    (hcalls : CallsAreAttempts plan run) (h : Contained plan record s run) :
    Contained plan record s (run.step (traced plan) move) := by
  have hstep := stepped (traced plan) run move
  generalize run.step (traced plan) move = after at hstep ⊢
  cases hstep with
  | passed | waited => exact h
  | bodyCrashed index text hrunning hbody =>
    -- No client crashes by itself.
    obtain ⟨hlt, -⟩ := Array.getElem?_eq_some_iff.mp hrunning
    have hreturned := hplan.returned index (Nat.lt_of_lt_of_le hlt hsize)
    cases hreturned.symm.trans hbody
  | sinkCrashed index own text sink hrunning hbody hemit =>
    obtain ⟨hlt, -⟩ := Array.getElem?_eq_some_iff.mp hrunning
    obtain rfl := hplan.record_eq (Nat.lt_of_lt_of_le hlt hsize) hbody
    rw [hplan.emit_traced] at hemit
    obtain ⟨hcrashed, rfl⟩ := Prod.mk.inj hemit
    refine h.finish hplan hsound hsize hcalls hrunning rfl rfl rfl rfl fun reason => ?_
    rw [hcrashed]
    constructor
    · rintro ⟨⟩
      exact ⟨text, rfl, rfl⟩
    · rintro ⟨text', ⟨⟩, rfl⟩
      rfl
  | emitted index own outcome sink hrunning hbody hemit houtcome =>
    obtain ⟨hlt, -⟩ := Array.getElem?_eq_some_iff.mp hrunning
    obtain rfl := hplan.record_eq (Nat.lt_of_lt_of_le hlt hsize) hbody
    rw [hplan.emit_traced] at hemit
    obtain ⟨rfl, rfl⟩ := Prod.mk.inj hemit
    refine h.finish hplan hsound hsize hcalls hrunning rfl rfl rfl rfl fun reason => ?_
    constructor
    · rintro ⟨⟩
    · rintro ⟨text, hcrashed, -⟩
      exact absurd hcrashed (houtcome text)
  | joinedDone summary hcrash hhandle =>
    refine ⟨h.sink_eq, h.crash_eq, fun i reason hgone => ?_, h.exists_gone, h.reachesOnce⟩
    obtain ⟨k, text, hcrashed, hreason, hwaited⟩ := h.gone i reason hgone
    refine ⟨k, text, hcrashed, hreason, fun hi => hwaited ?_⟩
    -- The client that is waited for now is done, and not gone.
    have hne : i ≠ run.joined := by
      rintro rfl
      cases hgone.symm.trans hhandle
    have hi : i < run.joined + 1 := hi
    omega
  | joinedAborted reason _ hgone => exact h.joinAborted hplan hgone

/-- Before the first move nobody is gone, and the sink has not been called. -/
theorem contained_start (plan : RunPlan JsonLines) (record : Nat → TaskRecord) (s : JsonLines) :
    Contained plan record s (LoadRun.start plan.settings (s, [])) := by
  have hsink : (LoadRun.start plan.settings (s, ([] : List TaskRecord))).sink = (s, []) := by
    unfold LoadRun.start
    split <;> rfl
  refine {
    sink_eq := by rw [hsink, List.length_nil, sinkAfter_zero]
    crash_eq := congrArg LoadRun.crash (untraced_start plan.settings s)
    gone := ?_
    exists_gone := ?_
    reachesOnce := ?_ }
  · -- At the start nobody has been answered, so nobody is gone.
    intro i reason hgone
    have hstands := @handlesStand_start _ (traced plan) (s, []) i _ hgone
    exact absurd hstands.1 List.not_mem_nil
  · intro k r text hcrashed
    rw [hsink] at hcrashed
    exact absurd hcrashed.lt_length (Nat.not_lt_zero k)
  · intro j k r r' _ hj
    rw [hsink] at hj
    cases hj

/-- A run has no more handles than clients, and none at all if it crashed at its start. -/
theorem size_handles_traced_le (plan : RunPlan JsonLines) (s : JsonLines) (schedule : List Move) :
    ((LoadRun.start plan.settings (s, [])).play (traced plan) schedule).handles.size
      ≤ plan.settings.clients.toNat := by
  rw [size_handles_play]
  unfold LoadRun.start
  split <;> simp

/-- After every schedule a crash of the writer has been contained, by induction on its moves from
the start, where nothing has been called. -/
theorem contained_play (hplan : LeavesRecords plan record) (s : JsonLines)
    (schedule : List Move) :
    Contained plan record s
      ((LoadRun.start plan.settings (s, [])).play (traced plan) schedule) := by
  induction schedule using List.reverseRecOn with
  | nil => exact contained_start plan record s
  | append_singleton schedule move ih =>
    rw [play_append]
    exact contained_step hplan move (sound_play (traced plan) (s, []) schedule)
      (size_handles_traced_le plan s schedule) (callsAreAttempts_play plan s schedule) ih

end Runs

/-! ### What becomes of a run -/

/-- No call of the sink crashed. It has been called with the records of the clients, which make up
the summary. -/
structure KeptAll (s : JsonLines) (calls own : List TaskRecord) (summary : LoadSummary) : Prop where
  perm : calls.Perm own
  answered : ∀ text, .crashed text ∉ answers s calls
  summary_eq : summary = own.foldl .observe .empty

/-- The call with the record of one client crashed, and left a text. The sink has been called with
the records of all clients and, in a later call that was refused, with the record of an abort. In
the summary that record stands in the place of the client's own. -/
structure LostOne (plan : RunPlan JsonLines) (record : Nat → TaskRecord) (s : JsonLines)
    (calls : List TaskRecord) (i : Nat) (gone : TaskRecord) (summary : LoadSummary) : Prop where
  crashed : ∃ k text, CrashedOn s calls k (record i) text ∧
    gone = abortedRecord plan.settings i (abortReason (plan.label i) text) ∧
    ∃ k' > k, calls[k']? = some gone ∧
      (answers s calls)[k']? = some (.failed JsonLines.poisonedError)
  perm : calls.Perm ((List.range plan.settings.clients.toNat).map record ++ [gone])
  summary_eq : summary = ((List.range plan.settings.clients.toNat).map fun j =>
    if j = i then gone else record j).foldl .observe .empty

/-- The record of the abort of a client, if the client is gone. A summary that lost a client is that
of the records which were kept, with this one in the place of its own. -/
def goneRecord? (settings : LoadSettings) (handles : Array Handle) (i : Nat) : Option TaskRecord :=
  match handles[i]? with
  | some (.aborted reason) => some (abortedRecord settings i reason)
  | _ => none

/-- Of the numbers below a bound, one is picked. It says that the clients whose handle is gone are
exactly the one that met the crash. -/
theorem filterMap_range_ite {α : Type} {a : α} {n i : Nat} (hi : i < n) :
    (List.range n).filterMap (fun j => if j = i then some a else none) = [a] := by
  induction n with
  | zero => cases hi
  | succ n ih =>
    rw [List.range_succ, List.filterMap_append]
    rcases Nat.lt_succ_iff_lt_or_eq.mp hi with hlt | rfl
    · rw [ih hlt]
      simp [Nat.ne_of_gt hlt]
    · have hnone : ∀ j ∈ List.range i, (if j = i then some a else none) = none := by
        intro j hj
        rw [if_neg (Nat.ne_of_lt (List.mem_range.mp hj))]
      rw [List.filterMap_eq_nil_iff.mpr hnone]
      simp

section Summaries

variable {plan : RunPlan JsonLines} {record : Nat → TaskRecord} {s : JsonLines}
  {schedule : List Move}

/-- A run of such a plan crashes only where it could not be started. -/
theorem LeavesRecords.crash_play (hplan : LeavesRecords plan record) (s : JsonLines)
    (schedule : List Move) :
    ((LoadRun.start plan.settings s).play plan schedule).crash
      = (LoadRun.start plan.settings s).crash := by
  rw [← untraced_play_start]
  exact (contained_play hplan s schedule).crash_eq

/-- Only one client of a run can be gone. It is gone because its call crashed, and no two calls
crash, since the first one leaves the sink unusable. -/
theorem Contained.gone_unique {run : LoadRun (JsonLines × List TaskRecord)}
    (h : Contained plan record s run) (hplan : LeavesRecords plan record)
    (hsize : run.handles.size ≤ plan.settings.clients.toNat) {i j : Nat} {reason reason' : String}
    (hi : run.handles[i]? = some (.aborted reason))
    (hj : run.handles[j]? = some (.aborted reason')) : i = j := by
  obtain ⟨k, text, hcrashed, -⟩ := h.gone i reason hi
  obtain ⟨k', text', hcrashed', -⟩ := h.gone j reason' hj
  obtain rfl : k = k' := hcrashed.unique hcrashed'
  have hrecord : record i = record j := Option.some.inj (hcrashed.1.symm.trans hcrashed'.1)
  have habout : ∀ l reason, run.handles[l]? = some (.aborted reason) →
      (record l).taskId = taskId plan.settings.clientId l := by
    intro l reason hl
    obtain ⟨hlt, -⟩ := Array.getElem?_eq_some_iff.mp hl
    exact (hplan.isAbout (Nat.lt_of_lt_of_le hlt hsize)).1
  have hname := habout i reason hi
  rw [hrecord, habout j reason' hj] at hname
  exact (taskId_eq_iff.mp hname.symm).2

/-- A run with the calls of its sink noted knows the same of its clients. -/
theorem handles_traced_play (plan : RunPlan JsonLines) (s : JsonLines) (schedule : List Move) :
    ((LoadRun.start plan.settings (s, [])).play (traced plan) schedule).handles
      = ((LoadRun.start plan.settings s).play plan schedule).handles :=
  congrArg LoadRun.handles (untraced_play_start plan s schedule)

/-- A client that has been waited for has called the sink with its own record, and the run has done
so with that of its abort if the client is gone. -/
theorem LeavesRecords.attempts_of_joined (hplan : LeavesRecords plan record)
    {run : LoadRun (JsonLines × List TaskRecord)} (hsound : Sound (traced plan) run) {i : Nat}
    (hi : i < run.joined) (hlt : i < plan.settings.clients.toNat) :
    attempts (traced plan) run i
      = record i :: (goneRecord? plan.settings run.handles i).toList := by
  have hbody : (traced plan).body i = .returned (record i) := hplan.returned i hlt
  unfold attempts goneRecord?
  obtain ⟨summary, hhandle⟩ | ⟨reason, hhandle⟩ := hsound.handle_of_joined hi
  · simp [hhandle, hbody, ownRecord?]
  · simp only [hhandle, hbody, ownRecord?, hi, if_true]
    rfl

/-- A client that has been waited for is counted as with its own record, unless it is gone. -/
theorem LeavesRecords.observe_countedRecord (hplan : LeavesRecords plan record) {i : Nat}
    (hi : i < ((LoadRun.start plan.settings s).play plan schedule).joined)
    (hlt : i < plan.settings.clients.toNat) :
    LoadSummary.empty.observe (countedRecord plan s schedule i) = LoadSummary.empty.observe
      ((goneRecord? plan.settings ((LoadRun.start plan.settings s).play plan schedule).handles i).getD
        (record i)) := by
  have hsound := sound_play plan s schedule
  have hstands := handlesStand_play plan s schedule
  unfold goneRecord?
  obtain ⟨summary, hhandle⟩ | ⟨reason, hhandle⟩ := hsound.handle_of_joined hi
  · -- The client has left a summary of the one record, and it is the one that is counted.
    obtain ⟨-, hcounted⟩ := hstands i _ hhandle
    obtain ⟨own, hbody, hown⟩ := hsound.accounts i _ hhandle
    obtain rfl := hplan.record_eq hlt hbody
    rw [hhandle, ← hcounted, hown]
    rfl
  · obtain ⟨-, hcounted⟩ := hstands i _ hhandle
    rw [hhandle, hcounted]
    rfl

/-- At its summary a run has called the sink with the record of each client, and with that of each
abort. -/
theorem LeavesRecords.perm_sinkCalls (hplan : LeavesRecords plan record)
    (hcomplete : ((LoadRun.start plan.settings s).play plan schedule).isComplete = true) :
    (sinkCalls plan s schedule).Perm
      ((List.range plan.settings.clients.toNat).map record ++
        (List.range plan.settings.clients.toNat).filterMap (goneRecord? plan.settings
          ((LoadRun.start plan.settings s).play plan schedule).handles)) := by
  obtain ⟨hsound, hjoined, hsize⟩ := joined_traced plan hcomplete
  have hperm := callsAreAttempts_play plan s schedule
  rw [CallsAreAttempts, hsize] at hperm
  rw [sinkCalls, ← handles_traced_play]
  generalize (LoadRun.start plan.settings (s, [])).play (traced plan) schedule = run at *
  -- Every client has made its own call, and one that is gone has a second one made for it.
  have hattempts : ∀ i ∈ List.range plan.settings.clients.toNat, attempts (traced plan) run i
      = [record i] ++ (goneRecord? plan.settings run.handles i).toList := by
    intro i hi
    have hlt := List.mem_range.mp hi
    exact hplan.attempts_of_joined hsound (hjoined.symm ▸ hlt) hlt
  refine hperm.trans ?_
  rw [List.flatMap_def, List.map_congr_left hattempts, ← List.flatMap_def,
    List.map_eq_flatMap, List.filterMap_eq_flatMap_toList]
  exact (List.flatMap_append_perm _ _ _).symm

/-- The summary of a run is that of the records of its clients, with that of the abort in the place
of the own one where a client is gone. -/
theorem LeavesRecords.summary_eq (hplan : LeavesRecords plan record) {summary : LoadSummary}
    (hresult : ((LoadRun.start plan.settings s).play plan schedule).result? = some summary) :
    summary = ((List.range plan.settings.clients.toNat).map fun i =>
      (goneRecord? plan.settings ((LoadRun.start plan.settings s).play plan schedule).handles i).getD
        (record i)).foldl .observe .empty := by
  have hjoined := joined_of_isComplete plan (result?_eq_some_iff.mp hresult).1
  rw [eq_tally_of_result hresult]
  exact tally_eq_foldl fun i hi => hplan.observe_countedRecord (hjoined.symm ▸ hi) hi

/-- If nobody is gone, no call of the sink has crashed, since the client of the call that crashed
would be gone by then. -/
theorem Contained.answered {run : LoadRun (JsonLines × List TaskRecord)}
    (h : Contained plan record s run)
    (hnone : ∀ (i : Nat) (reason : String), run.handles[i]? ≠ some (.aborted reason))
    (text : String) : .crashed text ∉ answers s run.sink.2 := by
  intro hcrashed
  obtain ⟨k, hk⟩ := List.mem_iff_getElem?.mp hcrashed
  have hlt : k < (answers s run.sink.2).length := (List.getElem?_eq_some_iff.mp hk).1
  rw [length_answers] at hlt
  -- A call that crashed has cost a client.
  obtain ⟨i, reason, hgone⟩ := h.exists_gone k _ text ⟨List.getElem?_eq_getElem hlt, hk⟩
  exact hnone i reason hgone

/-- A client that is gone is the only one, so the record that the account names as gone is its
record. -/
theorem Contained.goneRecord?_eq {run : LoadRun (JsonLines × List TaskRecord)}
    (h : Contained plan record s run) (hplan : LeavesRecords plan record)
    (hsize : run.handles.size ≤ plan.settings.clients.toNat) {i : Nat} {reason : String}
    (hgone : run.handles[i]? = some (.aborted reason)) (j : Nat) :
    goneRecord? plan.settings run.handles j
      = if j = i then some (abortedRecord plan.settings i reason) else none := by
  unfold goneRecord?
  split
  · next reason' hgone' =>
    obtain rfl : j = i := h.gone_unique hplan hsize hgone' hgone
    obtain rfl : reason' = reason := by simpa [hgone] using hgone'.symm
    simp
  · next hnot =>
    have hne : j ≠ i := by
      rintro rfl
      exact hnot reason hgone
    simp [hne]

/-- At its summary a run has kept all clients or lost one. There is no third case, because a sink
that has crashed refuses every later call and cannot crash again. -/
theorem LeavesRecords.kept_or_lost (hplan : LeavesRecords plan record) {summary : LoadSummary}
    (hresult : ((LoadRun.start plan.settings s).play plan schedule).result? = some summary) :
    KeptAll s (sinkCalls plan s schedule)
        ((List.range plan.settings.clients.toNat).map record) summary ∨
      ∃ i < plan.settings.clients.toNat, ∃ gone,
        LostOne plan record s (sinkCalls plan s schedule) i gone summary := by
  have hcomplete := (result?_eq_some_iff.mp hresult).1
  obtain ⟨-, hjoined, hsize⟩ := joined_traced plan hcomplete
  have hcontained := contained_play hplan s schedule
  have hperm := hplan.perm_sinkCalls hcomplete
  have hsummary := hplan.summary_eq hresult
  rw [← handles_traced_play] at hperm hsummary
  rw [sinkCalls] at hperm ⊢
  generalize (LoadRun.start plan.settings (s, [])).play (traced plan) schedule = run at *
  by_cases hnone : ∀ (i : Nat) (reason : String), run.handles[i]? ≠ some (.aborted reason)
  · left
    have hkept : ∀ i, goneRecord? plan.settings run.handles i = none := by
      intro i
      unfold goneRecord?
      split
      · next reason hgone => exact absurd hgone (hnone i reason)
      · rfl
    refine { perm := ?_, answered := hcontained.answered hnone, summary_eq := ?_ }
    · rwa [List.filterMap_eq_nil_iff.mpr fun i _ => hkept i, List.append_nil] at hperm
    · simpa only [hkept, Option.getD_none] using hsummary
  · right
    simp only [not_forall, not_not] at hnone
    obtain ⟨i, reason, hgone⟩ := hnone
    have hi : i < plan.settings.clients.toNat := hsize ▸ (Array.getElem?_eq_some_iff.mp hgone).1
    have hrecord := hcontained.goneRecord?_eq hplan hsize.le hgone
    obtain ⟨k, text, hcrashed, rfl, hwaited⟩ := hcontained.gone i reason hgone
    -- The run has waited for this client, so the record of its abort has been refused by now.
    obtain ⟨k', hk', habort⟩ := hwaited (hjoined.symm ▸ hi)
    obtain ⟨hrefused, -⟩ := refused_of_crashed hcrashed.2 hk'
      (List.getElem?_eq_some_iff.mp habort).1
    refine ⟨i, hi, _, {
      crashed := ⟨k, text, hcrashed, rfl, k', hk', habort, hrefused⟩
      perm := ?_
      summary_eq := ?_ }⟩
    · rwa [funext hrecord, filterMap_range_ite hi] at hperm
    · rw [hsummary]
      congr 1
      refine List.map_congr_left fun j _ => ?_
      rw [hrecord j]
      split <;> rfl

/-- What becomes of a run whose clients all leave records, with a writer that keeps to any script,
be it one that crashes in any call. The run goes on, and comes to its summary once its clients have
finished and been waited for, if it can keep account of so many. In the summary all clients are
counted, all with their own records or all but the one on whose record the sink crashed. For each
client at most one call reaches the writer, and none does behind a call that crashed: those are
refused, and leave the sink as it was. -/
theorem crash_contained {plan : RunPlan JsonLines} {record : Nat → TaskRecord}
    (writes : List Writer.WriteAnswer) (flushes : List Writer.FlushAnswer)
    (hsink : plan.sink = .jsonLines)
    (hbodies : ∀ i < plan.settings.clients.toNat, IsOutcome plan.settings i (plan.body i))
    (hreturned : ∀ i < plan.settings.clients.toNat, plan.body i = .returned (record i))
    (schedule : List Move) :
    let n := plan.settings.clients.toNat
    let s := JsonLines.start (.scripted writes flushes)
    let run := (LoadRun.start plan.settings s).play plan schedule
    let calls := sinkCalls plan s schedule
    (run.crash = none ↔ n ≤ greatestClients) ∧
    ((run.play plan (LoadRun.inOrder n)).result?.isSome = true ↔ n ≤ greatestClients) ∧
    (∀ summary, run.result? = some summary → summary.clients = n ∧
      (KeptAll s calls ((List.range n).map record) summary ∨
        ∃ i < n, ∃ gone, LostOne plan record s calls i gone summary)) ∧
    run.sink = sinkAfter s calls calls.length ∧
    (∀ r ∈ calls, ∃ i < n, IsAbout plan.settings i r) ∧
    (∀ i j k r r', calls[j]? = some r → IsAbout plan.settings i r → ReachesWriter s calls j →
      calls[k]? = some r' → IsAbout plan.settings i r' → ReachesWriter s calls k → j = k) ∧
    ∀ j k text, (answers s calls)[j]? = some (.crashed text) → j < k → k < calls.length →
      ¬ ReachesWriter s calls k ∧
      (answers s calls)[k]? = some (.failed JsonLines.poisonedError) ∧
      sinkAfter s calls (k + 1) = sinkAfter s calls k := by
  intro n s run calls
  have hplan : LeavesRecords plan record := ⟨hsink, hbodies, hreturned⟩
  have hcontained := contained_play hplan s schedule
  have hcrash : run.crash = none ↔ n ≤ greatestClients := by
    rw [hplan.crash_play, LoadRun.start_crash_eq_none_iff]
  refine ⟨hcrash, ?_, fun summary hresult => ⟨?_, hplan.kept_or_lost hresult⟩, ?_, ?_, ?_, ?_⟩
  · refine (isSome_result?_play_inOrder_iff plan s schedule).trans ?_
    rw [← play_append, hplan.crash_play, LoadRun.start_crash_eq_none_iff]
  · obtain ⟨hcomplete, rfl⟩ := result?_eq_some_iff.mp hresult
    exact (clients_summary_play plan s schedule).trans (joined_of_isComplete plan hcomplete)
  · have hsame := congrArg LoadRun.sink (untraced_play_start plan s schedule)
    exact hsame.symm.trans hcontained.sink_eq
  · intro r hr
    have hsize := size_handles_traced_le plan s schedule
    obtain ⟨i, hi, -, habout⟩ :=
      hplan.exists_isAbout_of_mem hsize (callsAreAttempts_play plan s schedule) hr
    exact ⟨i, Nat.lt_of_lt_of_le hi hsize, habout⟩
  · intro i j k r r' hj habout hreaches hk habout' hreaches'
    have hname : r.taskId = r'.taskId := habout.1.trans habout'.1.symm
    -- The later of two calls would not have reached the writer.
    rcases Nat.lt_trichotomy j k with hlt | heq | hgt
    · exact absurd hname (hcontained.reachesOnce j k r r' hlt hj hk hreaches')
    · exact heq
    · exact absurd hname.symm (hcontained.reachesOnce k j r' r hgt hk hj hreaches)
  · intro j k text hcrashed hjk hk
    obtain ⟨hrefused, hsame⟩ := refused_of_crashed hcrashed hjk hk
    refine ⟨?_, hrefused, hsame⟩
    rw [ReachesWriter, hsame]
    exact Nat.lt_irrefl _

end Summaries

/-- The second client of `pairPlan` finishes first, and the writer, which has taken its line in
pieces, crashes when it is to pass the line on. One of the two clients is lost, and both are
counted. -/
theorem crash_contained_pair :
    let s := JsonLines.start (.scripted [.upTo 5] [.crashes "full"])
    let schedule : List Move := [.finish 1] ++ LoadRun.inOrder 2
    let run := (LoadRun.start pairSettings s).play pairPlan schedule
    pairPlan.sink = .jsonLines ∧
    (∀ i < 2, IsOutcome pairSettings i (pairPlan.body i) ∧
      pairPlan.body i = .returned (pairClient i).record) ∧
    ∃ summary, run.result? = some summary ∧ summary.clients = 2 ∧
      ∃ i < 2, ∃ gone, LostOne pairPlan (fun i => (pairClient i).record) s
        (sinkCalls pairPlan s schedule) i gone summary := by
  intro s schedule run
  have hclients : ∀ i < 2, IsOutcome pairSettings i (pairPlan.body i) ∧
      pairPlan.body i = .returned (pairClient i).record := by
    intro i hi
    obtain rfl | rfl : i = 0 ∨ i = 1 := by omega
    · exact ⟨.talked obliging (), by rfl⟩
    · exact ⟨.talked nobody (), by rfl⟩
  have hcontained := @crash_contained pairPlan (fun i => (pairClient i).record) [.upTo 5]
    [.crashes "full"] rfl (fun i hi => (hclients i hi).1) (fun i hi => (hclients i hi).2)
  obtain ⟨-, hended, -⟩ := hcontained [.finish 1]
  rw [← play_append] at hended
  obtain ⟨summary, hresult⟩ : ∃ summary, run.result? = some summary :=
    Option.isSome_iff_exists.mp (hended.mpr (by decide))
  obtain ⟨-, -, hkept, -⟩ := hcontained schedule
  obtain ⟨hsum, hcases⟩ := hkept summary hresult
  refine ⟨rfl, hclients, summary, hresult, hsum, hcases.resolve_left fun h => ?_⟩
  -- Whatever record comes first, the writer crashes on it.
  obtain ⟨r, rest, hcalls⟩ : ∃ r rest, sinkCalls pairPlan s schedule = r :: rest :=
    List.exists_cons_of_length_pos (by rw [h.perm.length_eq]; decide)
  have hwrite : ∀ bytes, s.writer.write bytes = (.done, (s.writer.write bytes).2) := by
    intro bytes
    exact Prod.ext (writeAll_of_goesOn [.upTo 5] bytes.length (by simp [GoesOn])).1 rfl
  have hflush : ∀ bytes, (s.writer.write bytes).2.flush
      = (.crashed "full", (s.writer.write bytes).2.flush.2) := by
    intro bytes
    rfl
  have hfirst : (s.emit r).1 = .crashed "full" := by
    rw [emit_of_whole s r rfl (hwrite _) (hflush _)]
    rfl
  refine h.answered "full" ?_
  rw [hcalls, answers_cons, hfirst]
  exact List.mem_cons_self

/-- One client more than a run can keep account of, all of which find nobody to talk to. -/
def overfullPlan : RunPlan JsonLines where
  settings := { LoadSettings.default with clients := 576460752303423488 }
  sink := .jsonLines
  body index := .ofClient
    (Client.run nobody { LoadSettings.default with clients := 576460752303423488 } index ()).1
  label := toString

/-- A run with one client too many has crashed before its first move, whatever its writer would do.
All its clients would leave records, and no schedule brings it to a summary. -/
theorem overfull_lost :
    let n := overfullPlan.settings.clients.toNat
    overfullPlan.sink = .jsonLines ∧
    (∀ i < n, IsOutcome overfullPlan.settings i (overfullPlan.body i) ∧
      ∃ r, overfullPlan.body i = .returned r) ∧
    ∀ writes flushes schedule,
      let run := (LoadRun.start overfullPlan.settings (.start (.scripted writes flushes))).play
        overfullPlan schedule
      run.crash = some "capacity overflow" ∧ run.result? = none := by
  intro n
  refine ⟨rfl, fun i _ => ⟨.talked nobody (), _, rfl⟩, fun writes flushes schedule => ?_⟩
  intro run
  have hgreat : greatestClients < overfullPlan.settings.clients.toNat := by decide
  have hcrash : run.crash = some "capacity overflow" :=
    (crash_play_iff overfullPlan _ schedule _).mpr (.inl ⟨hgreat, rfl⟩)
  exact ⟨hcrash, by simp [LoadRun.result?, LoadRun.isComplete, hcrash]⟩

end EchoBench.Proofs.Load
