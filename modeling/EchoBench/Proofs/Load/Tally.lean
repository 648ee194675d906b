import EchoBench.Proofs.History
import EchoBench.Proofs.Load.Schedule
import EchoBench.Proofs.SignedZero

/-!
# `EchoBench.Proofs.Load.Tally`: what a run counts

Every client of a run is counted once, with one record (`countedRecord`): its own, unless the client
or its call of the sink crashed, and else the record of its abort. A run comes to its summary in
another way than by taking these records one after the other. A client that is done leaves a summary
of its own, which is merged, and only the record of an abort is observed directly. `summary_play`
says that this makes no difference: after every schedule, the summary is that of the records of the
clients that have been waited for, in the order of their numbers.

The counts are sums of whole numbers. The sum of times is one of floats, which may not be
reassociated; but a summary of one record adds its time to the positive zero and no more, and that
changes no sum that begins with the positive zero itself (`merge_observe_empty`).
-/

set_option autoImplicit false

namespace EchoBench.Proofs.Load

open EchoBench.Config (LoadSettings)
open EchoBench.Load

/-! ### Summaries of records -/

section Summaries

variable {t : LoadSummary}

/-- A sum of times that is not the negative zero does not become it. -/
theorem latencySum_observe_ne (h : t.latencySum ≠ -0.0) (r : TaskRecord) :
    (t.observe r).latencySum ≠ -0.0 := by
  simp only [LoadSummary.observe]
  split
  · exact fun hsum => h (eq_negZero_of_add hsum).1
  · exact h

/-- The sum of times begins with the positive zero, so it is never the negative one. -/
theorem latencySum_foldl_observe_ne (records : List TaskRecord) (h : t.latencySum ≠ -0.0) :
    (records.foldl LoadSummary.observe t).latencySum ≠ -0.0 := by
  induction records generalizing t with
  | nil => exact h
  | cons r records ih => exact ih (latencySum_observe_ne h r)

/-- To merge the summary of one record is to observe the record, if the sum so far is not the
negative zero. Adding to an empty sum first would turn a negative zero into the positive one, and
nothing else. -/
theorem merge_observe_empty (h : t.latencySum ≠ -0.0) (r : TaskRecord) :
    t.merge (LoadSummary.empty.observe r) = t.observe r := by
  by_cases hanswered : 0 < r.received
  · simp [LoadSummary.merge, LoadSummary.observe, LoadSummary.empty, hanswered, add_zero_add h]
  · simp [LoadSummary.merge, LoadSummary.observe, LoadSummary.empty, hanswered, add_zero_of_ne h]

/-- Two records that make the same summary by themselves are counted alike, in front of whatever has
been counted before. -/
theorem observe_congr (h : t.latencySum ≠ -0.0) {r r' : TaskRecord}
    (hsame : LoadSummary.empty.observe r = LoadSummary.empty.observe r') :
    t.observe r = t.observe r' := by
  rw [← merge_observe_empty h r, hsame, merge_observe_empty h r']

end Summaries

/-! ### The record with which a client is counted -/

section Counted

variable {σ : Type} (plan : RunPlan σ) (s : σ) (schedule : List Move)

/-- How the sink answers a client that finishes with a record, after the moves before that one. -/
def answerTo (index : Nat) (record : TaskRecord) : Outcome :=
  let before := schedule.takeWhile (· ≠ .finish index)
  (plan.sink.emit ((LoadRun.start plan.settings s).play plan before).sink record).1

/-- The record with which a client is counted: its own, unless the client or the sink crashed. -/
def countedRecord (index : Nat) : TaskRecord :=
  match plan.body index with
  | .crashed text => abortedRecord plan.settings index (abortReason (plan.label index) text)
  | .returned record =>
    match answerTo plan s schedule index record with
    | .ok | .failed _ => record
    | .crashed text => abortedRecord plan.settings index (abortReason (plan.label index) text)

/-- What the handle of a client says after a schedule: the summary that the run will count the
client with, for a client that has finished. -/
def StandsFor (index : Nat) : Handle → Prop
  | .running => .finish index ∉ schedule
  | .done summary =>
    .finish index ∈ schedule ∧
      summary = LoadSummary.empty.observe (countedRecord plan s schedule index)
  | .aborted reason =>
    .finish index ∈ schedule ∧
      countedRecord plan s schedule index = abortedRecord plan.settings index reason

variable {plan s schedule} {index : Nat}

/-- A client that has finished is counted with the same record from then on. -/
theorem countedRecord_append (h : .finish index ∈ schedule) (rest : List Move) :
    countedRecord plan s (schedule ++ rest) index = countedRecord plan s schedule index := by
  simp only [countedRecord, answerTo, takeWhile_append_of_mem h]

/-- A client that finishes now is counted by the answer that the sink gives now. -/
theorem answerTo_append_finish (h : .finish index ∉ schedule) (record : TaskRecord) :
    answerTo plan s (schedule ++ [.finish index]) index record
      = (plan.sink.emit ((LoadRun.start plan.settings s).play plan schedule).sink record).1 := by
  simp only [answerTo, takeWhile_append_self h]

/-- A move by which a running client does not finish changes nothing of what its handle says. -/
theorem StandsFor.append {handle : Handle} {move : Move}
    (h : StandsFor plan s schedule index handle)
    (hmove : handle = .running → move ≠ .finish index) :
    StandsFor plan s (schedule ++ [move]) index handle := by
  cases handle with
  | running =>
    have hne := hmove rfl
    simp only [StandsFor, List.mem_append, List.mem_singleton, not_or]
    exact ⟨h, Ne.symm hne⟩
  | done summary =>
    obtain ⟨hmem, hsummary⟩ := h
    exact ⟨List.mem_append_left _ hmem, by rw [countedRecord_append hmem]; exact hsummary⟩
  | aborted reason =>
    obtain ⟨hmem, hrecord⟩ := h
    exact ⟨List.mem_append_left _ hmem, by rw [countedRecord_append hmem]; exact hrecord⟩

end Counted

/-! ### Runs -/

section Runs

variable {σ : Type} {plan : RunPlan σ} {s : σ} {schedule : List Move}

/-- What the handles of a run say after a schedule, each for its own client and none for another
one. It is the invariant by which the run sees only what each client has left. -/
def HandlesStand (plan : RunPlan σ) (s : σ) (schedule : List Move) (run : LoadRun σ) : Prop :=
  ∀ (i : Nat) (handle : Handle), run.handles[i]? = some handle → StandsFor plan s schedule i handle

/-- A client that finishes leaves the handles of the others as they were. -/
theorem HandlesStand.finish {run after : LoadRun σ} {index : Nat} {handle : Handle}
    (h : HandlesStand plan s schedule run)
    (hhandles : after.handles = run.handles.setIfInBounds index handle)
    (hnew : StandsFor plan s (schedule ++ [.finish index]) index handle) :
    HandlesStand plan s (schedule ++ [.finish index]) after := by
  intro i other hother
  rw [hhandles, Array.getElem?_setIfInBounds] at hother
  split at hother
  · rename_i hi
    subst hi
    split at hother
    · cases hother
      exact hnew
    · cases hother
  · rename_i hne
    exact (h i other hother).append fun _ hmove => hne (Move.finish.inj hmove)

/-- A move by which no running client finishes leaves all handles as they were. -/
theorem HandlesStand.append {run after : LoadRun σ} {move : Move}
    (h : HandlesStand plan s schedule run) (hhandles : after.handles = run.handles)
    (hmove : ∀ i, move = .finish i → run.handles[i]? ≠ some .running) :
    HandlesStand plan s (schedule ++ [move]) after := by
  intro i handle hhandle
  rw [hhandles] at hhandle
  refine (h i handle hhandle).append ?_
  rintro rfl hfinish
  exact hmove i hfinish hhandle

/-- Before the first move no client has been answered, and every handle is running. -/
theorem handlesStand_start : HandlesStand plan s [] (LoadRun.start plan.settings s) := by
  intro i handle hhandle
  unfold LoadRun.start at hhandle
  split at hhandle
  · obtain ⟨-, rfl⟩ := Array.getElem?_eq_some_iff.mp hhandle
    simp [StandsFor]
  · simp at hhandle

/-- After every schedule the handles say with which records the clients are counted, by induction
from the right: the last move of a schedule sees the whole of what was before it. -/
theorem handlesStand_play (plan : RunPlan σ) (s : σ) (schedule : List Move) :
    HandlesStand plan s schedule ((LoadRun.start plan.settings s).play plan schedule) := by
  induction schedule using List.reverseRecOn with
  | nil => exact handlesStand_start
  | append_singleton schedule move ih =>
    rw [play_append]
    change HandlesStand plan s _
      (((LoadRun.start plan.settings s).play plan schedule).step plan move)
    -- The sink answers a client that finishes now in the state in which it is now.
    have hanswer : ∀ index, .finish index ∉ schedule → ∀ record,
        answerTo plan s (schedule ++ [.finish index]) index record
          = (plan.sink.emit ((LoadRun.start plan.settings s).play plan schedule).sink record).1 :=
      fun index hnew record => answerTo_append_finish hnew record
    generalize (LoadRun.start plan.settings s).play plan schedule = run at ih hanswer ⊢
    have hstep := stepped plan run move
    generalize run.step plan move = after at hstep ⊢
    cases hstep with
    | passed index hhandle =>
      exact ih.append rfl fun i hi => (Move.finish.inj hi) ▸ hhandle
    | waited | joinedDone => exact ih.append rfl nofun
    | joinedAborted reason => exact ih.append (joinAborted_handles plan run reason) nofun
    | bodyCrashed index text hrunning hbody =>
      refine ih.finish rfl ⟨List.mem_append_right _ (List.mem_singleton.mpr rfl), ?_⟩
      simp [countedRecord, hbody]
    | sinkCrashed index record text sink hrunning hbody hemit =>
      refine ih.finish rfl ⟨List.mem_append_right _ (List.mem_singleton.mpr rfl), ?_⟩
      simp [countedRecord, hbody, hanswer index (ih index _ hrunning), hemit]
    | emitted index record outcome sink hrunning hbody hemit houtcome =>
      refine ih.finish rfl ⟨List.mem_append_right _ (List.mem_singleton.mpr rfl), ?_⟩
      have hcounted : countedRecord plan s (schedule ++ [.finish index]) index = record := by
        simp only [countedRecord, hbody, hanswer index (ih index _ hrunning), hemit]
        cases outcome with
        | ok | failed error => rfl
        | crashed text => exact absurd rfl (houtcome text)
      rw [hcounted]

/-- A client that has been waited for has finished, so the schedule has a move in which it did, and
its record was answered there. -/
theorem HandlesStand.finish_mem {run : LoadRun σ} {i : Nat} (h : HandlesStand plan s schedule run)
    (hsound : Sound plan run) (hi : i < run.joined) : .finish i ∈ schedule := by
  obtain ⟨summary, hhandle⟩ | ⟨reason, hhandle⟩ := hsound.handle_of_joined hi
  · exact (h i _ hhandle).1
  · exact (h i _ hhandle).1

/-- The summary of the records with which the first clients are counted, in the order of their
index. It is the specification of a summary, and mentions neither handles nor merging. -/
def tally (plan : RunPlan σ) (s : σ) (schedule : List Move) (clients : Nat) : LoadSummary :=
  ((List.range clients).map (countedRecord plan s schedule)).foldl .observe .empty

/-- The tally of one client more observes the record of the last one, after all the others. -/
theorem tally_succ (clients : Nat) :
    tally plan s schedule (clients + 1)
      = (tally plan s schedule clients).observe (countedRecord plan s schedule clients) := by
  simp [tally, List.range_succ]

/-- The sum of latencies never becomes minus zero: it starts as zero, and no record that is observed
brings it there. This is what makes it equal, and not only close, to the sum in the order of the
numbers. -/
theorem latencySum_tally_ne (clients : Nat) :
    (tally plan s schedule clients).latencySum ≠ -0.0 :=
  latencySum_foldl_observe_ne _ (by decide +kernel)

/-- The summary is that of any records that are counted as those of the clients are. -/
theorem tally_eq_foldl {record : Nat → TaskRecord} {clients : Nat}
    (h : ∀ i < clients, LoadSummary.empty.observe (countedRecord plan s schedule i)
      = LoadSummary.empty.observe (record i)) :
    tally plan s schedule clients = ((List.range clients).map record).foldl .observe .empty := by
  induction clients with
  | zero => rfl
  | succ clients ih =>
    have hbefore := ih fun i hi => h i (Nat.lt_succ_of_lt hi)
    rw [tally_succ, observe_congr (latencySum_tally_ne clients) (h clients (Nat.lt_succ_self _)),
      hbefore]
    simp [List.range_succ]

/-- Clients that have finished are counted alike from then on, whatever else the schedule still
does. So the summary does not depend on what comes after a client has been joined. -/
theorem tally_append {clients : Nat} (h : ∀ i < clients, .finish i ∈ schedule)
    (rest : List Move) :
    tally plan s (schedule ++ rest) clients = tally plan s schedule clients := by
  have hrecords : (List.range clients).map (countedRecord plan s (schedule ++ rest))
      = (List.range clients).map (countedRecord plan s schedule) :=
    List.map_congr_left fun i hi => countedRecord_append (h i (List.mem_range.mp hi)) rest
  rw [tally, tally, hrecords]

/-- After every schedule the summary of a run is that of the clients that have been waited for. -/
theorem summary_play (plan : RunPlan σ) (s : σ) (schedule : List Move) :
    ((LoadRun.start plan.settings s).play plan schedule).summary
      = tally plan s schedule ((LoadRun.start plan.settings s).play plan schedule).joined := by
  induction schedule using List.reverseRecOn with
  | nil =>
    change (LoadRun.start plan.settings s).summary
      = tally plan s [] (LoadRun.start plan.settings s).joined
    unfold LoadRun.start
    split <;> rfl
  | append_singleton schedule move ih =>
    have hsound := sound_play plan s schedule
    have hstands := handlesStand_play plan s schedule
    rw [play_append]
    change (((LoadRun.start plan.settings s).play plan schedule).step plan move).summary
      = tally plan s _ (((LoadRun.start plan.settings s).play plan schedule).step plan move).joined
    generalize (LoadRun.start plan.settings s).play plan schedule = run at ih hsound hstands ⊢
    -- The clients that have been waited for before are counted as before.
    have hbefore : tally plan s (schedule ++ [move]) run.joined = run.summary :=
      (tally_append (fun i hi => hstands.finish_mem hsound hi) [move]).trans ih.symm
    have hstep := stepped plan run move
    generalize run.step plan move = after at hstep ⊢
    cases hstep with
    | passed | bodyCrashed | sinkCrashed | emitted | waited => exact hbefore.symm
    | joinedDone summary hcrash hhandle =>
      obtain ⟨hmem, rfl⟩ := hstands _ _ hhandle
      change run.summary.merge _ = tally plan s _ (run.joined + 1)
      rw [tally_succ, hbefore, countedRecord_append hmem,
        merge_observe_empty (ih ▸ latencySum_tally_ne run.joined)]
    | joinedAborted reason hcrash hhandle =>
      obtain ⟨hmem, hrecord⟩ := hstands _ _ hhandle
      rw [joinAborted_summary, joinAborted_joined, tally_succ, hbefore,
        countedRecord_append hmem, hrecord]

/-- The summary that a run gives is that of all its clients, since a run gives none before the last
one has been joined. -/
theorem eq_tally_of_result {summary : LoadSummary}
    (h : ((LoadRun.start plan.settings s).play plan schedule).result? = some summary) :
    summary = tally plan s schedule plan.settings.clients.toNat := by
  obtain ⟨hcomplete, rfl⟩ := result?_eq_some_iff.mp h
  rw [summary_play, joined_of_isComplete plan hcomplete]

/-- The summary of a run is that of the records with which its clients are counted, one after the
other in the order of their numbers. So it does not depend on the schedule, the sink or the names of
the clients but by these records: two runs that count the same ones give the same summary. -/
theorem summary_eq_foldl_counted {summary : LoadSummary}
    (h : ((LoadRun.start plan.settings s).play plan schedule).result? = some summary) :
    let n := plan.settings.clients.toNat
    summary = ((List.range n).map (countedRecord plan s schedule)).foldl .observe .empty ∧
    ∀ {τ : Type} (other : RunPlan τ) (t : τ) (schedule' : List Move) (summary' : LoadSummary),
      ((LoadRun.start other.settings t).play other schedule').result? = some summary' →
      other.settings.clients = plan.settings.clients →
      (∀ i < n, countedRecord other t schedule' i = countedRecord plan s schedule i) →
      summary' = summary := by
  intro n
  have hsummary : summary = tally plan s schedule n := eq_tally_of_result h
  refine ⟨hsummary, fun other t schedule' summary' h' hclients hsame => ?_⟩
  rw [hsummary, eq_tally_of_result h', hclients, tally, tally,
    List.map_congr_left fun i hi => hsame i (List.mem_range.mp hi)]

end Runs

/-- Three clients. The first has an answer, at an average time that is the negative zero; the second
crashes; and the sink crashes at its first call. -/
def crossedPlan : RunPlan Nat where
  settings := { LoadSettings.default with clients := 3 }
  sink := ⟨fun calls _ => (if calls = 0 then .crashed "full" else .ok, calls + 1)⟩
  body
    | 0 => .returned { TaskRecord.start "a" "h" 1 with sent := 1, received := 1, averageMs := -0.0 }
    | 1 => .crashed "lost"
    | _ => .returned { TaskRecord.start "c" "h" 1 with sent := 1, received := 1, averageMs := 2.5 }
  label := toString

/-- In two schedules of `crossedPlan` the last client is the first to call the sink, so it is
counted as gone, as is the second; and both runs come to the same summary. -/
theorem summary_eq_foldl_counted_crossed :
    let start := LoadRun.start crossedPlan.settings 0
    ∃ summary : LoadSummary,
      (start.play crossedPlan [.finish 2, .finish 1, .finish 0, .join, .join, .join]).result?
        = some summary ∧
      (start.play crossedPlan [.finish 1, .finish 2, .join, .finish 0, .join, .join, .join]).result?
        = some summary ∧
      summary = [{ TaskRecord.start "a" "h" 1 with sent := 1, received := 1, averageMs := -0.0 },
        abortedRecord crossedPlan.settings 1 (abortReason "1" "lost"),
        abortedRecord crossedPlan.settings 2 (abortReason "2" "full")].foldl .observe .empty := by
  intro start
  obtain ⟨summary, h⟩ : ∃ summary,
      (start.play crossedPlan [.finish 2, .finish 1, .finish 0, .join, .join, .join]).result?
        = some summary := Option.isSome_iff_exists.mp (by decide)
  obtain ⟨summary', h'⟩ : ∃ summary,
      (start.play crossedPlan [.finish 1, .finish 2, .join, .finish 0, .join, .join, .join]).result?
        = some summary := Option.isSome_iff_exists.mp (by decide)
  -- The two schedules count the same three records, in another order of finishing.
  obtain ⟨hfold, hsame⟩ := summary_eq_foldl_counted h
  have heq : summary' = summary := by
    refine hsame crossedPlan 0 _ summary' h' rfl fun i hi => ?_
    have hi : i < 3 := hi
    obtain rfl | rfl | rfl : i = 0 ∨ i = 1 ∨ i = 2 := by omega
    · rfl
    · rfl
    · rfl
  exact ⟨summary, h, heq ▸ h', hfold⟩

end EchoBench.Proofs.Load
