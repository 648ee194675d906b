import EchoBench.Proofs.Load.Balance
import EchoBench.Proofs.Record.Codec
import EchoBench.Proofs.Sink.Reliable

/-!
# `EchoBench.Proofs.Load.Printed`: what a run prints

A run leaves its clients twice: as lines in the output of its sink, and as counts in its summary. If
its writer never fails, the two are of the same records. `printed_of_run` says so of every schedule:
the output is one line for each client, every line is read back, what is read is the clients' own
records in some order, and the summary is that of these records in the order of their numbers.

The two ways are followed apart. The sink of lines is one that crashes in some of its states, and
the runs here never come to these. So they are runs over the sink that has only the other states
(`reliableLines`), of which all is known that is known of a sink that does not crash: it has been
called once with the record of each client, and each client is counted with that record.

What is read of a line is the record that was printed if its times are finite and read back from
their texts (`TimesReadBack`); this is used for the reading alone (`readPiece_line`), and nothing of
the rest depends on it.
-/

set_option autoImplicit false

namespace EchoBench.Proofs.Load

open EchoBench.Config (LoadSettings)
open EchoBench.Load
open EchoBench.Proofs.Record (TimesReadBack exists_utf8_line_eq ofText_line_of_readsBack)
open EchoBench.Proofs.Sink (GoesOn NeverFails Reliable emit_of_reliable pieces pieces_lines)
open EchoBench.Text (fromUTF8?_eq_some_iff utf8 toByteArray_utf8)

/-! ### Reading the output -/

/-- What a piece of the output is read as: it has to be a text, and that of a record. -/
def readPiece (piece : List UInt8) : Option (Except Json.Fault TaskRecord) :=
  (String.fromUTF8? piece.toByteArray).map TaskRecord.ofText

/-- Both times of a record are finite. A record of which this is not so has a line that no reader
takes, because a number that is not finite is written as `null`. -/
def HasTimes (r : TaskRecord) : Prop :=
  r.totalMs.isFinite = true ∧ r.averageMs.isFinite = true

/-- The bytes of a text are decoded to it, so a line that was printed is a text again. -/
theorem fromUTF8?_utf8 (s : String) : String.fromUTF8? (utf8 s).toByteArray = some s := by
  rw [toByteArray_utf8]
  exact fromUTF8?_eq_some_iff.mpr rfl

/-- The line of a record is read as that record, if its times are finite and are read back. -/
theorem readPiece_line {r : TaskRecord} (h : HasTimes r) (hback : TimesReadBack r) :
    readPiece (utf8 r.line) = some (.ok r) := by
  rw [readPiece, fromUTF8?_utf8, Option.map_some,
    ofText_line_of_readsBack ⟨hback.1 h.1, hback.2 h.2⟩]

/-! ### A sink that accepts every record -/

section Accepts

variable {σ : Type} {plan : RunPlan σ} {s : σ} {schedule : List Move} {record : Nat → TaskRecord}

/-- A sink whose calls all end well, so that a client's record is neither lost nor offered twice. -/
def AcceptsAll (sink : Sink σ) : Prop :=
  ∀ (s : σ) (r : TaskRecord), (sink.emit s r).1 = .ok

/-- A sink that accepts every record crashes on none. So what is known of sinks that do not crash is
known of it. -/
theorem AcceptsAll.neverCrashes {sink : Sink σ} (h : AcceptsAll sink) : NeverCrashes sink := by
  intro s r text hcrash
  rw [h s r] at hcrash
  cases hcrash

/-- If every client leaves a record, the sink has been called with these records. -/
theorem perm_sinkCalls_of_returned (hsink : AcceptsAll plan.sink)
    (hreturned : ∀ i < plan.settings.clients.toNat, plan.body i = .returned (record i))
    (h : ((LoadRun.start plan.settings s).play plan schedule).isComplete = true) :
    (sinkCalls plan s schedule).Perm ((List.range plan.settings.clients.toNat).map record) := by
  obtain ⟨-, hperm⟩ := perm_sinkCalls hsink.neverCrashes s schedule h
  have hown : ∀ i ∈ List.range plan.settings.clients.toNat, accountedRecord plan i = record i := by
    intro i hi
    rw [accountedRecord, hreturned i (List.mem_range.mp hi)]
  rwa [List.map_congr_left hown] at hperm

/-- If every client leaves a record, and the sink accepts it, the summary is that of these records.
-/
theorem summary_of_returned {summary : LoadSummary} (hsink : AcceptsAll plan.sink)
    (hreturned : ∀ i < plan.settings.clients.toNat, plan.body i = .returned (record i))
    (h : ((LoadRun.start plan.settings s).play plan schedule).result? = some summary) :
    summary = ((List.range plan.settings.clients.toNat).map record).foldl .observe .empty := by
  have hcounted : ∀ i ∈ List.range plan.settings.clients.toNat,
      countedRecord plan s schedule i = record i := by
    intro i hi
    simp only [countedRecord, hreturned i (List.mem_range.mp hi), answerTo, hsink _ (record i)]
  rw [eq_tally_of_result h, tally, List.map_congr_left hcounted]

/-- The records that clients leave have the names of the clients, in the order of their numbers. -/
theorem taskIds_of_returned {n : Nat}
    (hbodies : ∀ i < n, IsOutcome plan.settings i (plan.body i))
    (hreturned : ∀ i < n, plan.body i = .returned (record i)) :
    ((List.range n).map record).map (·.taskId)
      = (List.range n).map (taskId plan.settings.clientId) := by
  rw [List.map_map]
  refine List.map_congr_left fun i hi => ?_
  have hi := List.mem_range.mp hi
  exact ((hbodies i hi).isAbout (hreturned i hi)).1

/-- Clients with different numbers have different names, so every line of a run can be told from
every other by its name. -/
theorem nodup_taskIds (clientId : String) (n : Nat) :
    ((List.range n).map (taskId clientId)).Nodup :=
  List.nodup_range.map fun _ _ h => (taskId_eq_iff.mp h).2

end Accepts

/-! ### The sink of lines -/

section Lines

variable {plan : RunPlan JsonLines}

/-- The sink of lines, in the states in which its writer never fails. -/
def reliableLines : Sink { s : JsonLines // Reliable s } where
  emit s r := ((s.1.emit r).1, ⟨(s.1.emit r).2, (emit_of_reliable s.2 r).2.1⟩)

/-- In these states the sink of lines accepts every record, and stays in them. -/
theorem acceptsAll_reliableLines : AcceptsAll reliableLines :=
  fun s r => (emit_of_reliable s.2 r).1

/-- The plan with its sink in the states in which the writer never fails. -/
def reliablePlan (plan : RunPlan JsonLines) : RunPlan { s : JsonLines // Reliable s } :=
  overSink plan reliableLines

/-- A run over lines never leaves the states in which the writer never fails. -/
theorem mapSink_play_reliable (hsink : plan.sink = .jsonLines)
    (run : LoadRun { s : JsonLines // Reliable s }) (schedule : List Move) :
    mapSink Subtype.val (run.play (reliablePlan plan) schedule)
      = (mapSink Subtype.val run).play plan schedule := by
  have hfollows : Follows plan.sink Subtype.val reliableLines := by
    rw [hsink]
    exact fun _ _ => rfl
  exact mapSink_play hfollows run schedule

/-- What the output of a sink has that has been called with some records since it had `before`. -/
def HasLines (before : List UInt8) (t : { s : JsonLines // Reliable s } × List TaskRecord) : Prop :=
  t.1.1.output = before ++ t.2.flatMap fun r => utf8 r.line

/-- A call adds the line of its record and nothing else. This is the step of `output_play`, which
takes it along a whole run. -/
theorem hasLines_emit (before : List UInt8) (t : { s : JsonLines // Reliable s } × List TaskRecord)
    (r : TaskRecord) (h : HasLines before t) :
    HasLines before (reliableLines.traced.emit t r).2 := by
  have hadded : (t.1.1.emit r).2.output = t.1.1.output ++ utf8 r.line :=
    (emit_of_reliable t.1.2 r).2.2
  show (t.1.1.emit r).2.output = before ++ (t.2 ++ [r]).flatMap fun r => utf8 r.line
  rw [hadded, h, List.flatMap_append, List.flatMap_singleton, List.append_assoc]

/-- The output has the lines of the records with which the sink has been called, and no more. -/
theorem output_play (plan : RunPlan JsonLines) (s : { s : JsonLines // Reliable s })
    (schedule : List Move) :
    ((LoadRun.start plan.settings s).play (reliablePlan plan) schedule).sink.1.output
      = s.1.output ++ (sinkCalls (reliablePlan plan) s schedule).flatMap fun r => utf8 r.line := by
  have hstart : HasLines s.1.output (LoadRun.start plan.settings (s, ([] : List TaskRecord))).sink := by
    unfold LoadRun.start
    split <;> exact (List.append_nil s.1.output).symm
  have hlines := sink_play (traced (reliablePlan plan)) _ (hasLines_emit s.1.output) schedule hstart
  rw [← untraced_start, ← untraced_play]
  exact hlines

/-- At the summary of a run the output has one line for the record of each client, in some order,
and the summary is that of these records in the order of the clients. -/
theorem exists_perm_of_result {s : JsonLines} (hs : Reliable s) {schedule : List Move}
    {record : Nat → TaskRecord} {summary : LoadSummary} (hsink : plan.sink = .jsonLines)
    (hreturned : ∀ i < plan.settings.clients.toNat, plan.body i = .returned (record i))
    (h : ((LoadRun.start plan.settings s).play plan schedule).result? = some summary) :
    ∃ records : List TaskRecord,
      ((LoadRun.start plan.settings s).play plan schedule).sink.output
        = s.output ++ records.flatMap (fun r => utf8 r.line) ∧
      records.Perm ((List.range plan.settings.clients.toNat).map record) ∧
      summary = ((List.range plan.settings.clients.toNat).map record).foldl .observe .empty := by
  have hrun := mapSink_play_reliable hsink (LoadRun.start plan.settings ⟨s, hs⟩) schedule
  rw [mapSink_start] at hrun
  rw [← hrun] at h ⊢
  have h : ((LoadRun.start plan.settings ⟨s, hs⟩).play (reliablePlan plan) schedule).result?
      = some summary := h
  -- The clients are the same over the sink with fewer states.
  have hreturned : ∀ i < (reliablePlan plan).settings.clients.toNat,
      (reliablePlan plan).body i = .returned (record i) := hreturned
  obtain ⟨hcomplete, -⟩ := result?_eq_some_iff.mp h
  have hperm := perm_sinkCalls_of_returned acceptsAll_reliableLines hreturned hcomplete
  have hsummary := summary_of_returned acceptsAll_reliableLines hreturned h
  exact ⟨_, output_play plan ⟨s, hs⟩ schedule, hperm, hsummary⟩

/-- A run over lines comes to its summary once its clients have finished and been waited for, if it
can keep account of them all. -/
theorem result?_play_inOrder_lines {s : JsonLines} (hs : Reliable s) (hsink : plan.sink = .jsonLines)
    (schedule : List Move) :
    (((LoadRun.start plan.settings s).play plan schedule).play plan
        (LoadRun.inOrder plan.settings.clients.toNat)).result?.isSome = true
      ↔ plan.settings.clients.toNat ≤ greatestClients := by
  have hended := result?_play_inOrder (reliablePlan plan) acceptsAll_reliableLines.neverCrashes
    ⟨s, hs⟩ schedule
  have hrun := mapSink_play_reliable hsink (LoadRun.start plan.settings ⟨s, hs⟩)
    (schedule ++ LoadRun.inOrder plan.settings.clients.toNat)
  rw [mapSink_start, play_append, play_append] at hrun
  rw [← hrun]
  exact hended

end Lines

/-- A run whose clients leave records and whose writer never fails, prints what it counts. At its
summary the output is one line for each client. If the times of the records are read back from their
texts, each line is read back as a record, and what is read are the records of the clients in some
order, no two with the same name. Taken in the order of the clients,
these records make up the summary. And there is a summary once the clients have finished and been
waited for, if the run can keep account of so many. -/
theorem printed_of_run {plan : RunPlan JsonLines} {record : Nat → TaskRecord}
    {writes : List Writer.WriteAnswer} {flushes : List Writer.FlushAnswer}
    (hsink : plan.sink = .jsonLines) (hwriter : NeverFails (.scripted writes flushes))
    (hbodies : ∀ i < plan.settings.clients.toNat, IsOutcome plan.settings i (plan.body i))
    (hreturned : ∀ i < plan.settings.clients.toNat, plan.body i = .returned (record i))
    (htimes : ∀ i < plan.settings.clients.toNat, HasTimes (record i))
    (hback : ∀ i < plan.settings.clients.toNat, TimesReadBack (record i)) (schedule : List Move) :
    let n := plan.settings.clients.toNat
    let own := (List.range n).map record
    let run := (LoadRun.start plan.settings (JsonLines.start (.scripted writes flushes))).play plan
      schedule
    (∀ summary, run.result? = some summary →
      (pieces run.sink.output).length = n ∧
      (∀ piece ∈ pieces run.sink.output, ∃ body, piece = body ++ [10] ∧ 10 ∉ body) ∧
      ∃ records : List TaskRecord,
        (pieces run.sink.output).map readPiece = records.map (fun r => some (.ok r)) ∧
        records.Perm own ∧ (records.map (·.taskId)).Nodup ∧
        own.map (·.taskId) = (List.range n).map (taskId plan.settings.clientId) ∧
        summary = own.foldl .observe .empty) ∧
    ((run.play plan (LoadRun.inOrder n)).result?.isSome = true ↔ n ≤ greatestClients) := by
  intro n own run
  have hs : Reliable (JsonLines.start (.scripted writes flushes)) := ⟨rfl, hwriter⟩
  refine ⟨fun summary hresult => ?_, result?_play_inOrder_lines hs hsink schedule⟩
  obtain ⟨records, houtput, hperm, hsummary⟩ := exists_perm_of_result hs hsink hreturned hresult
  -- The output is the lines of the records in some order, and cutting it gives these lines back.
  have hpieces : pieces run.sink.output = records.map fun r => utf8 r.line := by
    rw [houtput]
    exact pieces_lines records
  have hnames := taskIds_of_returned hbodies hreturned
  rw [hpieces]
  refine ⟨?_, ?_, records, ?_, hperm, ?_, hnames, hsummary⟩
  · rw [List.length_map, hperm.length_eq, List.length_map, List.length_range]
  · intro piece hpiece
    obtain ⟨r, -, rfl⟩ := List.mem_map.mp hpiece
    exact exists_utf8_line_eq r
  · -- Each line is read on its own, under the assumption about the times of its client.
    rw [List.map_map]
    refine List.map_congr_left fun r hr => ?_
    obtain ⟨i, hi, rfl⟩ := List.mem_map.mp (hperm.mem_iff.mp hr)
    have hi := List.mem_range.mp hi
    rw [Function.comp_apply, readPiece_line (htimes i hi) (hback i hi)]
  · rw [(hperm.map _).nodup_iff, hnames]
    exact nodup_taskIds _ n

/-- The settings of a run of two clients, the shortest that has an order among its clients. -/
def pairSettings : LoadSettings :=
  { LoadSettings.default with clients := 2 }

/-- The client of `pairSettings` that has an answer, and the one that finds nobody to talk to. -/
def pairClient : Nat → Client
  | 0 => (Client.run obliging pairSettings 0 ()).1
  | index => (Client.run nobody pairSettings index ()).1

/-- The two clients, and a sink of lines that takes what they leave; the second one may well be done
first. -/
def pairPlan : RunPlan JsonLines where
  settings := pairSettings
  sink := .jsonLines
  body index := .ofClient (pairClient index)
  label := toString

/-- The second client prints first, and the writer takes its line in pieces and is interrupted. -/
theorem printed_of_run_pair :
    let writes := [.upTo 5, .fails (.os 4), .upTo 1]
    let schedule : List Move := .finish 1 :: LoadRun.inOrder 2
    let run := (LoadRun.start pairSettings (JsonLines.start (.scripted writes [.ok]))).play pairPlan
      schedule
    NeverFails (.scripted writes [.ok]) ∧
    (∀ i < 2, IsOutcome pairSettings i (pairPlan.body i) ∧
      pairPlan.body i = .returned (pairClient i).record ∧ HasTimes (pairClient i).record ∧
      TimesReadBack (pairClient i).record) ∧
    ∃ summary, run.result? = some summary ∧ (pieces run.sink.output).length = 2 ∧
      ∃ records : List TaskRecord,
        (pieces run.sink.output).map readPiece = records.map (fun r => some (.ok r)) ∧
        records.Perm [(pairClient 0).record, (pairClient 1).record] ∧
        summary = [(pairClient 0).record, (pairClient 1).record].foldl .observe .empty := by
  intro writes schedule run
  have hwriter : NeverFails (.scripted writes [.ok]) := {
    writes := by simp [writes, Writer.scripted, GoesOn, IoError.isInterrupted]
    flushes := by simp [Writer.scripted] }
  -- One client talks and the other finds nobody, so the two records differ.
  have hclients : ∀ i < 2, IsOutcome pairSettings i (pairPlan.body i) ∧
      pairPlan.body i = .returned (pairClient i).record ∧ HasTimes (pairClient i).record ∧
      TimesReadBack (pairClient i).record := by
    intro i hi
    obtain rfl | rfl : i = 0 ∨ i = 1 := by omega
    · exact ⟨.talked obliging (), by rfl, ⟨by decide +kernel, by decide +kernel⟩, by decide +kernel⟩
    · exact ⟨.talked nobody (), by rfl, ⟨by decide +kernel, by decide +kernel⟩, by decide +kernel⟩
  obtain ⟨hprinted, -⟩ := @printed_of_run pairPlan (fun i => (pairClient i).record) writes [.ok] rfl
    hwriter (fun i hi => (hclients i hi).1) (fun i hi => (hclients i hi).2.1)
    (fun i hi => (hclients i hi).2.2.1) (fun i hi => (hclients i hi).2.2.2) schedule
  have hcount : pairPlan.settings.clients.toNat = 2 := rfl
  -- The schedule ends with the moves in order, so the run has its summary.
  have hended := @result?_play_inOrder_lines pairPlan (.start (.scripted writes [.ok]))
    ⟨rfl, hwriter⟩ rfl [.finish 1]
  rw [hcount, ← play_append] at hended
  obtain ⟨summary, hresult⟩ : ∃ summary, run.result? = some summary :=
    Option.isSome_iff_exists.mp (hended.mpr (by decide))
  obtain ⟨hlength, -, records, hread, hperm, -, -, hsummary⟩ := hprinted summary hresult
  exact ⟨hwriter, hclients, summary, hresult, hlength, records, hread, hperm, hsummary⟩

end EchoBench.Proofs.Load
