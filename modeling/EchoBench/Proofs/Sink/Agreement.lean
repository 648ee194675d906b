import EchoBench.Proofs.Load.Printed

/-!
# `EchoBench.Proofs.Sink.Agreement`: bytes that are as good as records

Two sinks are given the same records. One keeps them (`emitAll_memory`). The other has them written
as lines, by a writer that takes the lines in pieces and is interrupted, but never fails; it has the
bytes of the lines and no more (`emitAll_of_reliable`).

The records are found again in these bytes. Split at their line breaks, they are the written forms
of the records, with nothing behind the last break (`splitOn_lines`), and each of these parts is
read back as its record if its times are (`readPiece_json`). So whoever reads the second sink has
what the first one has (`agree_emitAll`).
-/

set_option autoImplicit false

namespace EchoBench.Proofs.Sink

open EchoBench.Proofs.Load (HasTimes fromUTF8?_utf8 readPiece)
open EchoBench.Proofs.Record (TimesReadBack ofText_json_of_readsBack ten_notMem_utf8_json
  utf8_line)
open EchoBench.Text (utf8)

/-! ### What the sinks have -/

/-- Records that are kept are kept in their order, behind those that were there before. -/
theorem emitAll_memory (kept records : List TaskRecord) :
    Sink.emitAll Sink.memory kept records
      = (List.replicate records.length .ok, kept ++ records) := by
  induction records generalizing kept with
  | nil => simp [Sink.emitAll]
  | cons r records ih =>
    have hrest := ih (kept ++ [r])
    rw [List.append_assoc, List.singleton_append] at hrest
    show ((.ok :: (Sink.emitAll Sink.memory (kept ++ [r]) records).1,
      (Sink.emitAll Sink.memory (kept ++ [r]) records).2) : List Outcome × List TaskRecord) = _
    rw [hrest, List.length_cons, List.replicate_succ]

/-- A sink whose writer never fails accepts all records, and has their lines behind what was there
before. -/
theorem emitAll_of_reliable {s : JsonLines} (h : Reliable s) (records : List TaskRecord) :
    answers s records = List.replicate records.length .ok ∧
      (Sink.emitAll Sink.jsonLines s records).2.output
        = s.output ++ records.flatMap fun r => utf8 r.line := by
  induction records generalizing s with
  | nil => simp [answers, Sink.emitAll]
  | cons r records ih =>
    -- The first call leaves such a sink again, so the other calls go the same way.
    obtain ⟨hok, hafter, houtput⟩ := emit_of_reliable h r
    obtain ⟨hanswers, hlines⟩ := ih hafter
    constructor
    · rw [answers_cons, hok, hanswers, List.length_cons, List.replicate_succ]
    · rw [emitAll_cons_snd, hlines, houtput, List.flatMap_cons, List.append_assoc]

/-! ### Reading lines -/

/-- Lines that are split at their breaks are the written forms of records, and nothing is left over
behind the last one. -/
theorem splitOn_lines (records : List TaskRecord) :
    (records.flatMap fun r => utf8 r.line).splitOn 10
      = (records.map fun r => utf8 (String.ofList r.json)) ++ [[]] := by
  induction records with
  | nil => rfl
  | cons r records ih =>
    have hbody : ∀ b ∈ utf8 (String.ofList r.json), (b == 10) = false := by
      intro b hb
      rw [beq_eq_false_iff_ne]
      rintro rfl
      exact ten_notMem_utf8_json r hb
    rw [List.flatMap_cons, utf8_line, List.append_assoc, List.singleton_append, List.splitOn,
      List.splitOnP_append_cons_of_forall_mem hbody 10 (by decide), List.map_cons, List.cons_append,
      ← ih]
    rfl

/-- The written form of a record is read as that record, if its times are finite and are read back.
A part of an output that is split has no line break, so this is about the record without one. -/
theorem readPiece_json {r : TaskRecord} (h : HasTimes r) (hback : TimesReadBack r) :
    readPiece (utf8 (String.ofList r.json)) = some (.ok r) := by
  have hread : TaskRecord.ofText (String.ofList (r.json ++ [])) = .ok r :=
    ofText_json_of_readsBack rfl ⟨hback.1 h.1, hback.2 h.2⟩
  rw [List.append_nil] at hread
  rw [readPiece, fromUTF8?_utf8, Option.map_some, hread]

/-- Two sinks that are given the same records agree: one that keeps them, and one of lines whose
writer takes at least a byte in every call that is not to be made again, and passes on what it has.
Both accept every record. Split at its line breaks, the output of the second has one part for each
record and nothing behind the last break. The parts are read as the records that the first one has
kept, if the times of the records are read back from their texts. -/
theorem agree_emitAll {writes : List Writer.WriteAnswer} {flushes : List Writer.FlushAnswer}
    (hwriter : NeverFails (.scripted writes flushes)) (records : List TaskRecord)
    (htimes : ∀ r ∈ records, HasTimes r) (hback : ∀ r ∈ records, TimesReadBack r) :
    let printed := Sink.emitAll Sink.jsonLines (.start (.scripted writes flushes)) records
    let kept := Sink.emitAll Sink.memory [] records
    printed.1 = List.replicate records.length .ok ∧
      kept.1 = List.replicate records.length .ok ∧
      kept.2 = records ∧
      ∃ parts : List (List UInt8),
        printed.2.output.splitOn 10 = parts ++ [[]] ∧ parts.length = records.length ∧
        parts.map readPiece = kept.2.map fun r => some (.ok r) := by
  intro printed kept
  have hreliable : Reliable (.start (.scripted writes flushes)) := ⟨rfl, hwriter⟩
  obtain ⟨hanswers, houtput⟩ := emitAll_of_reliable hreliable records
  -- Both sinks have taken everything, so the two lists can be compared record by record.
  have hkept : kept = (List.replicate records.length .ok, records) := emitAll_memory [] records
  have houtput : printed.2.output = records.flatMap fun r => utf8 r.line := houtput
  rw [hkept, houtput]
  refine ⟨hanswers, rfl, rfl, records.map fun r => utf8 (String.ofList r.json),
    ?_, List.length_map _, ?_⟩
  · exact splitOn_lines records
  · rw [List.map_map]
    refine List.map_congr_left fun r hr => ?_
    rw [Function.comp_apply, readPiece_json (htimes r hr) (hback r hr)]

/-- Two records, of which the second has an error with a line break in it. -/
def brokenPair : List TaskRecord :=
  [.start "a-0" "h" 1, (TaskRecord.start "a-1" "h" 1).addError "lost\n"]

/-- The writer takes the first line of `brokenPair` in pieces and is interrupted. -/
theorem agree_emitAll_brokenPair :
    NeverFails (.scripted [.upTo 5, .fails (.os 4), .upTo 1] [.ok]) ∧
      (∀ r ∈ brokenPair, HasTimes r ∧ TimesReadBack r) ∧
      ∃ parts : List (List UInt8),
        (Sink.emitAll Sink.jsonLines
          (.start (.scripted [.upTo 5, .fails (.os 4), .upTo 1] [.ok])) brokenPair).2.output.splitOn 10
            = parts ++ [[]] ∧
        parts.length = 2 ∧
        parts.map readPiece = brokenPair.map fun r => some (.ok r) := by
  have hwriter : NeverFails (.scripted [.upTo 5, .fails (.os 4), .upTo 1] [.ok]) := {
    writes := by simp [Writer.scripted, GoesOn, IoError.isInterrupted]
    flushes := by simp [Writer.scripted] }
  have htimes : ∀ r ∈ brokenPair, HasTimes r ∧ TimesReadBack r := by
    intro r hr
    rcases List.mem_pair.mp hr with rfl | rfl
    · exact ⟨⟨by decide +kernel, by decide +kernel⟩, by decide +kernel⟩
    · exact ⟨⟨by decide +kernel, by decide +kernel⟩, by decide +kernel⟩
  obtain ⟨-, -, hkept, parts, hsplit, hlength, hread⟩ := agree_emitAll hwriter brokenPair
    (fun r hr => (htimes r hr).1) fun r hr => (htimes r hr).2
  rw [hkept] at hread
  exact ⟨hwriter, htimes, parts, hsplit, hlength, hread⟩

end EchoBench.Proofs.Sink
