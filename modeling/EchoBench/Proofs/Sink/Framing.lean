import EchoBench.Proofs.Sink.Accounting

/-!
# `EchoBench.Proofs.Sink.Framing`: where the lines are in the output

Whoever reads the output cuts it after each line break (`pieces`). A line that was written in full
is the end of one piece. What stands in front of it in that piece is what the output held behind its
last line break when the line came (`unfinished`), and nothing takes that away: a call that is cut
in its line leaves the front of the line there, fails, and the sink stays usable. So the next line
is written behind a stray front, and the two are one piece (`pieces_of_cut_first`).

`framing_emitAll` is the rule. It gives the piece of every line that was accepted, and what each
call leaves unfinished. The lines that were accepted are pieces of their own, in order, where
nothing was unfinished when they came.
-/

set_option autoImplicit false

namespace EchoBench.Proofs.Sink

open EchoBench.Proofs.Record (exists_utf8_line_eq utf8_line_ne_nil)
open EchoBench.Text (utf8)

/-- Bytes cut after each line break. What comes after the last one is a piece if it is not empty. -/
def pieces : List UInt8 → List (List UInt8)
  | [] => []
  | b :: bytes =>
    if b = 10 then [b] :: pieces bytes
    else
      match pieces bytes with
      | [] => [[b]]
      | piece :: rest => (b :: piece) :: rest

/-- The bytes after the last line break. A sink that is between two whole lines has none of them. -/
def unfinished : List UInt8 → List UInt8
  | [] => []
  | b :: bytes => if 10 ∈ b :: bytes then unfinished bytes else b :: bytes

/-- The lines of the records that were accepted, in order: those of the calls that answered well. -/
def acceptedLines (s : JsonLines) (records : List TaskRecord) : List (List UInt8) :=
  ((records.zip (answers s records)).filter (·.2 = .ok)).map fun (r, _) => utf8 r.line

/-! ### Bytes -/

section Bytes

variable {a p body : List UInt8}

/-- A body without a line break, and a line break behind it, is the first piece. -/
theorem pieces_append_break (h : 10 ∉ body) (rest : List UInt8) :
    pieces (body ++ 10 :: rest) = (body ++ [10]) :: pieces rest := by
  induction body with
  | nil => simp [pieces]
  | cons b body ih =>
    obtain ⟨hb, hbody⟩ := not_or.mp (mt List.mem_cons.mpr h)
    rw [List.cons_append, pieces, if_neg (Ne.symm hb), ih hbody]
    rfl

/-- Without a line break nothing is finished. -/
theorem unfinished_of_notMem (h : 10 ∉ p) : unfinished p = p := by
  cases p with
  | nil => rfl
  | cons b p => rw [unfinished, if_neg h]

/-- Bytes without a line break go on with the unfinished line; that is how a line which was cut
short swallows the next one. -/
theorem unfinished_append (h : 10 ∉ p) (a : List UInt8) :
    unfinished (a ++ p) = unfinished a ++ p := by
  induction a with
  | nil => exact unfinished_of_notMem h
  | cons b a ih =>
    -- A break in front cuts off the same bytes, and without one nothing is cut off.
    by_cases hmem : 10 ∈ b :: a
    · have happend : 10 ∈ b :: (a ++ p) := List.mem_append_left p hmem
      rw [List.cons_append, unfinished, unfinished, if_pos hmem, if_pos happend, ih]
    · have happend : 10 ∉ b :: (a ++ p) := fun hp => (List.mem_append.mp hp).elim hmem h
      rw [List.cons_append, unfinished, unfinished, if_neg hmem, if_neg happend, List.cons_append]

/-- What is unfinished has no line break, or it would be finished. -/
theorem notMem_unfinished (a : List UInt8) : 10 ∉ unfinished a := by
  induction a with
  | nil => simp [unfinished]
  | cons b a ih =>
    rw [unfinished]
    split
    · exact ih
    · next h => exact h

/-- A line break finishes everything, and the output is between two lines again. -/
theorem unfinished_append_break (a : List UInt8) : unfinished (a ++ [10]) = [] := by
  induction a with
  | nil => simp [unfinished]
  | cons b a ih => rw [List.cons_append, unfinished, if_pos (by simp), ih]

/-- The piece that a line break ends has what was unfinished before it in front, and comes after as
many pieces as there were breaks. -/
theorem getElem?_pieces_append_break (h : 10 ∉ body) (a rest : List UInt8) :
    (pieces (a ++ (body ++ 10 :: rest)))[a.count 10]? = some (unfinished a ++ (body ++ [10])) := by
  induction a with
  | nil => simp [pieces_append_break h, unfinished]
  | cons b a ih =>
    by_cases hmem : 10 ∈ b :: a
    · rw [unfinished, if_pos hmem, List.cons_append, pieces]
      by_cases hb : b = 10
      · rw [if_pos hb, hb, List.count_cons_self, List.getElem?_cons_succ, ih]
      · -- The byte goes to the first piece, and the break is after a later one.
        have ha : 10 ∈ a := (List.mem_cons.mp hmem).resolve_left (Ne.symm hb)
        obtain ⟨n, hn⟩ := Nat.exists_eq_add_of_lt (List.count_pos_iff.mpr ha)
        rw [Nat.zero_add] at hn
        rw [hn] at ih
        rw [if_neg hb, List.count_cons_of_ne (by simpa using hb), hn]
        cases hpieces : pieces (a ++ (body ++ 10 :: rest)) with
        | nil => rw [hpieces] at ih; cases ih
        | cons piece more => rw [hpieces] at ih; exact ih
    · -- No break is in front, so all bytes up to this one are the first piece.
      have hfront : 10 ∉ (b :: a) ++ body := fun hp => (List.mem_append.mp hp).elim hmem h
      rw [unfinished, if_neg hmem, List.count_eq_zero.mpr hmem, ← List.append_assoc,
        pieces_append_break hfront, List.append_assoc]
      rfl

/-- The front of a line has no line break unless it is the whole line. So a line that was cut leaves
an unfinished one. -/
theorem notMem_of_append_eq {rest : List UInt8} (hbody : 10 ∉ body) (hrest : rest ≠ [])
    (h : p ++ rest = body ++ [10]) : 10 ∉ p := by
  -- The break is the last byte, so it is not in what stands in front of the rest.
  have hbody' : p ++ rest.dropLast = body := by
    rw [← List.dropLast_append_of_ne_nil hrest, h, List.dropLast_concat]
  rintro hp
  exact hbody (hbody' ▸ List.mem_append_left _ hp)

end Bytes

/-! ### The output of a sink -/

section Output

variable {s : JsonLines} {r : TaskRecord} {records : List TaskRecord} {i : Nat} {p : List UInt8}

/-- What a call leaves unfinished: nothing behind a whole line, and else what was unfinished before
it and its part. -/
theorem Passed.unfinished_output {before after : JsonLines} {outcome : Outcome}
    (h : Passed before (utf8 r.line) p outcome after) :
    unfinished after.output = if p = utf8 r.line then [] else unfinished before.output ++ p := by
  obtain ⟨body, hline, hbody⟩ := exists_utf8_line_eq r
  rw [h.output]
  split
  · next hp => rw [hp, hline, ← List.append_assoc, unfinished_append_break]
  · next hp =>
    obtain ⟨rest, hrest, happend⟩ := (h.part_cases (utf8_line_ne_nil r)).resolve_left hp
    exact unfinished_append (notMem_of_append_eq hbody hrest (happend.trans hline)) _

/-- What is in the output stays in front of it, whatever is written later. So a line keeps its place
from the call that wrote it on. -/
theorem output_sinkAfter_isPrefix (s : JsonLines) (records : List TaskRecord) (i : Nat) :
    (sinkAfter s records i).output <+: (Sink.emitAll Sink.jsonLines s records).2.output := by
  induction records generalizing s i with
  | nil => simp [sinkAfter]
  | cons r records ih =>
    cases i with
    | zero =>
      rw [sinkAfter_zero, output_emitAll]
      exact List.prefix_append ..
    | succ i => exact ih (s.emit r).2 i

/-- The piece of a line that is written in full, with what the cut line before it has left in front,
is where the count of line breaks puts it. -/
theorem getElem?_pieces_output (hr : records[i]? = some r)
    (hp : (parts s records)[i]? = some (utf8 r.line)) :
    let output := (Sink.emitAll Sink.jsonLines s records).2.output
    let before := (sinkAfter s records i).output
    (pieces output)[before.count 10]? = some (unfinished before ++ utf8 r.line) := by
  intro output before
  obtain ⟨q, outcome, hq, -, hpassed⟩ := passed_getElem? (s := s) hr
  have hwhole : q = utf8 r.line := Option.some.inj (hq.symm.trans hp)
  -- Later calls only add to the output, so the piece is there as soon as the line is.
  obtain ⟨rest, hrest⟩ := output_sinkAfter_isPrefix s records (i + 1)
  obtain ⟨body, hline, hbody⟩ := exists_utf8_line_eq r
  have houtput : output = before ++ (body ++ 10 :: rest) := by
    change (Sink.emitAll Sink.jsonLines s records).2.output = _
    rw [← hrest, hpassed.output, hwhole, hline]
    simp [before]
  rw [houtput, hline]
  exact getElem?_pieces_append_break hbody _ rest

/-- The lines that are accepted are gathered record by record: the line of a record is one of them
if and only if its call ended well. -/
theorem acceptedLines_cons (s : JsonLines) (r : TaskRecord) (records : List TaskRecord) :
    acceptedLines s (r :: records)
      = if (s.emit r).1 = .ok then utf8 r.line :: acceptedLines (s.emit r).2 records
        else acceptedLines (s.emit r).2 records := by
  simp only [acceptedLines, answers_cons, List.zip_cons_cons, List.filter_cons, decide_eq_true_eq]
  split <;> rfl

/-- Where every line that is accepted comes behind a line break, the lines that are accepted are
pieces of their own. -/
theorem acceptedLines_sublist_pieces
    (hclean : ∀ i, (answers s records)[i]? = some .ok →
      unfinished (sinkAfter s records i).output = []) :
    (acceptedLines s records).Sublist
      (pieces (unfinished s.output ++ (parts s records).flatten)) := by
  induction records generalizing s with
  | nil => exact List.nil_sublist _
  | cons r records ih =>
    have hrest := ih (s := (s.emit r).2) fun i hi => hclean (i + 1) hi
    have hpassed := passed_emit s r
    rw [hpassed.unfinished_output] at hrest
    rw [parts, List.flatten_cons, acceptedLines_cons]
    by_cases hwhole : part s r = utf8 r.line
    · -- The line ends the first piece, and the rest is cut behind it.
      obtain ⟨body, hline, hbody⟩ := exists_utf8_line_eq r
      -- Whatever was unfinished stands in front of the line, and has no break either.
      have hfront : 10 ∉ unfinished s.output ++ body :=
        fun h => (List.mem_append.mp h).elim (notMem_unfinished _) hbody
      have hpieces : ∀ rest, pieces (unfinished s.output ++ (part s r ++ rest))
          = (unfinished s.output ++ utf8 r.line) :: pieces rest := by
        intro rest
        rw [hwhole, hline]
        simpa only [List.append_assoc, List.singleton_append]
          using pieces_append_break hfront rest
      rw [if_pos hwhole, List.nil_append] at hrest
      rw [hpieces]
      split
      · next hok =>
        -- The line was accepted, so nothing was unfinished before it and it is a piece of its own.
        have hstart : unfinished s.output = [] := by
          simpa using hclean 0 (congrArg some hok)
        rw [hstart, List.nil_append]
        exact hrest.cons_cons _
      · exact hrest.cons _
    · -- What the call wrote is added to what is unfinished, and it is not accepted.
      have hfailed : (s.emit r).1 ≠ .ok := by
        intro hok
        rw [hok] at hpassed
        exact hwhole hpassed.part_of_ok
      rw [if_neg hwhole, List.append_assoc] at hrest
      rwa [if_neg hfailed]

end Output

/-- Where the lines of a fresh sink are in its output. A line that is accepted ends a piece, which
comes after as many pieces as there were line breaks before it and has in front what was unfinished
then. A call leaves nothing unfinished if it writes its line in full, and else it leaves what was
there and the part that it wrote. So the accepted lines are pieces of their own, in order, where
nothing was unfinished when they came. -/
theorem framing_emitAll (writes : List Writer.WriteAnswer) (flushes : List Writer.FlushAnswer)
    (records : List TaskRecord) :
    let s := JsonLines.start (.scripted writes flushes)
    let output := (Sink.emitAll Sink.jsonLines s records).2.output
    let before := fun i => (sinkAfter s records i).output
    (∀ i r, records[i]? = some r → (answers s records)[i]? = some .ok →
        (pieces output)[(before i).count 10]? = some (unfinished (before i) ++ utf8 r.line)) ∧
      (∀ i r p, records[i]? = some r → (parts s records)[i]? = some p →
        unfinished (before (i + 1))
          = if p = utf8 r.line then [] else unfinished (before i) ++ p) ∧
      ((∀ i, (answers s records)[i]? = some .ok → unfinished (before i) = []) →
        (acceptedLines s records).Sublist (pieces output)) := by
  intro s output before
  refine ⟨fun i r hr hok => ?_, fun i r p hr hp => ?_, fun hclean => ?_⟩
  · -- A call that ended well has written its whole line.
    obtain ⟨p, outcome, hp, houtcome, hpassed⟩ := passed_getElem? (s := s) hr
    obtain rfl : outcome = .ok := Option.some.inj (houtcome.symm.trans hok)
    rw [hpassed.part_of_ok] at hp
    exact getElem?_pieces_output hr hp
  · obtain ⟨q, outcome, hq, -, hpassed⟩ := passed_getElem? (s := s) hr
    obtain rfl : q = p := Option.some.inj (hq.symm.trans hp)
    exact hpassed.unfinished_output
  · have houtput : output = (parts s records).flatten := output_emitAll s records
    rw [houtput]
    exact acceptedLines_sublist_pieces hclean

/-! ### A line that is lost -/

section Cut

variable {line : List UInt8} {count : Nat} {cause : IoError}

/-- A writer that takes some bytes of a line and then fails leaves exactly these bytes, and the call
answers with the failure. -/
theorem write_cut (hpos : 0 < count) (hcut : count < line.length)
    (hcause : cause.isInterrupted = false) :
    (Writer.scripted [.upTo count, .fails cause] []).write line
      = (.failed cause, ⟨[], [], line.take count, 2, 0⟩) := by
  have hmin : min count line.length = count := by omega
  have hne : count ≠ 0 := by omega
  obtain ⟨k, hk⟩ := Nat.exists_eq_add_of_lt hcut
  have hrest : count + k + 1 - count = k + 1 := by omega
  rw [hk] at hmin
  simp [Writer.scripted, Writer.write, Writer.writeAll, Writer.Progress.after, hk, hmin, hne, hrest,
    hcause]

/-- A writer whose script is used up takes everything, so a line behind one that was cut is written
whole. -/
theorem write_all (line before : List UInt8) (calls : Nat) :
    ∃ calls', (Writer.mk [] [] before calls 0).write line
      = (.done, ⟨[], [], before ++ line, calls', 0⟩) := by
  cases line with
  | nil => exact ⟨calls, by simp [Writer.write, Writer.writeAll]⟩
  | cons b line => exact ⟨calls + 1, by simp [Writer.write, Writer.writeAll]⟩

/-- The front of a line has no break, because the break is the last byte of the line. -/
theorem notMem_take {body : List UInt8} (hline : line = body ++ [10]) (hbody : 10 ∉ body)
    (hcut : count < line.length) : 10 ∉ line.take count :=
  notMem_of_append_eq hbody (mt List.drop_eq_nil_iff.mp (Nat.not_le.mpr hcut))
    ((List.take_append_drop count line).trans hline)

end Cut

/-- Whatever the first record, and wherever its line is cut before the end, the line of the next one
is accepted and is written into the same piece. -/
theorem pieces_of_cut_first (r next : TaskRecord) {count : Nat} {cause : IoError}
    (hpos : 0 < count) (hcut : count < (utf8 r.line).length)
    (hcause : cause.isInterrupted = false) :
    let s := JsonLines.start (.scripted [.upTo count, .fails cause] [])
    answers s [r, next] = [.failed (.io cause), .ok] ∧
      pieces (Sink.emitAll Sink.jsonLines s [r, next]).2.output
        = [(utf8 r.line).take count ++ utf8 next.line] := by
  intro s
  -- The first call uses up the script, so the second meets no fault.
  have hfirst := emit_of_cut s r rfl (write_cut hpos hcut hcause) nofun
  obtain ⟨calls, hwrite⟩ := write_all (utf8 next.line) ((utf8 r.line).take count) 2
  have hsecond : (s.emit r).2.emit next
      = (.ok, ⟨⟨[], [], (utf8 r.line).take count ++ utf8 next.line, calls, 1⟩, false⟩) := by
    rw [hfirst]
    exact emit_of_whole (.start ⟨[], [], (utf8 r.line).take count, 2, 0⟩) next rfl hwrite rfl
  refine ⟨?_, ?_⟩
  · rw [answers_cons, answers_cons, hsecond, hfirst]
    rfl
  · obtain ⟨body, hline, hbody⟩ := exists_utf8_line_eq r
    obtain ⟨body', hline', hbody'⟩ := exists_utf8_line_eq next
    have hfront := notMem_take hline hbody hcut
    have hall : 10 ∉ (utf8 r.line).take count ++ body' :=
      fun h => (List.mem_append.mp h).elim hfront hbody'
    have houtput : (Sink.emitAll Sink.jsonLines s [r, next]).2.output
        = (utf8 r.line).take count ++ utf8 next.line := by
      rw [emitAll_cons_snd, emitAll_cons_snd, hsecond]
      rfl
    rw [houtput, hline', ← List.append_assoc, pieces_append_break hall]
    rfl

/-- Two records, the first of which is to be cut after five bytes. -/
def cutThenWhole : List TaskRecord :=
  [.start "a-0" "h" 1, .start "a-1" "h" 1]

/-- A line that was accepted need not be a piece of the output. Its call answers well, and in the
output it stands behind what is left of the line before it, with no break between the two. -/
theorem lost_line :
    let s := JsonLines.start (.scripted [.upTo 5, .fails (.os 5)] [])
    answers s cutThenWhole = [.failed (.io (.os 5)), .ok] ∧
      ¬ (acceptedLines s cutThenWhole).Sublist
        (pieces (Sink.emitAll Sink.jsonLines s cutThenWhole).2.output) := by
  intro s
  have hcut : 5 < (utf8 (TaskRecord.start "a-0" "h" 1).line).length := by
    simp only [utf8, TaskRecord.line, String.toList_ofList]
    decide +kernel
  obtain ⟨hanswers, hpieces⟩ := pieces_of_cut_first (.start "a-0" "h" 1) (.start "a-1" "h" 1)
    (by decide) hcut (show (IoError.os 5).isInterrupted = false by decide)
  refine ⟨hanswers, fun hsublist => ?_⟩
  -- The second line is accepted, and yet it is no piece: five bytes stand in front of it.
  have haccepted : acceptedLines s cutThenWhole = [utf8 (TaskRecord.start "a-1" "h" 1).line] := by
    simp only [acceptedLines, cutThenWhole, s, hanswers]
    rfl
  rw [haccepted, cutThenWhole, hpieces, List.singleton_sublist, List.mem_singleton,
    List.self_eq_append_left, List.take_eq_nil_iff] at hsublist
  obtain h | h := hsublist
  · cases h
  · exact utf8_line_ne_nil _ h

end EchoBench.Proofs.Sink
