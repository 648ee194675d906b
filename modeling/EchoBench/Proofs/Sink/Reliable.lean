import EchoBench.Proofs.Sink.Framing

/-!
# `EchoBench.Proofs.Sink.Reliable`: a writer that never fails

A writer may take a line in pieces and may have itself called again, and still every line gets
through. `NeverFails` says this of its answers: each of them takes at least a byte or asks for the
same call once more, and whatever it is asked to pass on is passed on. Then writing comes to the end
of its bytes, whatever their number (`writeAll_of_goesOn`). So a sink with such a writer
accepts every record, adds its line to the output and nothing else, and goes on with such a writer
(`emit_of_reliable`).

Cut after each line break, lines written one after the other are found again (`pieces_lines`).
-/

set_option autoImplicit false

namespace EchoBench.Proofs.Sink

open EchoBench.Proofs.Record (exists_utf8_line_eq)
open EchoBench.Text (utf8)

/-! ### Writers -/

/-- An answer with which writing goes on: bytes are taken, or the call is to be made again. -/
def GoesOn : Writer.WriteAnswer → Prop
  | .all => True
  | .upTo count => 0 < count
  | .fails cause => cause.isInterrupted = true
  | .crashes _ => False

/-- A writer that takes everything in the end, and passes it on whenever it is asked to. -/
structure NeverFails (w : Writer) : Prop where
  writes : ∀ answer ∈ w.writes, GoesOn answer
  flushes : ∀ answer ∈ w.flushes, answer = .ok

section Writers

variable {w : Writer}

/-- With answers that go on, writing is done, and the answers that are left go on as well. -/
theorem writeAll_of_goesOn (script : List Writer.WriteAnswer) (length : Nat)
    (h : ∀ answer ∈ script, GoesOn answer) :
    (Writer.writeAll script length).ending = .done ∧
      ∀ answer ∈ (Writer.writeAll script length).script, GoesOn answer := by
  fun_induction Writer.writeAll script length with
  | case1 script => exact ⟨rfl, h⟩
  | case2 length hlength => exact ⟨rfl, h⟩
  | case3 script length hlength => exact ⟨rfl, (List.forall_mem_cons.mp h).2⟩
  | case4 script length hlength count hnone =>
    -- Nothing is taken only where a call gives no bytes, or is to take none.
    have hpos : 0 < count := (List.forall_mem_cons.mp h).1
    have hlength : 0 < length := Nat.pos_of_ne_zero fun heq => hlength heq
    omega
  | case5 script length hlength count hsome ih => exact ih (List.forall_mem_cons.mp h).2
  | case6 script length hlength cause hinterrupted ih => exact ih (List.forall_mem_cons.mp h).2
  | case7 script length hlength cause hfailed =>
    exact absurd (List.forall_mem_cons.mp h).1 hfailed
  | case8 script length hlength text => exact absurd (List.forall_mem_cons.mp h).1 id

/-- A writer that never fails takes all the bytes that it is given. -/
theorem write_of_neverFails (h : NeverFails w) (bytes : List UInt8) :
    ∃ w', w.write bytes = (.done, w') ∧ NeverFails w' := by
  obtain ⟨hdone, hscript⟩ := writeAll_of_goesOn w.writes bytes.length h.writes
  refine ⟨(w.write bytes).2, Prod.ext hdone rfl, ?_⟩
  exact { writes := hscript, flushes := h.flushes }

/-- A writer that never fails passes on what it has, and stays one that never fails. -/
theorem flush_of_neverFails (h : NeverFails w) :
    ∃ w', w.flush = (.done, w') ∧ NeverFails w' := by
  have hflush : w.flush = (.done,
      { w with flushes := w.flushes.drop 1, flushCalls := w.flushCalls + 1 }) := by
    unfold Writer.flush
    cases hflushes : w.flushes with
    | nil => rfl
    | cons answer flushes =>
      obtain rfl : answer = .ok := h.flushes answer (hflushes ▸ List.mem_cons_self)
      rfl
  refine ⟨_, hflush, { writes := h.writes, flushes := ?_ }⟩
  intro answer hanswer
  exact h.flushes answer (List.mem_of_mem_drop hanswer)

end Writers

/-! ### Lines -/

/-- A sink that no call has made unusable, with a writer that never fails. -/
structure Reliable (s : JsonLines) : Prop where
  opened : s.poisoned = false
  writer : NeverFails s.writer

/-- A call of such a sink adds the whole line, and leaves such a sink. -/
theorem emit_of_reliable {s : JsonLines} (h : Reliable s) (r : TaskRecord) :
    (s.emit r).1 = .ok ∧ Reliable (s.emit r).2 ∧ (s.emit r).2.output = s.output ++ utf8 r.line := by
  obtain ⟨full, hwrite, hfull⟩ := write_of_neverFails h.writer (utf8 r.line)
  obtain ⟨after, hflush, hafter⟩ := flush_of_neverFails hfull
  have hemit : s.emit r = (.ok, ⟨after, false⟩) := emit_of_whole s r h.opened hwrite hflush
  have houtput := (passed_emit s r).output
  have hpassed := passed_emit s r
  rw [hemit] at hpassed houtput ⊢
  rw [hpassed.part_of_ok] at houtput
  exact ⟨rfl, ⟨rfl, hafter⟩, houtput⟩

/-- Lines that are written one after the other are cut apart again at their breaks, with nothing
left over behind the last, because no line has a break inside of it. -/
theorem pieces_lines (records : List TaskRecord) :
    pieces (records.flatMap fun r => utf8 r.line) = records.map fun r => utf8 r.line := by
  induction records with
  | nil => rfl
  | cons r records ih =>
    obtain ⟨body, hline, hbody⟩ := exists_utf8_line_eq r
    rw [List.flatMap_cons, List.map_cons, ← ih, hline, List.append_assoc, List.singleton_append]
    exact pieces_append_break hbody _

end EchoBench.Proofs.Sink
