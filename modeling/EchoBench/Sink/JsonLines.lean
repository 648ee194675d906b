import EchoBench.Error
import EchoBench.Record.Line
import EchoBench.Sink
import EchoBench.Text.Character

/-!
# `EchoBench.Sink.JsonLines`: records as lines on a stream

The sink writes each record as a line and passes it on at once. It is used by many clients, and one
call at a time holds its writer. A call that crashes while it holds the writer leaves the sink
unusable: every later call fails without touching the writer. A call that merely fails does not.
-/

set_option autoImplicit false

namespace EchoBench

open EchoBench.Text (utf8)

/-! ### A stream that may take less than it is given

A writer answers each call as its script says, and takes everything once the script is used up. A
call may take only part of what it is given, so `writeAll` goes on with the rest: after a short
call, and again after one that was interrupted. It fails where nothing is taken.

What becomes of a call depends on how many bytes it is given and not on which, so `writeAll` is a
function on lengths.
-/

namespace Writer

/-- The answer to a call that gives bytes to a writer. -/
inductive WriteAnswer
  /-- Everything is taken. -/
  | all
  /-- At most so many bytes are taken. -/
  | upTo (count : Nat)
  | fails (cause : IoError)
  | crashes (text : String)
  deriving DecidableEq, Repr

/-- The answer to a call that asks a writer to pass on what it has. -/
inductive FlushAnswer
  | ok
  | fails (cause : IoError)
  | crashes (text : String)
  deriving DecidableEq, Repr

/-- How writing ended. -/
inductive Ending
  | done
  | failed (cause : IoError)
  | crashed (text : String)
  deriving DecidableEq, Repr

/-- What came of writing a number of bytes. -/
structure Progress where
  ending : Ending
  /-- How many bytes were taken. -/
  taken : Nat
  /-- How many calls that took. -/
  calls : Nat
  /-- The answers that are left. -/
  script : List WriteAnswer
  deriving DecidableEq, Repr

/-- What came of it, with a call in front that took some bytes. -/
def Progress.after (p : Progress) (taken : Nat) : Progress :=
  { p with taken := taken + p.taken, calls := p.calls + 1 }

/-- Writes a number of bytes, in as many calls as it takes. -/
def writeAll : List WriteAnswer → Nat → Progress
  | script, 0 => ⟨.done, 0, 0, script⟩
  | [], length => ⟨.done, length, 1, []⟩
  | answer :: script, length =>
    match answer with
    | .all => ⟨.done, length, 1, script⟩
    | .upTo count =>
      if min count length = 0 then ⟨.failed .nothingWritten, 0, 1, script⟩
      else (writeAll script (length - min count length)).after (min count length)
    | .fails cause =>
      if cause.isInterrupted then (writeAll script length).after 0
      else ⟨.failed cause, 0, 1, script⟩
    | .crashes text => ⟨.crashed text, 0, 1, script⟩

/-- No more bytes are taken than were given. -/
theorem taken_writeAll_le (script : List WriteAnswer) (length : Nat) :
    (writeAll script length).taken ≤ length := by
  fun_induction writeAll script length with
  | case5 script length hlength count hcount ih =>
    -- The bytes of this call, and at most those that were left.
    simp only [Progress.after]
    omega
  | case6 script length hlength cause hcause ih => simpa [Progress.after] using ih
  | _ => simp

/-- Writing is done exactly where every byte was taken. -/
theorem ending_writeAll_eq_done_iff (script : List WriteAnswer) (length : Nat) :
    (writeAll script length).ending = .done ↔ (writeAll script length).taken = length := by
  fun_induction writeAll script length with
  | case5 script length hlength count hcount ih =>
    have hrest := taken_writeAll_le script (length - min count length)
    simp only [Progress.after, ih]
    omega
  | case6 script length hlength cause hcause ih => simpa [Progress.after] using ih
  | _ => simp_all <;> omega

/-- Where there are bytes to write, at least one call is made. -/
theorem calls_writeAll_pos (script : List WriteAnswer) {length : Nat} (h : 0 < length) :
    0 < (writeAll script length).calls := by
  fun_cases writeAll script length with
  | case1 => exact absurd h (Nat.lt_irrefl 0)
  | _ => simp [Progress.after]

end Writer

/-- A writer with the answers that it will give and the bytes that it has taken. -/
structure Writer where
  /-- The answers to the next calls that give it bytes. -/
  writes : List Writer.WriteAnswer
  /-- The answers to the next calls that ask it to pass on what it has. -/
  flushes : List Writer.FlushAnswer
  /-- The bytes that it has taken. -/
  written : List UInt8
  /-- How many calls gave it bytes. -/
  writeCalls : Nat
  /-- How many calls asked it to pass on what it has. -/
  flushCalls : Nat
  deriving DecidableEq, Repr

namespace Writer

/-- A writer that has not been called yet. -/
def scripted (writes : List WriteAnswer) (flushes : List FlushAnswer) : Writer :=
  ⟨writes, flushes, [], 0, 0⟩

/-- Gives bytes to a writer. -/
def write (w : Writer) (bytes : List UInt8) : Ending × Writer :=
  let p := writeAll w.writes bytes.length
  (p.ending, { w with
    writes := p.script
    written := w.written ++ bytes.take p.taken
    writeCalls := w.writeCalls + p.calls })

/-- Asks a writer to pass on what it has. This is one call, and it is not made again. -/
def flush (w : Writer) : Ending × Writer :=
  let w' := { w with flushes := w.flushes.drop 1, flushCalls := w.flushCalls + 1 }
  match w.flushes with
  | [] | .ok :: _ => (.done, w')
  | .fails cause :: _ => (.failed cause, w')
  | .crashes text :: _ => (.crashed text, w')

end Writer

/-! ### The sink -/

/-- A writer that calls take in turn. -/
structure JsonLines where
  writer : Writer
  /-- A call crashed while it held the writer. -/
  poisoned : Bool
  deriving DecidableEq, Repr

namespace JsonLines

/-- A sink that has not been called yet. -/
def start (writer : Writer) : JsonLines :=
  ⟨writer, false⟩

/-- The bytes that the writer has taken. They can be had whatever became of the calls. -/
def output (s : JsonLines) : List UInt8 :=
  s.writer.written

/-- The failure of a call that comes after a crash. -/
def poisonedError : EchoError :=
  .internal "record writer lock poisoned"

/-- What a call answers, and the sink after it, where a step of it ended without being done. -/
def stopped (ending : Writer.Ending) (writer : Writer) : Outcome × JsonLines :=
  match ending with
  | .done => (.ok, ⟨writer, false⟩)
  | .failed cause => (.failed (.io cause), ⟨writer, false⟩)
  | .crashed text => (.crashed text, ⟨writer, true⟩)

/-- Writes a record as a line. -/
def emit (s : JsonLines) (r : TaskRecord) : Outcome × JsonLines :=
  if s.poisoned then (.failed poisonedError, s)
  else
    match s.writer.write (utf8 r.line) with
    | (.done, writer) =>
      let (ending, writer) := writer.flush
      stopped ending writer
    | (ending, writer) => stopped ending writer

end JsonLines

/-- Writes each record as a line. -/
def Sink.jsonLines : Sink JsonLines where
  emit := JsonLines.emit

end EchoBench
