import EchoBench.Error
import EchoBench.Record

/-!
# `EchoBench.Sink`: where records go

A sink takes one record at a time and says how that ended. Its state goes from call to call, so
what a call does may depend on the calls before it. `Sink.memory` keeps the records; `Sink.traced`
notes the records with which another sink was called.
-/

set_option autoImplicit false

namespace EchoBench

/-- How a call ended. -/
inductive Outcome
  | ok
  | failed (error : EchoError)
  /-- The call stopped without an answer, and left a text. -/
  | crashed (text : String)
  deriving DecidableEq, Repr

/-- A place to which records go, with states of type `σ`. -/
structure Sink (σ : Type) where
  /-- Takes a record. -/
  emit : σ → TaskRecord → Outcome × σ

namespace Sink

/-- Keeps the records in the order in which they come. -/
def memory : Sink (List TaskRecord) where
  emit records r := (.ok, records ++ [r])

/-- Notes every record with which a sink was called, whatever came of it. -/
def traced {σ : Type} (sink : Sink σ) : Sink (σ × List TaskRecord) where
  emit s r :=
    let (outcome, state) := sink.emit s.1 r
    (outcome, state, s.2 ++ [r])

/-- Gives records to a sink in turn. The answers come in the same order. -/
def emitAll {σ : Type} (sink : Sink σ) : σ → List TaskRecord → List Outcome × σ
  | s, [] => ([], s)
  | s, r :: records =>
    let (outcome, s) := sink.emit s r
    let (outcomes, s) := emitAll sink s records
    (outcome :: outcomes, s)

/-- The last record is given to the sink that those before it left. -/
theorem emitAll_append {σ : Type} (sink : Sink σ) (s : σ) (records : List TaskRecord)
    (r : TaskRecord) :
    emitAll sink s (records ++ [r])
      = ((emitAll sink s records).1 ++ [(sink.emit (emitAll sink s records).2 r).1],
        (sink.emit (emitAll sink s records).2 r).2) := by
  induction records generalizing s with
  | nil => rfl
  | cons first records ih => simp only [List.cons_append, emitAll, ih]

end Sink

end EchoBench
