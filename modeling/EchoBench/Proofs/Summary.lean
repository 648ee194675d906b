import EchoBench.Summary
import Mathlib.Algebra.BigOperators.Group.List.Basic
import Mathlib.Data.List.Infix

/-!
# `EchoBench.Proofs.Summary`: counts do not depend on how records are grouped

The records of a run can be counted one after the other, or in groups whose summaries are merged two
at a time, in any order and any shape (`Grouping`). `counts_of_perm` says that the counts come out
the same.

All of a summary but its sum of times is `Counts`, and counts can be added. To observe a record is
to add what it counts for (`ofSummary_observe`), and to merge a summary is to add its counts
(`ofSummary_merge`). So every grouping comes to the sum over its records (`ofSummary_summary`), and
such a sum does not depend on their order. The sum of times is left out because sums of floats may
neither be reordered nor be reassociated.

Counts have no greatest value here. A machine keeps each in a word; `within_onTheWay` says that no
count on the way is greater than the one at the end, so words that hold the totals hold all the
rest.
-/

set_option autoImplicit false

namespace EchoBench.Proofs.Summary

/-- What a summary counts: all of it but its sum of times. -/
@[ext]
structure Counts where
  clients : Nat
  connected : Nat
  succeeded : Nat
  sent : Nat
  received : Nat
  errors : Nat
  answered : Nat
  deriving DecidableEq, Repr

namespace Counts

/-- The counts of a summary. -/
def ofSummary (t : LoadSummary) : Counts :=
  ⟨t.clients, t.connected, t.succeeded, t.sent, t.received, t.errors, t.answered⟩

/-- What a record counts for. -/
def ofRecord (r : TaskRecord) : Counts where
  clients := 1
  connected := r.connected.toNat
  succeeded := r.succeeded.toNat
  sent := r.sent.toNat
  received := r.received.toNat
  errors := r.errors.length
  answered := if 0 < r.received then 1 else 0

/-- Nothing has been counted. -/
instance : Zero Counts :=
  ⟨⟨0, 0, 0, 0, 0, 0, 0⟩⟩

/-- Counts are added counter by counter. -/
instance : Add Counts :=
  ⟨fun a b => ⟨a.clients + b.clients, a.connected + b.connected, a.succeeded + b.succeeded,
    a.sent + b.sent, a.received + b.received, a.errors + b.errors, a.answered + b.answered⟩⟩

/-- Counters do not care for order or grouping. The laws are those of the natural numbers, once for
each counter, and give `counts_of_perm` its permutations and its trees. -/
instance : AddCommMonoid Counts where
  add_assoc a b c := by ext <;> exact Nat.add_assoc _ _ _
  add_comm a b := by ext <;> exact Nat.add_comm _ _
  zero_add a := by ext <;> exact Nat.zero_add _
  add_zero a := by ext <;> exact Nat.add_zero _
  nsmul := nsmulRec

/-- No count is greater than the other's. -/
structure Within (a b : Counts) : Prop where
  clients : a.clients ≤ b.clients
  connected : a.connected ≤ b.connected
  succeeded : a.succeeded ≤ b.succeeded
  sent : a.sent ≤ b.sent
  received : a.received ≤ b.received
  errors : a.errors ≤ b.errors
  answered : a.answered ≤ b.answered

/-- A count is within itself. -/
theorem Within.refl (a : Counts) : a.Within a := by
  constructor <;> exact le_rfl

/-- A part is within the whole. -/
theorem within_add_right (a b : Counts) : a.Within (a + b) := by
  constructor <;> exact Nat.le_add_right _ _

/-- So is the other part. -/
theorem within_add_left (a b : Counts) : b.Within (a + b) := by
  rw [add_comm]
  exact within_add_right b a

/-- What is within a part is within the whole. -/
theorem Within.trans {a b c : Counts} (h : a.Within b) (h' : b.Within c) : a.Within c where
  clients := h.clients.trans h'.clients
  connected := h.connected.trans h'.connected
  succeeded := h.succeeded.trans h'.succeeded
  sent := h.sent.trans h'.sent
  received := h.received.trans h'.received
  errors := h.errors.trans h'.errors
  answered := h.answered.trans h'.answered

/-! ### The two ways to count -/

section Summaries

variable (s t : LoadSummary) (r : TaskRecord)

/-- The empty summary has counted nothing. -/
@[simp] theorem ofSummary_empty : ofSummary .empty = 0 := rfl

/-- To observe a record is to add what it counts for. -/
@[simp] theorem ofSummary_observe : ofSummary (t.observe r) = ofSummary t + ofRecord r := by
  have hanswered : (t.observe r).answered = t.answered + (ofRecord r).answered := by
    simp only [LoadSummary.observe, ofRecord]
    split <;> rfl
  ext
  case answered => exact hanswered
  all_goals rfl

/-- To merge a summary is to add its counts. -/
@[simp] theorem ofSummary_merge : ofSummary (s.merge t) = ofSummary s + ofSummary t := rfl

/-- To observe records one after the other is to add what they count for. -/
theorem ofSummary_foldl (records : List TaskRecord) :
    ofSummary (records.foldl .observe t) = ofSummary t + (records.map ofRecord).sum := by
  induction records generalizing t with
  | nil => exact (add_zero _).symm
  | cons r records ih =>
    rw [List.foldl_cons, ih, ofSummary_observe, List.map_cons, List.sum_cons, add_assoc]

end Summaries

end Counts

/-! ### Groups -/

/-- Records in groups, of which two at a time are put together. Its shape is any binary tree, so
every way to merge partial summaries is one of these. -/
inductive Grouping
  /-- Some records, or none. -/
  | group (records : List TaskRecord)
  /-- Two groupings that have been put together. -/
  | merged (left right : Grouping)
  deriving Repr

namespace Grouping

/-- All records, from the first group to the last. -/
def records : Grouping → List TaskRecord
  | group records => records
  | merged left right => left.records ++ right.records

/-- The summary to which a grouping comes: the records of a group are observed, and the summaries of
two groupings are merged. -/
def summary : Grouping → LoadSummary
  | group records => records.foldl .observe .empty
  | merged left right => left.summary.merge right.summary

/-- All summaries on the way there, with the last one. A statement about overflow has to be made for
each of these and not for the result only. -/
def onTheWay : Grouping → List LoadSummary
  | group records => records.inits.map fun first => first.foldl .observe .empty
  | merged left right => left.onTheWay ++ right.onTheWay ++ [left.summary.merge right.summary]

open Counts

/-- A grouping comes to the sum over its records, whatever its shape. Counts are a commutative
monoid, and so order and grouping are facts of the sum and not of merging. -/
theorem ofSummary_summary (g : Grouping) : ofSummary g.summary = (g.records.map ofRecord).sum := by
  induction g with
  | group records =>
    show ofSummary (records.foldl .observe .empty) = _
    rw [ofSummary_foldl, ofSummary_empty, zero_add]
    rfl
  | merged left right ihleft ihright =>
    show ofSummary (left.summary.merge right.summary)
      = ((left.records ++ right.records).map ofRecord).sum
    rw [ofSummary_merge, ihleft, ihright, List.map_append, List.sum_append]

/-- No count on the way is greater than the one at the end, since nothing is ever taken off. So a
run whose last counts fit their words overflows nowhere before. -/
theorem within_onTheWay (g : Grouping) :
    ∀ t ∈ g.onTheWay, (ofSummary t).Within (ofSummary g.summary) := by
  induction g with
  | group records =>
    -- On the way are the summaries of the first records, and the others are still to be added.
    intro t ht
    obtain ⟨first, hfirst, rfl⟩ := List.mem_map.mp ht
    obtain ⟨rest, rfl⟩ := (List.mem_inits _ _).mp hfirst
    show (ofSummary (first.foldl .observe .empty)).Within
      (ofSummary ((first ++ rest).foldl .observe .empty))
    rw [List.foldl_append, ofSummary_foldl (first.foldl .observe .empty) rest]
    exact within_add_right _ _
  | merged left right ihleft ihright =>
    -- What is on the way on either side is within that side, and each side is within the merge.
    intro t ht
    show (ofSummary t).Within (ofSummary (left.summary.merge right.summary))
    rw [ofSummary_merge]
    rcases List.mem_append.mp ht with hparts | hlast
    · rcases List.mem_append.mp hparts with hleft | hright
      · exact (ihleft t hleft).trans (within_add_right _ _)
      · exact (ihright t hright).trans (within_add_left _ _)
    · rw [List.mem_singleton.mp hlast]
      exact Within.refl _

end Grouping

open Counts

/-- Records in any order, cut into groups in any way, with the summaries of the groups merged in any
shape, are counted as they are one after the other. No count on the way there is greater than it is
at the end, so none overflows where the totals do not. -/
theorem counts_of_perm {g : Grouping} {records : List TaskRecord} (h : records.Perm g.records) :
    let total := ofSummary (records.foldl .observe .empty)
    ofSummary g.summary = total ∧ ∀ t ∈ g.onTheWay, (ofSummary t).Within total := by
  intro total
  have htotal : ofSummary g.summary = total := by
    calc ofSummary g.summary
        = (g.records.map ofRecord).sum := g.ofSummary_summary
      _ = (records.map ofRecord).sum := (h.map ofRecord).sum_eq.symm
      _ = 0 + (records.map ofRecord).sum := (zero_add _).symm
      _ = total := (ofSummary_foldl .empty records).symm
  exact ⟨htotal, fun t ht => htotal ▸ g.within_onTheWay t ht⟩

/-- Three records, one of a success, one of a client without a connection and one of a client
without an answer. The last stands first, in a group behind an empty one. -/
theorem counts_of_perm_threeRecords :
    let a := { TaskRecord.start "a" "h" 1 with connected := true, sent := 2, received := 2 }
    let b := { TaskRecord.start "b" "h" 1 with errors := ["refused"] }
    let c := { TaskRecord.start "c" "h" 1 with connected := true, sent := 1, errors := ["closed"] }
    let g : Grouping := .merged (.merged (.group []) (.group [c])) (.group [a, b])
    [a, b, c].Perm g.records ∧
    ofSummary g.summary = ofSummary ([a, b, c].foldl .observe .empty) ∧
    ofSummary g.summary = ⟨3, 2, 1, 3, 2, 2, 1⟩ ∧
    ∀ t ∈ g.onTheWay, (ofSummary t).sent ≤ 3 := by
  intro a b c g
  have hperm : [a, b, c].Perm g.records := @List.perm_append_comm _ [a, b] [c]
  obtain ⟨htotal, hway⟩ := counts_of_perm hperm
  exact ⟨hperm, htotal, by decide +kernel, fun t ht => (hway t ht).sent⟩

end EchoBench.Proofs.Summary
