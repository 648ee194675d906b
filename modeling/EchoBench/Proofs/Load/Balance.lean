import EchoBench.Proofs.Load.Emission
import EchoBench.Proofs.Load.Tally

/-!
# `EchoBench.Proofs.Load.Balance`: how the counts of a run fit together

Every client of a run is counted with one record, and every such record is balanced (`Balanced`). It
has one error, or it is that of a success. A success has all its messages answered, and a client
that got no connection has sent none. For each message without an answer there is an error. That is
so of the record of every ending (`Ending.Describes.balanced`), and of the one that is made of an
abort (`balanced_abortedRecord`).

The counts of a summary are sums over records. So what relates the counts of each record relates
their sums: `inBalance_observe` takes one record into account, `inBalance_foldl` a list of them. And
the summary of a run is that of its counted records, so that it is in balance
(`inBalance_of_result`).

The two figures of a summary are quotients of floats. A count that is not zero is not zero as a
float either (`ofNat_beq_zero`), so the guards in front of the divisions are enough: each figure is
a quotient by such a count, or it is zero because there was nothing to count (`IsQuotient`).
-/

set_option autoImplicit false

namespace EchoBench.Proofs.Load

open EchoBench.Config (LoadSettings)
open EchoBench.Load

/-- How the counts of a record fit together, for a client that had so many messages to send. -/
structure Balanced (messages : Nat) (r : TaskRecord) : Prop where
  /-- The client succeeded, or it left one error. -/
  one : r.succeeded.toNat + r.errors.length = 1
  connected_of_answered : 0 < r.received → r.connected = true
  /-- A client that succeeded has all its messages answered. -/
  complete : r.succeeded = true → r.received.toNat = messages
  received_le : r.received.toNat ≤ r.sent.toNat
  sent_le : r.sent.toNat ≤ r.connected.toNat * messages
  unanswered_le : r.sent.toNat ≤ r.received.toNat + r.errors.length

/-- How the counts of a summary fit together, for clients that each had so many messages to send. -/
structure InBalance (messages : Nat) (t : LoadSummary) : Prop where
  succeeded_add_errors : t.succeeded + t.errors = t.clients
  succeeded_le : t.succeeded ≤ t.connected
  connected_le : t.connected ≤ t.clients
  answered_le : t.answered ≤ t.connected
  complete_le : t.succeeded * messages ≤ t.received
  received_le : t.received ≤ t.sent
  sent_le : t.sent ≤ t.connected * messages
  unanswered_le : t.sent - t.received ≤ t.errors

/-- A figure is a quotient by a count that is not zero, as a number and as a float, or there was
nothing to count and the figure is zero. -/
def IsQuotient (figure dividend : Float) (count : Nat) : Prop :=
  (0 < count ∧ (Float.ofNat count == 0.0) = false ∧ figure = dividend / Float.ofNat count) ∨
    (count = 0 ∧ figure = 0.0)

/-! ### Records -/

section Records

variable {settings : LoadSettings} {r : TaskRecord}

/-- A client that succeeded was connected, since a success is asked for that as well. -/
theorem connected_of_succeeded (h : r.succeeded = true) : r.connected = true := by
  simp only [TaskRecord.succeeded, Bool.and_eq_true] at h
  exact h.1.1

/-- A client that was not connected has sent nothing, and none has sent more than it had to. -/
theorem Ending.Describes.connected_cases {e : Ending} (h : e.Describes settings r) :
    (r.connected = true ∧ r.sent.toNat ≤ settings.messages.toNat) ∨
      (r.connected = false ∧ r.sent = 0 ∧ r.received = 0) := by
  cases e with
  | dialFailed reason => exact .inr ⟨h.1, h.2.1, h.2.2.1⟩
  | complete => exact .inl ⟨h.1, by rw [h.2.1]⟩
  | sendFailed seq reason | closedEarly | receiveFailed reason =>
    simp only [Describes] at h
    exact .inl ⟨h.1, by omega⟩

/-- The record of an ending is balanced. The endings say how many messages were sent and answered,
so it is a check of each of the five. -/
theorem Ending.Describes.balanced {e : Ending} (h : e.Describes settings r) :
    Balanced settings.messages.toNat r where
  one := by
    -- Either there is no error and the client succeeded, or there is one and it did not.
    obtain ⟨-, herrors⟩ | ⟨-, error, herrors⟩ := h.errors_cases
    · simp [h.succeeded_iff.mpr herrors, herrors]
    · have hfailure : r.succeeded = false := by
        rw [Bool.eq_false_iff, ne_eq, h.succeeded_iff, herrors]
        exact List.cons_ne_nil _ _
      simp [hfailure, herrors]
  connected_of_answered hanswered := by
    obtain ⟨hconnected, -⟩ | ⟨-, -, hnone⟩ := h.connected_cases
    · exact hconnected
    · simp [hnone] at hanswered
  complete hsuccess := by
    have herrors := h.succeeded_iff.mp hsuccess
    obtain ⟨rfl, -⟩ | ⟨-, error, herror⟩ := h.errors_cases
    · rw [h.2.2.1]
    · simp [herrors] at herror
  received_le := h.sent_bounds.1
  sent_le := by
    obtain ⟨hconnected, hsent⟩ | ⟨hconnected, hsent, -⟩ := h.connected_cases
    · simpa [hconnected] using hsent
    · simp [hconnected, hsent]
  unanswered_le := by
    obtain ⟨rfl, -⟩ | ⟨-, error, herrors⟩ := h.errors_cases
    · simp [h.2.1, h.2.2.1]
    · simpa [herrors] using h.sent_bounds.2

/-- The record of an abort is balanced: it has one error and nothing else. -/
theorem balanced_abortedRecord (messages index : Nat) (reason : String) :
    Balanced messages (abortedRecord settings index reason) where
  one := rfl
  connected_of_answered := nofun
  complete := nofun
  received_le := Nat.le_refl 0
  sent_le := Nat.zero_le _
  unanswered_le := Nat.zero_le _

/-- The record with which a client is counted is balanced: its own record by the ending that it
describes, and that of an abort because it counts nothing at all. -/
theorem balanced_countedRecord {σ : Type} (plan : RunPlan σ) (s : σ) (schedule : List Move)
    (index : Nat) (hbody : IsOutcome plan.settings index (plan.body index)) :
    Balanced plan.settings.messages.toNat (countedRecord plan s schedule index) := by
  unfold countedRecord
  cases hcase : plan.body index with
  | crashed text => exact balanced_abortedRecord _ index _
  | returned record =>
    obtain ⟨e, he⟩ := hbody.exists_describes hcase
    -- Where the sink crashed, the record of the abort comes in the place of the client's own.
    cases hanswer : answerTo plan s schedule index record with
    | ok | failed error => simpa [hanswer] using he.balanced
    | crashed text => simpa [hanswer] using balanced_abortedRecord _ index _

end Records

/-! ### Summaries -/

section Summaries

variable {messages : Nat} {r : TaskRecord} {t : LoadSummary}

/-- A summary of no client is in balance: all its counters are zero. -/
theorem inBalance_empty : InBalance messages .empty := by
  constructor <;> simp [LoadSummary.empty]

/-- A balanced record keeps a summary in balance, since both sides of each equation and inequality
grow by what the record says. -/
theorem inBalance_observe (h : InBalance messages t) (hr : Balanced messages r) :
    InBalance messages (t.observe r) where
  succeeded_add_errors := by
    have hone := hr.one
    have hsum := h.succeeded_add_errors
    simp only [LoadSummary.observe]
    omega
  -- A record that succeeded was connected, so it counts on both sides.
  succeeded_le := by
    have hle : r.succeeded.toNat ≤ r.connected.toNat :=
      Bool.toNat_le_toNat fun hsuccess => connected_of_succeeded hsuccess
    exact Nat.add_le_add h.succeeded_le hle
  connected_le := Nat.add_le_add h.connected_le (Bool.toNat_le r.connected)
  answered_le := by
    have hle := h.answered_le
    simp only [LoadSummary.observe]
    split
    · next hanswered =>
      rw [hr.connected_of_answered hanswered]
      exact Nat.succ_le_succ hle
    · exact Nat.le_add_right_of_le hle
  -- A record that succeeded has an answer to each of the messages.
  complete_le := by
    have hle : r.succeeded.toNat * messages ≤ r.received.toNat := by
      cases hsuccess : r.succeeded with
      | true => simp [hr.complete hsuccess]
      | false => simp
    simp only [LoadSummary.observe, Nat.add_mul]
    exact Nat.add_le_add h.complete_le hle
  received_le := Nat.add_le_add h.received_le hr.received_le
  sent_le := by
    simp only [LoadSummary.observe, Nat.add_mul]
    exact Nat.add_le_add h.sent_le hr.sent_le
  unanswered_le := by
    have hle := hr.unanswered_le
    have hsum := h.unanswered_le
    simp only [LoadSummary.observe]
    omega

/-- Balanced records keep a summary in balance, however many they are, because each of the equations
and bounds is kept by one more of them. -/
theorem inBalance_foldl (records : List TaskRecord) (h : InBalance messages t)
    (hrecords : ∀ r ∈ records, Balanced messages r) :
    InBalance messages (records.foldl LoadSummary.observe t) := by
  induction records generalizing t with
  | nil => exact h
  | cons r records ih =>
    have hr : Balanced messages r := hrecords r List.mem_cons_self
    exact ih (inBalance_observe h hr) fun r' hr' => hrecords r' (List.mem_cons_of_mem _ hr')

/-- A summary in balance has a rate of answers from nothing to one. -/
theorem InBalance.rate_bounds (h : InBalance messages t) :
    0 ≤ (t.received : ℚ) / t.sent ∧ (t.received : ℚ) / t.sent ≤ 1 := by
  have hle : (t.received : ℚ) ≤ t.sent := by exact_mod_cast h.received_le
  exact ⟨by positivity, div_le_one_of_le₀ hle (by positivity)⟩

/-- The mean of the times never divides by zero: where no client had an answer it is zero without a
division. -/
theorem isQuotient_meanLatency (t : LoadSummary) :
    IsQuotient t.meanLatency t.latencySum t.answered := by
  unfold LoadSummary.meanLatency
  split
  · next hanswered => exact .inl ⟨hanswered, ofNat_beq_zero hanswered, rfl⟩
  · next hnone => exact .inr ⟨Nat.eq_zero_of_not_pos hnone, rfl⟩

/-- The rate of answers never divides by zero: where nothing was sent it is zero without a division.
-/
theorem isQuotient_deliveryRate (t : LoadSummary) :
    IsQuotient t.deliveryRate (Float.ofNat t.received) t.sent := by
  unfold LoadSummary.deliveryRate
  split
  · next hsent => exact .inl ⟨hsent, ofNat_beq_zero hsent, rfl⟩
  · next hnone => exact .inr ⟨Nat.eq_zero_of_not_pos hnone, rfl⟩

end Summaries

/-- The summary of a run counts each of its clients and is in balance, whatever the clients, the
sink and the schedule do. Neither the mean of its times nor its rate of answers is ever a quotient
by zero, and the rate is one of a part to its whole. -/
theorem inBalance_of_result {σ : Type} {plan : RunPlan σ} {s : σ} {schedule : List Move}
    {summary : LoadSummary}
    (hbodies : ∀ i < plan.settings.clients.toNat, IsOutcome plan.settings i (plan.body i))
    (h : ((LoadRun.start plan.settings s).play plan schedule).result? = some summary) :
    summary.clients = plan.settings.clients.toNat ∧
    InBalance plan.settings.messages.toNat summary ∧
    IsQuotient summary.meanLatency summary.latencySum summary.answered ∧
    IsQuotient summary.deliveryRate (Float.ofNat summary.received) summary.sent ∧
    0 ≤ (summary.received : ℚ) / summary.sent ∧ (summary.received : ℚ) / summary.sent ≤ 1 := by
  have hclients : summary.clients = plan.settings.clients.toNat := by
    obtain ⟨hcomplete, rfl⟩ := result?_eq_some_iff.mp h
    exact (clients_summary_play plan s schedule).trans (joined_of_isComplete plan hcomplete)
  -- The summary is a tally of balanced records, from an empty one on.
  have hbalance : InBalance plan.settings.messages.toNat summary := by
    rw [eq_tally_of_result h, tally]
    refine inBalance_foldl _ inBalance_empty ?_
    intro r hr
    obtain ⟨i, hi, rfl⟩ := List.mem_map.mp hr
    exact balanced_countedRecord plan s schedule i (hbodies i (List.mem_range.mp hi))
  exact ⟨hclients, hbalance, isQuotient_meanLatency summary, isQuotient_deliveryRate summary,
    hbalance.rate_bounds⟩

/-- The link of a client whose messages are all answered, each by one read of two bytes. It shows
that the balance is not only that of failures. -/
def obliging : Link Unit where
  dial s := (.connected, s)
  write s _ := (.done, s)
  read s _ := ((.data [111, 107], ⟨1500000⟩), s)

/-- Three clients with two messages each. The first has answers to both, the second finds nobody,
and the third crashes. The sink crashes at its first call. -/
def mixedPlan : RunPlan Nat where
  settings := { LoadSettings.default with clients := 3, messages := 2 }
  sink := ⟨fun calls _ => (if calls = 0 then .crashed "full" else .ok, calls + 1)⟩
  body
    | 0 => .ofClient
      (Client.run obliging { LoadSettings.default with clients := 3, messages := 2 } 0 ()).1
    | 1 => .ofClient
      (Client.run nobody { LoadSettings.default with clients := 3, messages := 2 } 1 ()).1
    | _ => .crashed "lost"
  label := toString

/-- In this schedule of `mixedPlan` the second client is the first to call the sink. So two clients
are counted as gone, and one as a success with both its answers. -/
theorem inBalance_of_result_mixed :
    let schedule : List Move := [.finish 1, .finish 2, .finish 0, .join, .join, .join]
    (∀ i < 3, IsOutcome mixedPlan.settings i (mixedPlan.body i)) ∧
    ∃ summary,
      ((LoadRun.start mixedPlan.settings 0).play mixedPlan schedule).result? = some summary ∧
      summary.clients = 3 ∧ InBalance 2 summary ∧ summary.succeeded = 1 ∧ summary.received = 2 ∧
      IsQuotient summary.meanLatency summary.latencySum 1 ∧
      IsQuotient summary.deliveryRate 2.0 2 ∧ (summary.received : ℚ) / summary.sent ≤ 1 := by
  intro schedule
  have hbodies : ∀ i < 3, IsOutcome mixedPlan.settings i (mixedPlan.body i) := by
    intro i hi
    obtain rfl | rfl | rfl : i = 0 ∨ i = 1 ∨ i = 2 := by omega
    · exact .talked obliging ()
    · exact .talked nobody ()
    · exact .crashed "lost"
  obtain ⟨summary, hresult, hsucceeded, hreceived, hsent, hanswered⟩ : ∃ summary,
      ((LoadRun.start mixedPlan.settings 0).play mixedPlan schedule).result? = some summary ∧
        summary.succeeded = 1 ∧ summary.received = 2 ∧ summary.sent = 2 ∧ summary.answered = 1 := by
    refine ⟨_, rfl, ?_, ?_, ?_, ?_⟩ <;> decide +kernel
  obtain ⟨hclients, hbalance, hmean, hdelivery, -, hrate⟩ :=
    @inBalance_of_result _ mixedPlan 0 schedule summary hbodies hresult
  have htwo : Float.ofNat 2 = 2.0 := by decide +kernel
  rw [hanswered] at hmean
  rw [hsent, hreceived, htwo] at hdelivery
  exact ⟨hbodies, summary, hresult, hclients, hbalance, hsucceeded, hreceived, hmean, hdelivery,
    hrate⟩

end EchoBench.Proofs.Load
