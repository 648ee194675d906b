import EchoBench.Proofs.History
import EchoBench.Proofs.Sink.Accounting

/-!
# `EchoBench.Proofs.Sink.Poisoning`: what a crash leaves of a sink of lines

A call that crashes is the last one that comes to the writer. All later calls are refused, and leave
the sink as it was (`refused_of_crashed`). So no two calls crash (`CrashedOn.unique`).

The rest is for those who follow a sink from call to call. With one call more the calls before it
answer as they did, and leave what they left; and the new one crashes or does not
(`crashedOn_append_iff`). `ReachesOnce` says that no task has a second call that reaches the writer,
and it is kept by a call that is refused and by one that is the first for its task.
-/

set_option autoImplicit false

namespace EchoBench.Proofs.Sink

open EchoBench.Proofs.Record (utf8_line_ne_nil)

/-- A call reaches the writer where the writer is called for its line. -/
def ReachesWriter (s : JsonLines) (calls : List TaskRecord) (i : Nat) : Prop :=
  (sinkAfter s calls i).writer.writeCalls < (sinkAfter s calls (i + 1)).writer.writeCalls

/-- The call with a number had a record and crashed, and left a text. -/
def CrashedOn (s : JsonLines) (calls : List TaskRecord) (k : Nat) (r : TaskRecord)
    (text : String) : Prop :=
  calls[k]? = some r ∧ (answers s calls)[k]? = some (.crashed text)

/-- Of the calls that have the same task, only the first can reach the writer. -/
def ReachesOnce (s : JsonLines) (calls : List TaskRecord) : Prop :=
  ∀ j k r r', j < k → calls[j]? = some r → calls[k]? = some r' → ReachesWriter s calls k →
    r.taskId ≠ r'.taskId

section Calls

variable {s : JsonLines} {calls : List TaskRecord} {next r r' : TaskRecord} {i k k' : Nat}
  {text text' : String}

/-! ### Behind a crash -/

/-- A call reaches the writer exactly if no call before it crashed. Failures before it do not
matter, since they leave the lock as it is. -/
theorem reachesWriter_iff (hi : i < calls.length) :
    ReachesWriter s calls i ↔ (sinkAfter s calls i).poisoned = false := by
  obtain ⟨p, outcome, -, -, hpassed⟩ :=
    passed_getElem? (s := s) (List.getElem?_eq_getElem hi)
  exact hpassed.writeCalls_lt_iff (utf8_line_ne_nil _)

/-- Behind a call that crashed every call is refused, and leaves the sink as it was. -/
theorem refused_of_crashed {j : Nat} {text : String}
    (hcrash : (answers s calls)[i]? = some (.crashed text)) (hij : i < j)
    (hj : j < calls.length) :
    (answers s calls)[j]? = some (.failed JsonLines.poisonedError) ∧
      sinkAfter s calls (j + 1) = sinkAfter s calls j := by
  have hpoisoned : (sinkAfter s calls j).poisoned = true :=
    (poisoned_sinkAfter (Nat.le_of_lt hj)).mpr (.inr ⟨i, hij, text, hcrash⟩)
  obtain ⟨p, outcome, -, houtcome, hpassed⟩ :=
    passed_getElem? (s := s) (List.getElem?_eq_getElem hj)
  obtain ⟨rfl, hsame⟩ := hpassed.of_poisoned hpoisoned
  exact ⟨houtcome, hsame⟩

/-- The call that crashed is one of the calls. -/
theorem CrashedOn.lt_length (h : CrashedOn s calls k r text) : k < calls.length :=
  (List.getElem?_eq_some_iff.mp h.1).1

/-- After a crash the sink is unusable, and stays so: the calls that follow change nothing about it.
-/
theorem CrashedOn.poisoned (h : CrashedOn s calls k r text) :
    (sinkAfter s calls calls.length).poisoned = true :=
  (poisoned_sinkAfter (Nat.le_refl _)).mpr (.inr ⟨k, h.lt_length, text, h.2⟩)

/-- No two calls crash. The one that comes later would have to reach the writer, and the earlier one
has closed the way. -/
theorem CrashedOn.unique (h : CrashedOn s calls k r text) (h' : CrashedOn s calls k' r' text') :
    k = k' := by
  -- The earlier of the two would have the later one refused.
  rcases Nat.lt_trichotomy k k' with hlt | heq | hgt
  · obtain ⟨hrefused, -⟩ := refused_of_crashed h.2 hlt h'.lt_length
    simp [h'.2] at hrefused
  · exact heq
  · obtain ⟨hrefused, -⟩ := refused_of_crashed h'.2 hgt h.lt_length
    simp [h.2] at hrefused

/-! ### One more call -/

/-- The sink after all calls is the one that giving them in turn leaves. -/
theorem sinkAfter_length (s : JsonLines) (calls : List TaskRecord) :
    sinkAfter s calls calls.length = (Sink.emitAll Sink.jsonLines s calls).2 := by
  rw [sinkAfter, List.take_length]

/-- A call changes nothing of what the calls before it left, so facts about earlier moments survive
when the history grows. -/
theorem sinkAfter_append_of_le (r : TaskRecord) (hi : i ≤ calls.length) :
    sinkAfter s (calls ++ [r]) i = sinkAfter s calls i := by
  rw [sinkAfter, sinkAfter, List.take_append_of_le_length hi]

/-- One call more is made to the sink that the calls before it left. -/
theorem sinkAfter_append_length (s : JsonLines) (calls : List TaskRecord) (r : TaskRecord) :
    sinkAfter s (calls ++ [r]) (calls ++ [r]).length
      = ((sinkAfter s calls calls.length).emit r).2 := by
  rw [sinkAfter_length, Sink.emitAll_append, sinkAfter_length]
  rfl

/-- One call more adds one answer, that of the sink which the calls before it left. -/
theorem answers_append (s : JsonLines) (calls : List TaskRecord) (r : TaskRecord) :
    answers s (calls ++ [r])
      = answers s calls ++ [((sinkAfter s calls calls.length).emit r).1] := by
  rw [answers, Sink.emitAll_append, sinkAfter_length]
  rfl

/-- With one call more, the one that crashed is that call or one of those before it. -/
theorem crashedOn_append_iff :
    CrashedOn s (calls ++ [next]) k r text ↔
      CrashedOn s calls k r text ∨
        (k = calls.length ∧ next = r ∧
          ((sinkAfter s calls calls.length).emit next).1 = .crashed text) := by
  have hlength := length_answers s calls
  unfold CrashedOn
  -- Both the call and its answer are among those before, or both are the last.
  rw [answers_append, getElem?_append_singleton_iff, getElem?_append_singleton_iff, hlength]
  constructor
  · rintro ⟨hcall | ⟨rfl, rfl⟩, hanswer | ⟨hlast, hcrash⟩⟩
    · exact .inl ⟨hcall, hanswer⟩
    · -- A call before the last one has its answer before the last one.
      have hlt := (List.getElem?_eq_some_iff.mp hcall).1
      omega
    · have hlt := (List.getElem?_eq_some_iff.mp hanswer).1
      omega
    · exact .inr ⟨rfl, rfl, hcrash⟩
  · rintro (⟨hcall, hanswer⟩ | ⟨rfl, rfl, hcrash⟩)
    · exact ⟨.inl hcall, .inl hanswer⟩
    · exact ⟨.inr ⟨rfl, rfl⟩, .inr ⟨rfl, hcrash⟩⟩

/-- A crash stays where it was when more calls come: there is no second one, because the sink
refuses them before they reach the writer. -/
theorem CrashedOn.append (h : CrashedOn s calls k r text) (next : TaskRecord) :
    CrashedOn s (calls ++ [next]) k r text :=
  crashedOn_append_iff.mpr (.inl h)

/-- A call that is refused is no second one for any task, and nor is one for a new task. -/
theorem ReachesOnce.append (h : ReachesOnce s calls)
    (hnext : (sinkAfter s calls calls.length).poisoned = false →
      ∀ r ∈ calls, r.taskId ≠ next.taskId) :
    ReachesOnce s (calls ++ [next]) := by
  intro j k r r' hjk hj hk hreaches
  have hlt : k < (calls ++ [next]).length := (List.getElem?_eq_some_iff.mp hk).1
  have hle : k ≤ calls.length := by
    rw [List.length_append, List.length_singleton] at hlt
    exact Nat.le_of_lt_succ hlt
  have hopen : (sinkAfter s calls k).poisoned = false := by
    rw [← sinkAfter_append_of_le next hle]
    exact (reachesWriter_iff hlt).mp hreaches
  rw [List.getElem?_append_left (Nat.lt_of_lt_of_le hjk hle)] at hj
  obtain hold | ⟨rfl, rfl⟩ := getElem?_append_singleton_iff.mp hk
  · have hold' := (List.getElem?_eq_some_iff.mp hold).1
    exact h j k r r' hjk hj hold ((reachesWriter_iff hold').mpr hopen)
  · exact hnext hopen r (List.mem_of_getElem? hj)

end Calls

end EchoBench.Proofs.Sink
