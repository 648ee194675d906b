import EchoBench.Load.Client
import Mathlib.Logic.ExistsUnique

/-!
# `EchoBench.Proofs.Load.Ending`: how a client ends

A client ends with a record unless it is connected and its buffer cannot be had. The record is that
of one `Ending`, and of no other: `ending_of_run` says so for every link, which may answer each call
as it likes.

`Talking` is the invariant behind it. It ties the counters of the record to the stage of a connected
client: a client that is about to send message `k` has sent and received `k - 1` messages, one that
waits for the answer has sent one more, and neither has an error. `talking_wrote` and
`talking_received` show that an answer keeps it, and `runFor_induction` takes what every call keeps
to a whole conversation. A conversation is never cut off by its number of calls: `callsLeft` falls
with every call (`callsLeft_advance_lt`), and starts at `Client.callsNeeded`.
-/

set_option autoImplicit false

namespace EchoBench.Proofs.Load

open EchoBench.Config (LoadSettings)
open EchoBench.Load
open EchoBench.Net

/-- The ways in which a client ends with a record, with the text behind its error where that
depends on the cause. -/
inductive Ending
  /-- There was no connection. -/
  | dialFailed (reason : String)
  /-- Every message was sent and answered. -/
  | complete
  /-- The message with a number could not be sent. -/
  | sendFailed (seq : Nat) (reason : String)
  /-- The stream ended where an answer was due. -/
  | closedEarly
  /-- An answer could not be read. -/
  | receiveFailed (reason : String)
  deriving DecidableEq, Repr

/-- The record of a client that ended in some way. -/
def Ending.Describes (settings : LoadSettings) (r : TaskRecord) : Ending → Prop
  | .dialFailed reason =>
    r.connected = false ∧ r.sent = 0 ∧ r.received = 0 ∧ r.errors = ["Connection failed: " ++ reason]
  | .complete =>
    r.connected = true ∧ r.sent = settings.messages ∧ r.received = settings.messages ∧ r.errors = []
  | .sendFailed seq reason =>
    r.connected = true ∧ 1 ≤ seq ∧ seq ≤ settings.messages.toNat ∧
      r.sent.toNat = seq - 1 ∧ r.received.toNat = seq - 1 ∧
      r.errors = ["Error sending message " ++ toString seq ++ ": " ++ reason]
  | .closedEarly =>
    r.connected = true ∧ 1 ≤ r.sent.toNat ∧ r.sent.toNat ≤ settings.messages.toNat ∧
      r.received.toNat = r.sent.toNat - 1 ∧ r.errors = [prematureClose]
  | .receiveFailed reason =>
    r.connected = true ∧ 1 ≤ r.sent.toNat ∧ r.sent.toNat ≤ settings.messages.toNat ∧
      r.received.toNat = r.sent.toNat - 1 ∧
      r.errors =
        ["Error receiving response for message " ++ toString r.sent.toNat ++ ": " ++ reason]

namespace Ending

variable {settings : LoadSettings} {r : TaskRecord}

/-- The two errors of a missing answer are told apart by their first letter. -/
theorem prematureClose_ne_receiveError (seq reason : String) :
    prematureClose ≠ "Error receiving response for message " ++ seq ++ ": " ++ reason := by
  intro h
  have hchars := congrArg String.toList h
  simp [prematureClose, String.toList_append] at hchars

/-- A record is that of one ending only. The endings differ in whether there was a connection, in
the counters, or in the text of the one error, and the texts begin differently. -/
theorem Describes.unique {a b : Ending} (ha : a.Describes settings r)
    (hb : b.Describes settings r) : a = b := by
  -- The flag and the counters tell endings apart, except for the two of a missing answer, which have
  -- different errors.
  cases a with
  | dialFailed reason =>
    cases b with
    | dialFailed reason' => simp_all [Describes]
    | _ => simp_all [Describes]
  | complete => cases b <;> simp_all [Describes]
  | sendFailed seq reason =>
    cases b with
    | sendFailed seq' reason' =>
      simp only [Describes] at ha hb
      obtain rfl : seq = seq' := by omega
      simp_all
    | closedEarly => simp only [Describes] at ha hb; omega
    | receiveFailed reason' => simp only [Describes] at ha hb; omega
    | _ => simp_all [Describes]
  | closedEarly =>
    cases b with
    | closedEarly => rfl
    | sendFailed seq' reason' => simp only [Describes] at ha hb; omega
    | receiveFailed reason' =>
      simp only [Describes] at ha hb
      have htext := ha.2.2.2.2.symm.trans hb.2.2.2.2
      exact absurd (List.cons.inj htext).1 (prematureClose_ne_receiveError _ _)
    | _ => simp_all [Describes]
  | receiveFailed reason =>
    cases b with
    | receiveFailed reason' => simp_all [Describes]
    | sendFailed seq' reason' => simp only [Describes] at ha hb; omega
    | closedEarly =>
      simp only [Describes] at ha hb
      have htext := hb.2.2.2.2.symm.trans ha.2.2.2.2
      exact absurd (List.cons.inj htext).1 (prematureClose_ne_receiveError _ _)
    | _ => simp_all [Describes]

/-- At most one message of a record had no answer, since a client sends the next message only after
a read. It is read off the five ways in which a client can end. -/
theorem Describes.sent_bounds {e : Ending} (h : e.Describes settings r) :
    r.received.toNat ≤ r.sent.toNat ∧ r.sent.toNat ≤ r.received.toNat + 1 := by
  cases e with
  | dialFailed reason | complete =>
    obtain ⟨-, hsent, hreceived, -⟩ := h
    rw [hsent, hreceived]
    omega
  | sendFailed seq reason | closedEarly | receiveFailed reason =>
    simp only [Describes] at h
    omega

/-- A record has one error, or none where its client did all it was asked to do. -/
theorem Describes.errors_cases {e : Ending} (h : e.Describes settings r) :
    (e = .complete ∧ r.errors = []) ∨ (e ≠ .complete ∧ ∃ error, r.errors = [error]) := by
  cases e with
  | complete => exact Or.inl ⟨rfl, h.2.2.2⟩
  | dialFailed reason => exact Or.inr ⟨nofun, _, h.2.2.2⟩
  | sendFailed seq reason => exact Or.inr ⟨nofun, _, h.2.2.2.2.2⟩
  | closedEarly => exact Or.inr ⟨nofun, _, h.2.2.2.2⟩
  | receiveFailed reason => exact Or.inr ⟨nofun, _, h.2.2.2.2⟩

/-- A client succeeded where its record has no error: the other conditions of success follow. -/
theorem Describes.succeeded_iff {e : Ending} (h : e.Describes settings r) :
    r.succeeded = true ↔ r.errors = [] := by
  constructor
  · intro hs
    simp_all [TaskRecord.succeeded]
  · intro hnone
    obtain ⟨rfl, -⟩ | ⟨-, error, herror⟩ := h.errors_cases
    · obtain ⟨hconnected, hsent, hreceived, -⟩ := h
      simp [TaskRecord.succeeded, hconnected, hsent, hreceived, hnone]
    · simp [hnone] at herror

end Ending

/-! ### What a connected client keeps -/

/-- The counters of a connected client that can have its buffer, by stage. A client that has
finished has the record of some ending. -/
def Talking (settings : LoadSettings) (c : Client) : Prop :=
  c.record.connected = true ∧
    match c.stage with
    | .sending seq =>
      1 ≤ seq ∧ seq ≤ settings.messages.toNat ∧ c.record.sent.toNat = seq - 1 ∧
        c.record.received.toNat = seq - 1 ∧ c.record.errors = []
    | .waiting seq =>
      1 ≤ seq ∧ seq ≤ settings.messages.toNat ∧ c.record.sent.toNat = seq ∧
        c.record.received.toNat = seq - 1 ∧ c.record.errors = []
    | .finished =>
      c.record.averageMs = c.record.average ∧
        ∃ e : Ending, e.Describes settings c.record
    | .dialing | .crashed _ => False

section Calls

variable {settings : LoadSettings} {c : Client}

/-- What `Talking` says of a client that is about to send: the messages before have been sent and
answered, and nothing went wrong. The counters are behind the number by one. -/
theorem Talking.of_sending {seq : Nat} (h : Talking settings c) (hstage : c.stage = .sending seq) :
    1 ≤ seq ∧ seq ≤ settings.messages.toNat ∧ c.record.sent.toNat = seq - 1 ∧
      c.record.received.toNat = seq - 1 ∧ c.record.errors = [] := by
  obtain ⟨-, h⟩ := h
  rwa [hstage] at h

/-- What `Talking` says of a client that waits: its message is sent, the one before it was answered.
-/
theorem Talking.of_waiting {seq : Nat} (h : Talking settings c) (hstage : c.stage = .waiting seq) :
    1 ≤ seq ∧ seq ≤ settings.messages.toNat ∧ c.record.sent.toNat = seq ∧
      c.record.received.toNat = seq - 1 ∧ c.record.errors = [] := by
  obtain ⟨-, h⟩ := h
  rwa [hstage] at h

/-- What `Talking` says of a client that has finished: its record is closed, with the average
computed, and has one of the endings. -/
theorem Talking.of_finished (h : Talking settings c) (hstage : c.stage = .finished) :
    c.record.averageMs = c.record.average ∧ ∃ e : Ending, e.Describes settings c.record := by
  obtain ⟨-, h⟩ := h
  rwa [hstage] at h

/-- At most one message of a connected client has no answer, at any moment: the one that it is
waiting for. -/
theorem Talking.sent_le (h : Talking settings c) :
    c.record.sent.toNat ≤ c.record.received.toNat + 1 := by
  cases hstage : c.stage with
  | sending seq => have := h.of_sending hstage; omega
  | waiting seq => have := h.of_waiting hstage; omega
  | finished =>
    obtain ⟨-, e, he⟩ := h.of_finished hstage
    exact he.sent_bounds.2
  | dialing | crashed text => rw [Talking, hstage] at h; exact h.2.elim

/-- A counter that is below a number of messages can be raised by one. -/
theorem toNat_succ {n : UInt64} {m : UInt64} (h : n.toNat < m.toNat) :
    (n + 1).toNat = n.toNat + 1 := by
  have hm := m.toNat_lt
  rw [UInt64.toNat_add]
  exact Nat.mod_eq_of_lt (by simp; omega)

/-- A client that has the answers to all messages before `seq` goes on to `seq` or is complete. -/
theorem talking_goOn {seq : Nat} (hconnected : c.record.connected = true) (hseq : 1 ≤ seq)
    (hmessages : seq ≤ settings.messages.toNat + 1) (hsent : c.record.sent.toNat = seq - 1)
    (hreceived : c.record.received.toNat = seq - 1) (herrors : c.record.errors = []) :
    Talking settings (c.goOn settings seq) := by
  unfold Client.goOn
  split
  · exact ⟨hconnected, hseq, ‹_›, hsent, hreceived, herrors⟩
  · -- No message is left, so the counters are at the number of messages.
    refine ⟨hconnected, rfl, .complete, hconnected, ?_, ?_, herrors⟩
    · exact UInt64.toNat_inj.mp (show c.record.sent.toNat = _ by omega)
    · exact UInt64.toNat_inj.mp (show c.record.received.toNat = _ by omega)

/-- The answer to writing a message keeps `Talking`: the message is counted and waited for, or the
conversation ends with the error that names its number. -/
theorem talking_wrote {seq : Nat} (hstage : c.stage = .sending seq) (h : Talking settings c)
    (answer : WriteAnswer) : Talking settings (c.wrote seq answer) := by
  have hconnected := h.1
  obtain ⟨hseq, hmessages, hsent, hreceived, herrors⟩ := h.of_sending hstage
  cases answer with
  | done =>
    have hlt : c.record.sent.toNat < settings.messages.toNat := by omega
    refine ⟨hconnected, hseq, hmessages, ?_, hreceived, herrors⟩
    change (c.record.sent + 1).toNat = seq
    rw [toNat_succ hlt]
    omega
  | failed written cause =>
    refine ⟨hconnected, rfl, .sendFailed seq cause.message, hconnected, hseq, hmessages, hsent,
      hreceived, ?_⟩
    simp [Client.wrote, Client.fail, TaskRecord.addError, TaskRecord.finish, herrors]
  | expired written =>
    refine ⟨hconnected, rfl, .sendFailed seq Client.deadlineText, hconnected, hseq, hmessages,
      hsent, hreceived, ?_⟩
    simp [Client.wrote, Client.fail, TaskRecord.addError, TaskRecord.finish, herrors]

/-- The answer to the read after a message keeps `Talking`. A reply leads on to the next message or
closes the record behind the last one, and any other answer closes it with an error. -/
theorem talking_received {seq : Nat} (hstage : c.stage = .waiting seq) (h : Talking settings c)
    (latency : Span) (answer : ReadAnswer) :
    Talking settings (c.received settings seq latency answer) := by
  have hconnected := h.1
  obtain ⟨hseq, hmessages, hsent, hreceived, herrors⟩ := h.of_waiting hstage
  have hone : 1 ≤ c.record.sent.toNat := by omega
  have hle : c.record.sent.toNat ≤ settings.messages.toNat := by omega
  have hmissing : c.record.received.toNat = c.record.sent.toNat - 1 := by omega
  cases answer with
  | data bytes =>
    cases bytes with
    | nil =>
      refine ⟨hconnected, rfl, .closedEarly, hconnected, hone, hle, hmissing, ?_⟩
      simp [Client.received, Client.fail, TaskRecord.addError, TaskRecord.finish, herrors]
    | cons b bytes =>
      have hlt : c.record.received.toNat < settings.messages.toNat := by omega
      -- The answer is counted before the client goes on to the next message.
      refine talking_goOn hconnected (by omega) (by omega) hsent ?_ herrors
      change (c.record.received + 1).toNat = seq + 1 - 1
      rw [toNat_succ hlt]
      omega
  | failed cause =>
    refine ⟨hconnected, rfl, .receiveFailed cause.message, hconnected, hone, hle, hmissing, ?_⟩
    simp [Client.received, Client.fail, TaskRecord.addError, TaskRecord.finish, herrors, hsent]
  | expired =>
    refine ⟨hconnected, rfl, .receiveFailed Client.deadlineText, hconnected, hone, hle, hmissing,
      ?_⟩
    simp [Client.received, Client.fail, TaskRecord.addError, TaskRecord.finish, herrors, hsent]

/-! ### Whole conversations -/

/-- The calls that a client still has to make, at most: two for each message, less one where the
write has been made. It goes down in every step, so it serves as the fuel of a conversation. -/
def callsLeft (settings : LoadSettings) (c : Client) : Nat :=
  match c.stage with
  | .dialing => Client.callsNeeded settings
  | .sending seq => 2 * (settings.messages.toNat + 1 - seq)
  | .waiting seq => 2 * (settings.messages.toNat + 1 - seq) - 1
  | .finished | .crashed _ => 0

/-- A client that goes on to a message has no more than two calls left for it and for each message
after it. -/
theorem callsLeft_goOn_le (c : Client) (seq : Nat) :
    callsLeft settings (c.goOn settings seq) ≤ 2 * (settings.messages.toNat + 1 - seq) := by
  unfold Client.goOn
  split
  · exact Nat.le_refl _
  · exact Nat.zero_le _

/-- The answer to writing a message leaves fewer calls to make, for the read of that message is all
that is left of it. -/
theorem callsLeft_wrote_lt {seq : Nat} (hstage : c.stage = .sending seq) (h : Talking settings c)
    (answer : WriteAnswer) : callsLeft settings (c.wrote seq answer) < callsLeft settings c := by
  obtain ⟨hseq, hmessages, -⟩ := h.of_sending hstage
  have hleft : callsLeft settings c = 2 * (settings.messages.toNat + 1 - seq) := by
    rw [callsLeft, hstage]
  rw [hleft]
  cases answer <;> simp only [callsLeft, Client.wrote, Client.fail] <;> omega

/-- The answer to the read after a message leaves fewer calls to make. -/
theorem callsLeft_received_lt {seq : Nat} (hstage : c.stage = .waiting seq)
    (h : Talking settings c) (latency : Span) (answer : ReadAnswer) :
    callsLeft settings (c.received settings seq latency answer) < callsLeft settings c := by
  obtain ⟨hseq, hmessages, -⟩ := h.of_waiting hstage
  have hleft : callsLeft settings c = 2 * (settings.messages.toNat + 1 - seq) - 1 := by
    rw [callsLeft, hstage]
  rw [hleft]
  cases answer with
  | data bytes =>
    cases bytes with
    | nil => simp only [callsLeft, Client.received, Client.fail]; omega
    | cons b bytes =>
      -- One message less is left, and with it two calls.
      have hgoOn := @callsLeft_goOn_le settings ⟨c.record.addAnswer latency, c.stage⟩ (seq + 1)
      simp only [Client.received]
      omega
  | failed cause | expired => simp only [callsLeft, Client.received, Client.fail]; omega

section Link

variable {σ : Type} (link : Link σ) (s : σ)

/-- The next call of a client that is about to send is a write. -/
theorem advance_of_sending {seq : Nat} (hstage : c.stage = .sending seq) :
    (c.advance link settings s).1 = c.wrote seq (link.write s (c.message settings seq)).1 := by
  simp [Client.advance, hstage]

/-- The next call of a client that waits is a read, of at most the size of its buffer. -/
theorem advance_of_waiting {seq : Nat} (hstage : c.stage = .waiting seq) :
    (c.advance link settings s).1
      = c.received settings seq (link.read s settings.bufferSize.toNat).1.2
          (link.read s settings.bufferSize.toNat).1.1 := by
  simp [Client.advance, hstage]

/-- A call keeps `Talking`, whatever the link answers. With `callsLeft_advance_lt` it is what every
statement about whole conversations is proved from. -/
theorem talking_advance (h : Talking settings c) :
    Talking settings (c.advance link settings s).1 := by
  cases hstage : c.stage with
  | dialing => rw [Talking, hstage] at h; exact h.2.elim
  | sending seq => rw [advance_of_sending link s hstage]; exact talking_wrote hstage h _
  | waiting seq => rw [advance_of_waiting link s hstage]; exact talking_received hstage h _ _
  | finished | crashed text => simpa [Client.advance, hstage] using h

/-- A call of a connected client leaves fewer calls to make, so no client goes on talking for ever,
whatever it is answered. -/
theorem callsLeft_advance_lt (h : Talking settings c) (hover : c.isOver = false) :
    callsLeft settings (c.advance link settings s).1 < callsLeft settings c := by
  cases hstage : c.stage with
  | dialing => rw [Talking, hstage] at h; exact h.2.elim
  | sending seq => rw [advance_of_sending link s hstage]; exact callsLeft_wrote_lt hstage h _
  | waiting seq => rw [advance_of_waiting link s hstage]; exact callsLeft_received_lt hstage h _ _
  | finished | crashed text => simp [Client.isOver, hstage] at hover

end Link

variable {σ : Type} (link : Link σ)

/-- A client that is not over makes its next call first. The calls of a conversation are opened one
at a time by this equation, and never by unfolding the loop. -/
theorem runFor_succ (calls : Nat) (c : Client) (s : σ) (hover : c.isOver = false) :
    Client.runFor link settings (calls + 1) c s
      = Client.runFor link settings calls (c.advance link settings s).1
          (c.advance link settings s).2 := by
  simp [Client.runFor, hover]

/-- A client that is over stays as it is, so asking for more calls than are needed does no harm. -/
theorem runFor_of_isOver (calls : Nat) (c : Client) (s : σ) (hover : c.isOver = true) :
    Client.runFor link settings calls c s = (c, s) := by
  cases calls <;> simp [Client.runFor, hover]

/-- What every call keeps of a client and of the other end of its calls, a conversation keeps. -/
theorem runFor_invariant {P : Client → σ → Prop}
    (hadvance : ∀ (c : Client) (s : σ), P c s →
      P (c.advance link settings s).1 (c.advance link settings s).2) (calls : Nat)
    (c : Client) (s : σ) (h : P c s) :
    P (Client.runFor link settings calls c s).1 (Client.runFor link settings calls c s).2 := by
  induction calls generalizing c s with
  | zero => exact h
  | succ calls ih =>
    cases hover : c.isOver with
    | true => rw [runFor_of_isOver link _ c s hover]; exact h
    | false => rw [runFor_succ link calls c s hover]; exact ih _ _ (hadvance c s h)

/-- What every call of a client keeps, a conversation keeps. It is the one induction over the calls
of a client; the invariants of this library are instances of it. -/
theorem runFor_induction {P : Client → Prop}
    (hadvance : ∀ (c : Client) (s : σ), P c → P (c.advance link settings s).1) (calls : Nat)
    (c : Client) (s : σ) (h : P c) : P (Client.runFor link settings calls c s).1 :=
  runFor_invariant link (P := fun c _ => P c) hadvance calls c s h

/-- A connected client is over once it has made the calls that it had left. -/
theorem isOver_runFor (calls : Nat) (c : Client) (s : σ) (h : Talking settings c)
    (hcalls : callsLeft settings c ≤ calls) :
    (Client.runFor link settings calls c s).1.isOver = true := by
  induction calls generalizing c s with
  | zero =>
    cases hover : c.isOver with
    | true => exact hover
    | false =>
      -- A call would leave fewer than none.
      have hlt := callsLeft_advance_lt link s h hover
      omega
  | succ calls ih =>
    cases hover : c.isOver with
    | true => rw [runFor_of_isOver link _ c s hover]; exact hover
    | false =>
      have hlt := callsLeft_advance_lt link s h hover
      rw [runFor_succ link calls c s hover]
      exact ih _ _ (talking_advance link s h) (by omega)

/-- A connected client that has made the calls that it had left has finished. -/
theorem finished_runFor (calls : Nat) (c : Client) (s : σ) (h : Talking settings c)
    (hcalls : callsLeft settings c ≤ calls) :
    (Client.runFor link settings calls c s).1.stage = .finished := by
  have hover := isOver_runFor link calls c s h hcalls
  have htalking : Talking settings (Client.runFor link settings calls c s).1 :=
    runFor_induction link (fun _ s => talking_advance link s) calls c s h
  -- `Talking` leaves no way to be over but to have finished.
  generalize (Client.runFor link settings calls c s).1 = last at hover htalking ⊢
  obtain ⟨-, hlast⟩ := htalking
  cases hstage : last.stage with
  | finished => rfl
  | crashed text => rw [hstage] at hlast; exact hlast.elim
  | dialing | sending seq | waiting seq => simp [Client.isOver, hstage] at hover

end Calls

/-! ### The client of a record -/

/-- The record of a client names the client and whom it called. Neither is touched after the start,
so these three fields tell whose record it is, whatever else went wrong. -/
def IsAbout (settings : LoadSettings) (index : Nat) (r : TaskRecord) : Prop :=
  r.taskId = taskId settings.clientId index ∧ r.host = settings.host ∧ r.port = settings.port

section IsAbout

variable {settings : LoadSettings} {index : Nat} {c : Client}

/-- Going on does not change whom a record is about, since only the stage and the counts of a client
are set in it. -/
theorem isAbout_goOn (seq : Nat) (h : IsAbout settings index c.record) :
    IsAbout settings index (c.goOn settings seq).record := by
  unfold Client.goOn
  split <;> exact h

/-- A call changes nothing of whom a record is about, by the cases of the stage that the client is
in. -/
theorem isAbout_advance {σ : Type} (link : Link σ) (s : σ) (h : IsAbout settings index c.record) :
    IsAbout settings index (c.advance link settings s).1.record := by
  cases hstage : c.stage with
  | dialing =>
    simp only [Client.advance, hstage]
    cases (link.dial s).1 with
    | connected =>
      simp only [Client.dialed]
      split
      · exact isAbout_goOn 1 h
      · exact h
    | failed cause | expired => exact h
  | sending seq =>
    rw [advance_of_sending link s hstage]
    cases (link.write s (c.message settings seq)).1 <;> exact h
  | waiting seq =>
    rw [advance_of_waiting link s hstage]
    cases (link.read s settings.bufferSize.toNat).1.1 with
    | data bytes =>
      cases bytes with
      | nil => exact h
      | cons b bytes => exact isAbout_goOn (seq + 1) h
    | failed cause | expired => exact h
  | finished | crashed text => simpa [Client.advance, hstage] using h

/-- The record of a conversation is about its client, however the conversation went. So a record can
be told by its name, wherever it is met later. -/
theorem isAbout_run {σ : Type} (link : Link σ) (index : Nat) (s : σ) :
    IsAbout settings index (Client.run link settings index s).1.record :=
  runFor_induction link (P := fun c => IsAbout settings index c.record)
    (fun _ s => isAbout_advance link s) _ _ s ⟨rfl, rfl, rfl⟩

end IsAbout

/-! ### The end of a conversation -/

section Run

variable {σ : Type} (link : Link σ) (settings : LoadSettings) (index : Nat) (s : σ)

/-- A conversation begins with the call for a connection; what follows is a conversation of a client
that has its answer. -/
theorem run_eq :
    Client.run link settings index s
      = Client.runFor link settings (2 * settings.messages.toNat)
          ((Client.start settings index).dialed settings (link.dial s).1) (link.dial s).2 := by
  rw [Client.run, Client.callsNeeded, runFor_succ link _ _ s rfl]
  rfl

/-- A client that gets its connection and its buffer begins to talk, with nothing sent, nothing read
and no time spent. -/
theorem talking_dialed (hbuffer : settings.bufferSize.toNat ≤ greatestBuffer) :
    Talking settings ((Client.start settings index).dialed settings .connected) ∧
      callsLeft settings ((Client.start settings index).dialed settings .connected)
        ≤ 2 * settings.messages.toNat := by
  simp only [Client.dialed, hbuffer, if_true]
  exact ⟨talking_goOn rfl (Nat.le_refl 1) (by omega) rfl rfl rfl, callsLeft_goOn_le _ 1⟩

/-- A client that has no connection or no buffer makes no more calls. -/
theorem isOver_dialed {answer : DialAnswer}
    (h : ¬(answer = .connected ∧ settings.bufferSize.toNat ≤ greatestBuffer)) :
    ((Client.start settings index).dialed settings answer).isOver = true := by
  cases answer with
  | failed cause | expired => rfl
  | connected => simp [Client.dialed, Client.isOver, mt (And.intro rfl) h]

/-- What holds of a client before its first call and after the call for a connection, and what its
writes and its reads keep, holds at every moment of a conversation. -/
theorem conversation_induction {P : Client → σ → Prop} (hstart : P (Client.start settings index) s)
    (hdialed : P ((Client.start settings index).dialed settings (link.dial s).1) (link.dial s).2)
    (hwrote : ∀ (c : Client) (s : σ) (seq : Nat), Talking settings c →
      IsAbout settings index c.record → c.stage = .sending seq → P c s →
      P (c.wrote seq (link.write s (c.message settings seq)).1)
        (link.write s (c.message settings seq)).2)
    (hreceived : ∀ (c : Client) (s : σ) (seq : Nat), Talking settings c →
      IsAbout settings index c.record → c.stage = .waiting seq → P c s →
      P (c.received settings seq (link.read s settings.bufferSize.toNat).1.2
          (link.read s settings.bufferSize.toNat).1.1)
        (link.read s settings.bufferSize.toNat).2)
    (calls : Nat) :
    P (Client.runFor link settings calls (Client.start settings index) s).1
      (Client.runFor link settings calls (Client.start settings index) s).2 := by
  cases calls with
  | zero => exact hstart
  | succ calls =>
    have hfirst : (Client.start settings index).advance link settings s
        = ((Client.start settings index).dialed settings (link.dial s).1, (link.dial s).2) := rfl
    rw [runFor_succ link calls _ s rfl, hfirst]
    by_cases htalks : (link.dial s).1 = .connected ∧ settings.bufferSize.toNat ≤ greatestBuffer
    · -- From here on the client talks, and each of its calls is a write or a read.
      have htalking := (talking_dialed settings index htalks.2).1
      rw [← htalks.1] at htalking
      have habout : IsAbout settings index (Client.start settings index).record := ⟨rfl, rfl, rfl⟩
      refine (runFor_invariant link
        (P := fun c s => (Talking settings c ∧ IsAbout settings index c.record) ∧ P c s)
        ?_ calls _ _ ⟨⟨htalking, isAbout_advance link s habout⟩, hdialed⟩).2
      rintro c s ⟨⟨ht, ha⟩, h⟩
      refine ⟨⟨talking_advance link s ht, isAbout_advance link s ha⟩, ?_⟩
      cases hstage : c.stage with
      | dialing => rw [Talking, hstage] at ht; exact ht.2.elim
      | sending seq => simpa [Client.advance, hstage] using hwrote c s seq ht ha hstage h
      | waiting seq => simpa [Client.advance, hstage] using hreceived c s seq ht ha hstage h
      | finished | crashed text => simpa [Client.advance, hstage] using h
    · rw [runFor_of_isOver link _ _ _ (isOver_dialed settings index htalks)]
      exact hdialed

/-- A client that gets its connection and its buffer finishes, and `Talking` holds of it then. -/
theorem talking_run (hdial : (link.dial s).1 = .connected)
    (hbuffer : settings.bufferSize.toNat ≤ greatestBuffer) :
    (Client.run link settings index s).1.stage = .finished ∧
      Talking settings (Client.run link settings index s).1 := by
  -- The calls that are left suffice, so the bound on their number is never met.
  rw [run_eq, hdial]
  obtain ⟨htalking, hcalls⟩ := talking_dialed settings index hbuffer
  exact ⟨finished_runFor link _ _ _ htalking hcalls,
    runFor_induction link (fun _ s => talking_advance link s) _ _ _ htalking⟩

/-- A client that gets no connection finishes with a record that says so, in one error and with all
counts at zero. -/
theorem dialFailed_run (hdial : (link.dial s).1 ≠ .connected) :
    (Client.run link settings index s).1.stage = .finished ∧
      (Client.run link settings index s).1.record.averageMs
        = (Client.run link settings index s).1.record.average ∧
      ∃ reason, (Ending.dialFailed reason).Describes settings
        (Client.run link settings index s).1.record := by
  rw [run_eq]
  cases hanswer : (link.dial s).1 with
  | connected => exact absurd hanswer hdial
  | failed cause =>
    rw [runFor_of_isOver link _ _ _ rfl]
    exact ⟨rfl, rfl, cause.message, rfl, rfl, rfl, rfl⟩
  | expired =>
    rw [runFor_of_isOver link _ _ _ rfl]
    -- The text comes as one string, and the reason is its end.
    refine ⟨rfl, rfl, "timed out after " ++ settings.dialTimeout.text, rfl, rfl, rfl, ?_⟩
    rw [← String.append_assoc]
    rfl

/-- A client that gets its connection and not its buffer crashes and leaves no record. It is the one
exception to what `ending_of_run` says of all other clients. -/
theorem crashed_run (hdial : (link.dial s).1 = .connected)
    (hbuffer : greatestBuffer < settings.bufferSize.toNat) :
    (Client.run link settings index s).1.stage = .crashed bufferCrash := by
  have hdialed : (Client.start settings index).dialed settings .connected
      = ⟨(Client.start settings index).record.connect, .crashed bufferCrash⟩ := by
    simp [Client.dialed, Nat.not_le.mpr hbuffer]
  rw [run_eq, hdial, hdialed, runFor_of_isOver link _ _ _ rfl]

end Run

/-- What a client leaves. It crashes where it gets a connection and no buffer. Otherwise it leaves a
record that names it, and this is the record of exactly one ending, with the bounds on its counters
and the average that follow. -/
theorem ending_of_run {σ : Type} (link : Link σ) (settings : LoadSettings) (index : Nat) (s : σ) :
    let c := (Client.run link settings index s).1
    (c.stage = .crashed bufferCrash ∧
      (link.dial s).1 = .connected ∧ greatestBuffer < settings.bufferSize.toNat) ∨
    (c.stage = .finished ∧
      ¬((link.dial s).1 = .connected ∧ greatestBuffer < settings.bufferSize.toNat) ∧
      IsAbout settings index c.record ∧
      (c.record.connected = true ↔ (link.dial s).1 = .connected) ∧
      (∃! e : Ending, e.Describes settings c.record) ∧
      c.record.received ≤ c.record.sent ∧
      c.record.sent.toNat ≤ c.record.received.toNat + 1 ∧
      c.record.errors.length ≤ 1 ∧
      (c.record.succeeded = true ↔ c.record.errors = []) ∧
      (c.record.errors = [] ↔ Ending.complete.Describes settings c.record) ∧
      c.record.averageMs
        = if 0 < c.record.received then c.record.totalMs / c.record.received.toFloat else 0.0) := by
  intro c
  by_cases hcrash : (link.dial s).1 = .connected ∧ greatestBuffer < settings.bufferSize.toNat
  · exact Or.inl ⟨crashed_run link settings index s hcrash.1 hcrash.2, hcrash⟩
  · -- Where nothing crashed there are two ways to finish: with a connection the invariant of
    -- talking clients says how, and without one there was a single call.
    have hrest : c.stage = .finished ∧ c.record.averageMs = c.record.average ∧
        (c.record.connected = true ↔ (link.dial s).1 = .connected) ∧
        ∃ e : Ending, e.Describes settings c.record := by
      by_cases hdial : (link.dial s).1 = .connected
      · have hbuffer := Nat.le_of_not_lt fun hlt => hcrash ⟨hdial, hlt⟩
        obtain ⟨hstage, htalking⟩ := talking_run link settings index s hdial hbuffer
        obtain ⟨haverage, hending⟩ := htalking.of_finished hstage
        exact ⟨hstage, haverage, ⟨fun _ => hdial, fun _ => htalking.1⟩, hending⟩
      · obtain ⟨hstage, haverage, reason, h⟩ := dialFailed_run link settings index s hdial
        exact ⟨hstage, haverage, ⟨fun hc => by simp [c, h.1] at hc, fun hd => absurd hd hdial⟩, _, h⟩
    obtain ⟨hstage, haverage, hconnected, e, he⟩ := hrest
    -- Everything else is read off the ending.
    refine Or.inr ⟨hstage, hcrash, isAbout_run link index s, hconnected,
      ⟨e, he, fun e' he' => he'.unique he⟩, he.sent_bounds.1, he.sent_bounds.2, ?_,
      he.succeeded_iff, ?_, haverage⟩
    · obtain ⟨-, hnone⟩ | ⟨-, error, herror⟩ := he.errors_cases
      · simp [hnone]
      · simp [herror]
    · obtain ⟨rfl, hnone⟩ | ⟨hne, error, herror⟩ := he.errors_cases
      · exact ⟨fun _ => he, fun _ => hnone⟩
      · exact ⟨fun hnone => by simp [herror] at hnone, fun hcomplete => hcomplete.2.2.2⟩

end EchoBench.Proofs.Load
