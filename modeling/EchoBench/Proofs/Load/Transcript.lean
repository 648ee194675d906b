import EchoBench.Proofs.History
import EchoBench.Proofs.Load.Ending
import EchoBench.Text.Character

/-!
# `EchoBench.Proofs.Load.Transcript`: what a client puts on its stream

`transcript` are the calls of a client in order, each with the answer that it got. The link notes
them (`transcribed`), so these are the calls that the client makes and no second account of them,
and noting changes nothing else (`runFor_transcribed`).

The calls of a client that talks take turns: a message is written only when all messages before it
have been written and each has been answered by a byte or more (`InTurn`). The first call that goes
wrong is the last of all (`EndsAtFault`). `Transcribed` ties both to the stage of the client, and
`transcribed_wrote` and `transcribed_received` show that every call keeps it, whatever its answer.
`wire_of_run` reads off what is on the stream at any moment of a conversation: the messages that the
record counts as sent, and behind them a part of the next one only where that one could not be sent.
-/

set_option autoImplicit false

namespace EchoBench.Proofs

open EchoBench.Config (LoadSettings)
open EchoBench.Load
open EchoBench.Proofs.Load
open EchoBench.Text (utf8)

/-! ### The messages of a client as bytes

A client sends the same messages in every conversation, one for each number. `bytesUpTo` are the
bytes of the first so many, which is what a client has put on its stream once it has sent these. No
message is empty, so each adds to the stream (`messageBytes_ne_nil`).
-/

/-- The bytes of the message with a number, as they are put on the stream: the encoding of its text,
with nothing in front and nothing behind. -/
def messageBytes (settings : LoadSettings) (index seq : Nat) : List UInt8 :=
  utf8 (payload (taskId settings.clientId index) seq settings.opening)

/-- The bytes of so many messages, from the first on, one directly behind the other, for there is
nothing between two messages on a stream. -/
def bytesUpTo (settings : LoadSettings) (index : Nat) : Nat → List UInt8
  | 0 => []
  | seq + 1 => bytesUpTo settings index seq ++ messageBytes settings index (seq + 1)

section Messages

variable {settings : LoadSettings} {index : Nat}

/-- A message has bytes: there is a blank in each. So a client that has sent one has something to be
answered, and an exchange does not stop for want of it. -/
theorem messageBytes_ne_nil (seq : Nat) : messageBytes settings index seq ≠ [] := by
  have hblank : ' ' ∈ (payload (taskId settings.clientId index) seq settings.opening).toList := by
    cases hopening : settings.opening <;> simp [payload, String.toList_append]
  intro hnil
  have hnone := List.flatMap_eq_nil_iff.mp hnil ' ' hblank
  simp at hnone

/-- The bytes of the messages up to one are those of the messages before it, and its own behind
them. -/
theorem bytesUpTo_of_pos {seq : Nat} (hseq : 1 ≤ seq) :
    bytesUpTo settings index seq
      = bytesUpTo settings index (seq - 1) ++ messageBytes settings index seq := by
  obtain ⟨seq, rfl⟩ := Nat.exists_eq_add_of_le' hseq
  rfl

/-- More messages have at least as many bytes. -/
theorem length_bytesUpTo_mono {a b : Nat} (hle : a ≤ b) :
    (bytesUpTo settings index a).length ≤ (bytesUpTo settings index b).length := by
  induction hle with
  | refl => exact Nat.le_refl _
  | step _ ih =>
    rw [bytesUpTo, List.length_append]
    omega

/-- The client of a record sends the messages of that record: its name in the record and its name in
the message are the same. -/
theorem utf8_message {c : Client} (habout : IsAbout settings index c.record) (seq : Nat) :
    utf8 (c.message settings seq) = messageBytes settings index seq := by
  rw [Client.message, habout.1, messageBytes]

end Messages

end EchoBench.Proofs

namespace EchoBench.Proofs.Load

open EchoBench.Config (LoadSettings)
open EchoBench.Load
open EchoBench.Net
open EchoBench.Text (utf8)

/-! ### The calls of a client -/

/-- A call of a client, with the answer that it got. The list of them is a history that no program
keeps; statements on what was on the stream are made of it. -/
inductive Call
  | dialed (answer : DialAnswer)
  | wrote (message : String) (answer : WriteAnswer)
  | read (answer : ReadAnswer)
  deriving DecidableEq, Repr

namespace Call

/-- The bytes that a call leaves on the stream: all of the message if it could be written, and what
had been taken of it if not. -/
def bytes : Call → List UInt8
  | .wrote message answer => (utf8 message).take (answer.written (utf8 message).length)
  | .dialed _ | .read _ => []

/-- The message that a call writes. -/
def message? : Call → Option String
  | .wrote message _ => some message
  | .dialed _ | .read _ => none

/-- The answer of a call that reads. -/
def readAnswer? : Call → Option ReadAnswer
  | .read answer => some answer
  | .dialed _ | .wrote _ _ => none

/-- Whether a call went wrong: it failed, or its time was over, or it read no byte. -/
def isFault : Call → Bool
  | .dialed .connected | .wrote _ .done | .read (.data (_ :: _)) => false
  | .dialed _ | .wrote _ _ | .read _ => true

end Call

/-- The bytes that some calls leave on the stream, in the order of the calls. Reads and the call for
a connection leave none. -/
def wire (calls : List Call) : List UInt8 :=
  calls.flatMap Call.bytes

/-- The messages that some calls write. -/
def messagesIn (calls : List Call) : List String :=
  calls.filterMap Call.message?

/-- The answers to the reads among some calls. -/
def readsIn (calls : List Call) : List ReadAnswer :=
  calls.filterMap Call.readAnswer?

section Append

variable (calls : List Call) (call : Call)

/-- A call adds its own bytes at the end of the stream. -/
@[simp] theorem wire_append : wire (calls ++ [call]) = wire calls ++ call.bytes := by
  simp [wire]

/-- A call adds at most one message to those that have been written. -/
@[simp] theorem messagesIn_append :
    messagesIn (calls ++ [call]) = messagesIn calls ++ call.message?.toList := by
  rw [messagesIn, List.filterMap_append]
  cases call <;> rfl

/-- A call adds at most one read to those that have been made. -/
@[simp] theorem readsIn_append :
    readsIn (calls ++ [call]) = readsIn calls ++ call.readAnswer?.toList := by
  rw [readsIn, List.filterMap_append]
  cases call <;> rfl

end Append

/-! ### Noting the calls of a client -/

section Noting

variable {σ : Type} (link : Link σ) (settings : LoadSettings)

/-- The link that notes every call with its answer and passes it on. The client does not see the
notes, so its run is the same. -/
def transcribed : Link (σ × List Call) where
  dial s :=
    let (answer, t) := link.dial s.1
    (answer, t, s.2 ++ [.dialed answer])
  write s message :=
    let (answer, t) := link.write s.1 message
    (answer, t, s.2 ++ [.wrote message answer])
  read s size :=
    let ((answer, latency), t) := link.read s.1 size
    ((answer, latency), t, s.2 ++ [.read answer])

/-- The calls of the client with a number, with their answers, up to so many calls. -/
def transcript (index calls : Nat) (s : σ) : List Call :=
  (Client.runFor (transcribed link) settings calls (Client.start settings index) (s, [])).2.2

/-- A call over the noting link has the answer that it has over the link itself, and leaves it in
the same state. -/
theorem advance_transcribed (c : Client) (s : σ) (noted : List Call) :
    (c.advance (transcribed link) settings (s, noted)).1 = (c.advance link settings s).1 ∧
      (c.advance (transcribed link) settings (s, noted)).2.1 = (c.advance link settings s).2 := by
  unfold Client.advance
  cases c.stage <;> exact ⟨rfl, rfl⟩

/-- Noting the calls changes nothing else: the client and the state of the link are what they are
without the notes. So what is said of the transcript is said of the conversation itself. -/
theorem runFor_transcribed (calls : Nat) (c : Client) (s : σ) (noted : List Call) :
    (Client.runFor (transcribed link) settings calls c (s, noted)).1
        = (Client.runFor link settings calls c s).1 ∧
      (Client.runFor (transcribed link) settings calls c (s, noted)).2.1
        = (Client.runFor link settings calls c s).2 := by
  induction calls generalizing c s noted with
  | zero => exact ⟨rfl, rfl⟩
  | succ calls ih =>
    cases hover : c.isOver with
    | true =>
      rw [runFor_of_isOver _ _ _ _ hover, runFor_of_isOver _ _ _ _ hover]
      exact ⟨rfl, rfl⟩
    | false =>
      obtain ⟨hclient, hstate⟩ := advance_transcribed link settings c s noted
      rw [runFor_succ _ _ _ _ hover, runFor_succ _ _ _ _ hover, ← hclient, ← hstate]
      exact ih _ _ _

end Noting

/-! ### The order of calls -/

/-- Every message comes in its turn. When it is written, all messages before it have been written,
and there has been a read for each of them, which gave a byte or more. -/
def InTurn (settings : LoadSettings) (index : Nat) (calls : List Call) : Prop :=
  ∀ before message answer after, calls = before ++ .wrote message answer :: after →
    utf8 message = messageBytes settings index ((messagesIn before).length + 1) ∧
    (readsIn before).length = (messagesIn before).length ∧
    ∀ read ∈ readsIn before, ∃ b bytes, read = .data (b :: bytes)

/-- No call comes after one that went wrong: a fault, wherever it is, is in the last call. -/
def EndsAtFault (calls : List Call) : Prop :=
  ∀ before call after, calls = before ++ call :: after → call.isFault = true → after = []

/-- No call has gone wrong. A client that is still in conversation is one of which this holds. -/
def Fluent (calls : List Call) : Prop :=
  ∀ call ∈ calls, call.isFault = false

section Order

variable {settings : LoadSettings} {index : Nat} {calls : List Call} {call : Call}

/-- A call without a fault keeps a conversation fluent. -/
theorem fluent_append (hcalls : Fluent calls) (hcall : call.isFault = false) :
    Fluent (calls ++ [call]) := by
  intro other hother
  rcases List.mem_append.mp hother with hother | hother
  · exact hcalls other hother
  · rwa [List.mem_singleton.mp hother]

/-- Behind calls that went well there may be any other, since it is the last one and may be the
fault. -/
theorem Fluent.endsAtFault_append (hcalls : Fluent calls) : EndsAtFault (calls ++ [call]) := by
  intro before other after hsplit hfault
  rcases append_singleton_cases hsplit with ⟨-, -, hlast⟩ | ⟨rest, -, rfl⟩
  · exact hlast
  · have hfine := hcalls other (by simp)
    rw [hfine] at hfault
    cases hfault

/-- The reads among calls that went well all gave something, for an empty one is the end of the
stream, which is a fault. It is by this that a message is only written after all before it have had
an answer. -/
theorem Fluent.exists_data (hcalls : Fluent calls) :
    ∀ read ∈ readsIn calls, ∃ b bytes, read = .data (b :: bytes) := by
  intro read hread
  obtain ⟨call, hcall, hanswer⟩ := List.mem_filterMap.mp hread
  have hfine := hcalls call hcall
  cases call with
  | read answer =>
    obtain rfl : answer = read := Option.some.inj hanswer
    cases answer with
    | data bytes =>
      cases bytes with
      | nil => cases hfine
      | cons b bytes => exact ⟨b, bytes, rfl⟩
    | failed cause | expired => cases hfine
  | dialed answer | wrote message answer => cases hanswer

/-- A call that writes no message is in nobody's way. -/
theorem InTurn.append_of_message?_eq_none (h : InTurn settings index calls)
    (hcall : call.message? = none) : InTurn settings index (calls ++ [call]) := by
  intro before message answer after hsplit
  rcases append_singleton_cases hsplit with ⟨-, rfl, -⟩ | ⟨rest, -, hrest⟩
  · cases hcall
  · exact h before message answer rest hrest

/-- The next message may be written when each message before it has been answered. -/
theorem InTurn.append_wrote {message : String} {answer : WriteAnswer}
    (h : InTurn settings index calls) (hfluent : Fluent calls)
    (hmessage : utf8 message = messageBytes settings index ((messagesIn calls).length + 1))
    (hreads : (readsIn calls).length = (messagesIn calls).length) :
    InTurn settings index (calls ++ [.wrote message answer]) := by
  intro before other given after hsplit
  rcases append_singleton_cases hsplit with ⟨rfl, hcall, -⟩ | ⟨rest, -, hrest⟩
  · obtain ⟨rfl, rfl⟩ := Call.wrote.inj hcall
    exact ⟨hmessage, hreads, hfluent.exists_data⟩
  · exact h before other given rest hrest

end Order

/-! ### What a conversation keeps -/

/-- What the calls so far have come to, by the stage of the client. -/
def ComeTo (settings : LoadSettings) (index : Nat) (c : Client) (calls : List Call) : Prop :=
  let sent := c.record.sent.toNat
  match c.stage with
  | .dialing | .sending _ =>
    Fluent calls ∧ wire calls = bytesUpTo settings index sent ∧
      (messagesIn calls).length = sent ∧ (readsIn calls).length = sent
  | .waiting _ =>
    Fluent calls ∧ wire calls = bytesUpTo settings index sent ∧
      (messagesIn calls).length = sent ∧ (readsIn calls).length + 1 = sent
  | .finished | .crashed _ =>
    ∃ part, wire calls = bytesUpTo settings index sent ++ part ∧
      (part ≠ [] → part <+: messageBytes settings index (sent + 1) ∧
        ∃ reason, (Ending.sendFailed (sent + 1) reason).Describes settings c.record)

/-- The calls of a client are in order, and have come to where the client is. -/
structure Transcribed (settings : LoadSettings) (index : Nat) (c : Client) (calls : List Call) :
    Prop where
  turns : InTurn settings index calls
  faults : EndsAtFault calls
  comeTo : ComeTo settings index c calls

section Steps

variable {settings : LoadSettings} {index : Nat} {c : Client} {calls : List Call}

/-- On the stream is what the client has sent, and perhaps a part of what it could not send. -/
theorem ComeTo.exists_wire (h : ComeTo settings index c calls) :
    ∃ part, wire calls = bytesUpTo settings index c.record.sent.toNat ++ part ∧
      (part ≠ [] → part <+: messageBytes settings index (c.record.sent.toNat + 1) ∧
        ∃ reason,
          (Ending.sendFailed (c.record.sent.toNat + 1) reason).Describes settings c.record) := by
  unfold ComeTo at h
  cases hstage : c.stage with
  | dialing | sending seq | waiting seq =>
    rw [hstage] at h
    exact ⟨[], by rw [h.2.1, List.append_nil], fun hne => absurd rfl hne⟩
  | finished | crashed text =>
    rw [hstage] at h
    exact h

/-- A client that is over has nothing on its stream but what it sent, unless a write failed. -/
theorem comeTo_of_isOver (hover : c.isOver = true)
    (hwire : wire calls = bytesUpTo settings index c.record.sent.toNat) :
    ComeTo settings index c calls := by
  unfold ComeTo
  cases hstage : c.stage with
  | finished | crashed text =>
    exact ⟨[], by rw [hwire, List.append_nil], fun hne => absurd rfl hne⟩
  | dialing | sending seq | waiting seq => simp [Client.isOver, hstage] at hover

/-- A client that goes on has read an answer to every message that it has written. -/
theorem comeTo_goOn (seq : Nat) (hfluent : Fluent calls)
    (hwire : wire calls = bytesUpTo settings index c.record.sent.toNat)
    (hmessages : (messagesIn calls).length = c.record.sent.toNat)
    (hreads : (readsIn calls).length = c.record.sent.toNat) :
    ComeTo settings index (c.goOn settings seq) calls := by
  unfold Client.goOn
  split
  · exact ⟨hfluent, hwire, hmessages, hreads⟩
  · exact comeTo_of_isOver rfl hwire

/-- A client that cannot send a message ends with the record of just that. -/
theorem describes_sendFailed {seq : Nat} (ht : Talking settings c) (hstage : c.stage = .sending seq)
    (reason : String) :
    (Ending.sendFailed seq reason).Describes settings
      (c.fail ("Error sending message " ++ toString seq ++ ": " ++ reason)).record := by
  obtain ⟨hseq, hmessages, hsent, hreceived, herrors⟩ := ht.of_sending hstage
  refine ⟨ht.1, hseq, hmessages, hsent, hreceived, ?_⟩
  simp [Client.fail, TaskRecord.addError, TaskRecord.finish, herrors]

/-- Of a message that cannot be sent, a part may be on the stream. -/
theorem comeTo_fail {seq : Nat} {message : String} {answer : WriteAnswer} (reason : String)
    (ht : Talking settings c) (hstage : c.stage = .sending seq)
    (hwire : wire calls = bytesUpTo settings index c.record.sent.toNat)
    (hmessage : utf8 message = messageBytes settings index seq) :
    ComeTo settings index (c.fail ("Error sending message " ++ toString seq ++ ": " ++ reason))
      (calls ++ [.wrote message answer]) := by
  obtain ⟨hseq, -, hsent, -⟩ := ht.of_sending hstage
  have hnumber : c.record.sent.toNat + 1 = seq := by omega
  -- The failure changes nothing of the counter.
  refine ⟨(Call.wrote message answer).bytes, ?_, fun _ => ⟨?_, reason, ?_⟩⟩
  · rw [wire_append, hwire]
    rfl
  · show _ <+: messageBytes settings index (c.record.sent.toNat + 1)
    rw [hnumber, ← hmessage]
    exact List.take_prefix _ _
  · show (Ending.sendFailed (c.record.sent.toNat + 1) reason).Describes settings _
    rw [hnumber]
    exact describes_sendFailed ht hstage reason

/-- Writing a message keeps `Transcribed`. A message that is written comes in its turn, because the
client has answers to all before it, and one that is not written ends the conversation. -/
theorem transcribed_wrote {seq : Nat} (h : Transcribed settings index c calls)
    (ht : Talking settings c) (habout : IsAbout settings index c.record)
    (hstage : c.stage = .sending seq) (answer : WriteAnswer) :
    Transcribed settings index (c.wrote seq answer)
      (calls ++ [.wrote (c.message settings seq) answer]) := by
  have hmessage : utf8 (c.message settings seq) = messageBytes settings index seq :=
    utf8_message habout seq
  have hcome := h.comeTo
  rw [ComeTo, hstage] at hcome
  obtain ⟨hfluent, hwire, hmessages, hreads⟩ := hcome
  obtain ⟨hseq, -, hsent, -⟩ := ht.of_sending hstage
  have hnumber : (messagesIn calls).length + 1 = seq := by omega
  refine ⟨?_, hfluent.endsAtFault_append, ?_⟩
  · exact h.turns.append_wrote hfluent (by rw [hmessage, hnumber]) (hreads.trans hmessages.symm)
  · cases answer with
    | done =>
      -- The whole message is on the stream, and its answer is still to come.
      have hcount := (talking_wrote hstage ht .done).of_waiting rfl
      refine ⟨fluent_append hfluent rfl, ?_, ?_, ?_⟩
      · have hbytes : (Call.wrote (c.message settings seq) .done).bytes
            = messageBytes settings index seq := by
          rw [← hmessage]
          exact List.take_length
        rw [wire_append, hwire, hbytes, hcount.2.2.1, bytesUpTo_of_pos hseq, hsent]
      · rw [hcount.2.2.1]
        simpa [Call.message?] using hnumber
      · rw [hcount.2.2.1, ← hnumber]
        simpa [Call.readAnswer?] using hreads.trans hmessages.symm
    | failed written cause => exact comeTo_fail cause.message ht hstage hwire hmessage
    | expired written => exact comeTo_fail Client.deadlineText ht hstage hwire hmessage

/-- The read after a message keeps `Transcribed`: with a byte the next message may come, and without
one the conversation ends. -/
theorem transcribed_received {seq : Nat} (h : Transcribed settings index c calls)
    (hstage : c.stage = .waiting seq) (latency : Span) (answer : ReadAnswer) :
    Transcribed settings index (c.received settings seq latency answer)
      (calls ++ [.read answer]) := by
  have hcome := h.comeTo
  rw [ComeTo, hstage] at hcome
  obtain ⟨hfluent, hwire, hmessages, hreads⟩ := hcome
  -- A read puts nothing on the stream.
  have hsame : wire (calls ++ [.read answer]) = bytesUpTo settings index c.record.sent.toNat := by
    rw [wire_append, hwire]
    exact List.append_nil _
  refine ⟨h.turns.append_of_message?_eq_none rfl, hfluent.endsAtFault_append, ?_⟩
  cases answer with
  | data bytes =>
    cases bytes with
    | nil => exact comeTo_of_isOver rfl hsame
    | cons b bytes =>
      have hall : (messagesIn (calls ++ [.read (.data (b :: bytes))])).length
          = c.record.sent.toNat := by
        simpa [Call.message?] using hmessages
      have heach : (readsIn (calls ++ [.read (.data (b :: bytes))])).length
          = c.record.sent.toNat := by
        simpa [Call.readAnswer?] using hreads
      exact comeTo_goOn (seq + 1) (fluent_append hfluent rfl) hsame hall heach
  | failed cause | expired => exact comeTo_of_isOver rfl hsame

end Steps

/-! ### Whole conversations -/

section Run

variable (settings : LoadSettings) (index : Nat)

/-- No call has gone wrong yet. -/
theorem fluent_nil : Fluent [] := by
  intro call hcall
  cases hcall

/-- No message has been written out of turn yet. -/
theorem inTurn_nil : InTurn settings index [] := by
  intro before message answer after hsplit
  simp at hsplit

/-- A client that has made no call is transcribed by the empty list. -/
theorem transcribed_start : Transcribed settings index (Client.start settings index) [] where
  turns := inTurn_nil settings index
  faults := by
    intro before call after hsplit
    simp at hsplit
  comeTo := ⟨fluent_nil, rfl, rfl, rfl⟩

/-- The first call is the one for a connection, and it puts nothing on the stream. -/
theorem transcribed_dialed (answer : DialAnswer) :
    Transcribed settings index ((Client.start settings index).dialed settings answer)
      [.dialed answer] where
  turns := (inTurn_nil settings index).append_of_message?_eq_none rfl
  faults := fluent_nil.endsAtFault_append
  comeTo := by
    cases answer with
    | failed cause | expired => exact comeTo_of_isOver rfl rfl
    | connected =>
      unfold Client.dialed
      dsimp only
      split
      · exact comeTo_goOn 1 (fluent_append fluent_nil rfl) rfl rfl rfl
      · exact comeTo_of_isOver rfl rfl

/-- A client is transcribed at every moment of a conversation, by one case for each call that it can
make. -/
theorem transcribed_runFor {σ : Type} (link : Link σ) (s : σ) (calls : Nat) :
    Transcribed settings index
      (Client.runFor link settings calls (Client.start settings index) s).1
      (transcript link settings index calls s) := by
  rw [← (runFor_transcribed link settings calls (Client.start settings index) s []).1]
  exact conversation_induction (transcribed link) settings index (s, [])
    (P := fun c t => Transcribed settings index c t.2)
    (transcribed_start settings index)
    (transcribed_dialed settings index _)
    (fun _ _ _ ht habout hstage h => transcribed_wrote h ht habout hstage _)
    (fun _ _ _ _ _ hstage h => transcribed_received h hstage _ _)
    calls

end Run

/-- What a client puts on its stream, at every moment of a conversation over any link. There are the
messages that its record counts as sent, in the order of their numbers. Only where the next message
could not be sent, as the record then says, a part of that one may stand behind them. After a call
that went wrong there is no other. A message is written only when every message before it has been
written, and when there has been a read for each of them that gave a byte or more. -/
theorem wire_of_run {σ : Type} (link : Link σ) (settings : LoadSettings) (index : Nat) (s : σ)
    (calls : Nat) :
    let c := (Client.runFor link settings calls (Client.start settings index) s).1
    let made := transcript link settings index calls s
    let sent := c.record.sent.toNat
    (∃ part, wire made = bytesUpTo settings index sent ++ part ∧
      (part ≠ [] → part <+: messageBytes settings index (sent + 1) ∧
        ∃ reason, (Ending.sendFailed (sent + 1) reason).Describes settings c.record)) ∧
    (∀ before call after, made = before ++ call :: after → call.isFault = true → after = []) ∧
    (∀ before message answer after, made = before ++ .wrote message answer :: after →
      utf8 message = messageBytes settings index ((messagesIn before).length + 1) ∧
      (readsIn before).length = (messagesIn before).length ∧
      ∀ read ∈ readsIn before, ∃ b bytes, read = .data (b :: bytes)) := by
  intro c made sent
  have h : Transcribed settings index c made := transcribed_runFor settings index link s calls
  exact ⟨h.comeTo.exists_wire, h.faults, h.turns⟩

end EchoBench.Proofs.Load
