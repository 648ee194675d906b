import EchoBench.Proofs.Load.Transcript
import EchoBench.Rehearsal.Peer
import Mathlib.Data.List.GetD
import Mathlib.Data.List.Infix

/-!
# `EchoBench.Proofs.Rehearsal`: which bytes a client takes for an answer

After each message a client reads once, and counts the message as answered if a byte comes. The byte
need not be one that the peer wrote for this message. A stream does not show where an answer ends,
so what one read leaves of an answer, because the buffer is too small or because the rest has not
arrived yet, the next read takes.

Two statements say what holds all the same, for every script of the peer, every pace at which its
bytes arrive, whatever becomes of the messages on their way, and at every moment of a conversation:

* `conserved_of_run`: no byte is lost. The chunks that the client has taken, and behind them what
  waits, are the answers of the peer one after the other, and every message that is counted has a
  chunk of a byte or more.
* `answered_or_leftover`: no byte comes before its time. The first replies together are the front of
  the answers to as many messages. So a message that is counted has an answer, or a reply before it
  was shorter than the answer to its message.

Both are read off one invariant, `Conserved`, which `conserved_wrote` and `conserved_received` carry
through the calls of the client. That the second statement cannot be had without its second half is
seen in `counted_unanswered`: where an answer is longer than the buffer, the client counts messages
to which the peer says nothing, and goes on to the next.
-/

set_option autoImplicit false

namespace EchoBench.Proofs.Rehearsal

open EchoBench.Config (LoadSettings)
open EchoBench.Load
open EchoBench.Net
open EchoBench.Proofs.Load
open EchoBench.Rehearsal
open EchoBench.Text (utf8)

/-! ### What the peer writes -/

/-- The bytes with which a peer answers a message, by its action for that message: the echo, a text
of its own, or nothing. -/
def answer (message : String) : Action → List UInt8
  | .echo => utf8 message
  | .reply data | .replyClose data | .replyReset data => data
  | .silent | .close | .reset | .stall => []

/-- The answers to the messages that a peer has taken, one for each, in order; some of them may be
empty. -/
def answers : List Action → List String → List (List UInt8)
  | _, [] => []
  | script, message :: seen => answer message (script.headD .echo) :: answers (script.drop 1) seen

/-- The answer to the message that comes after so many. There is none to a message that the peer has
not taken. -/
def answerAfter (script : List Action) (seen : List String) (count : Nat) : List UInt8 :=
  (answers script seen).getD count []

section Answers

variable (script : List Action) (seen : List String) (message : String)

/-- Every message that a peer takes has an answer, if only an empty one. So the answers are numbered
as the messages are, and `answerAfter` finds the one to a given message. -/
theorem length_answers : (answers script seen).length = seen.length := by
  induction seen generalizing script with
  | nil => rfl
  | cons m seen ih => rw [answers, List.length_cons, ih, List.length_cons]

/-- A peer answers a message by the action that its script has come to, and the answers that it gave
before stay as they are. -/
theorem answers_append :
    answers script (seen ++ [message])
      = answers script seen ++ [answer message ((script.drop seen.length).headD .echo)] := by
  induction seen generalizing script with
  | nil => rfl
  | cons m seen ih =>
    rw [List.cons_append, answers, ih, answers, List.drop_drop, List.length_cons, Nat.add_comm 1]
    rfl

/-- The answer to a message does not depend on the messages that come after it. -/
theorem answerAfter_append_of_lt {count : Nat} (h : count < seen.length) :
    answerAfter script (seen ++ [message]) count = answerAfter script seen count := by
  rw [answerAfter, answerAfter, answers_append, List.getD_append _ _ _ _ (by rwa [length_answers])]

/-- The first answers of a peer are the front of what it has written, also when it has written more:
what holds of the front of a stream is not undone by the next answer. -/
theorem flatten_take_answers_append (count : Nat) :
    ((answers script seen).take count).flatten
      <+: ((answers script (seen ++ [message])).take count).flatten := by
  rw [answers_append]
  exact List.IsPrefix.flatten (List.IsPrefix.take (List.prefix_append _ _) count)

end Answers

/-! ### What the client takes -/

/-- The chunk that a call takes from the stream, if it is a read that ends well. -/
def chunk? : Call → Option (List UInt8)
  | .read (.data bytes) => some bytes
  | .read (.failed _) | .read .expired | .dialed _ | .wrote _ _ => none

/-- The chunks that some calls take from the stream, with those that are empty. A client counts the
others as answers. -/
def chunksIn (calls : List Call) : List (List UInt8) :=
  calls.filterMap chunk?

/-- The chunks that a client takes for replies: those of a byte or more. -/
def repliesIn (calls : List Call) : List (List UInt8) :=
  (chunksIn calls).filter (· ≠ [])

/-- The reply to the message that comes after so many. There is none to a message that is not
counted. -/
def replyAfter (calls : List Call) (count : Nat) : List UInt8 :=
  (repliesIn calls).getD count []

section Chunks

variable (calls : List Call) (call : Call)

/-- A call adds at most one chunk, behind those that were taken before. -/
@[simp] theorem chunksIn_append :
    chunksIn (calls ++ [call]) = chunksIn calls ++ (chunk? call).toList := by
  rw [chunksIn, List.filterMap_append, List.filterMap_cons]
  cases chunk? call <;> rfl

/-- A call adds at most one reply, and none if its chunk is empty. -/
@[simp] theorem repliesIn_append :
    repliesIn (calls ++ [call]) = repliesIn calls ++ (chunk? call).toList.filter (· ≠ []) := by
  rw [repliesIn, chunksIn_append, List.filter_append, repliesIn]

/-- An empty chunk has no byte, so the replies have all the bytes that the chunks have. -/
theorem flatten_repliesIn : (repliesIn calls).flatten = (chunksIn calls).flatten :=
  List.flatten_filter_ne_nil

/-- There are as many replies as chunks with a byte, since a client counts a read as a reply by this
alone. -/
theorem length_repliesIn : (repliesIn calls).length = (chunksIn calls).countP (· ≠ []) :=
  List.countP_eq_length_filter.symm

/-- A reply has a byte. So a counted message has something that it was counted for, be it an answer
or what is left of an earlier one. -/
theorem replyAfter_ne_nil {count : Nat} (h : count < (repliesIn calls).length) :
    replyAfter calls count ≠ [] := by
  rw [replyAfter, List.getD_eq_getElem _ _ h]
  have hmem : (repliesIn calls)[count] ∈ (chunksIn calls).filter (· ≠ []) := List.getElem_mem h
  simpa using (List.mem_filter.mp hmem).2

end Chunks

/-! ### Counting bytes -/

section Bytes

variable {α : Type}

/-- Every chunk that is not empty has a byte, so there are at least as many bytes as such chunks. -/
theorem countP_le_length_flatten (chunks : List (List α)) :
    chunks.countP (· ≠ []) ≤ chunks.flatten.length := by
  induction chunks with
  | nil => exact Nat.le_refl 0
  | cons chunk chunks ih =>
    rw [List.flatten_cons, List.length_append]
    by_cases hchunk : chunk = []
    · simpa [hchunk] using ih
    · have hpos := List.length_pos_iff.mpr hchunk
      rw [List.countP_cons_of_pos (by simpa using hchunk)]
      omega

/-- Chunks that fit into a buffer have no more bytes than the buffer, for each that is not empty. -/
theorem length_flatten_le {size : Nat} (chunks : List (List α))
    (hsizes : ∀ chunk ∈ chunks, chunk.length ≤ size) :
    chunks.flatten.length ≤ chunks.countP (· ≠ []) * size := by
  induction chunks with
  | nil => exact Nat.zero_le _
  | cons chunk chunks ih =>
    have hrest := ih fun other hother => hsizes other (List.mem_cons_of_mem _ hother)
    rw [List.flatten_cons, List.length_append]
    by_cases hchunk : chunk = []
    · simpa [hchunk] using hrest
    · have hfits := hsizes chunk List.mem_cons_self
      rw [List.countP_cons_of_pos (by simpa using hchunk), Nat.succ_mul]
      omega

/-- The first chunks have the bytes of the chunks before the last of them, and those of the last. -/
theorem length_flatten_take_succ (chunks : List (List α)) (n : Nat) :
    (chunks.take (n + 1)).flatten.length
      = (chunks.take n).flatten.length + (chunks.getD n []).length := by
  rw [List.take_add_one, List.flatten_append, List.length_append, List.getD_eq_getElem?_getD]
  cases chunks[n]? <;> simp

/-- Chunks that are longer one by one are longer together. It is by this that a reply to a message
without an answer is led back to an earlier reply that was shorter than its answer. -/
theorem length_flatten_take_mono {shorter longer : List (List α)} {n : Nat}
    (h : ∀ i < n, (shorter.getD i []).length ≤ (longer.getD i []).length) :
    (shorter.take n).flatten.length ≤ (longer.take n).flatten.length := by
  induction n with
  | zero => simp
  | succ n ih =>
    have hbefore := ih fun i hi => h i (Nat.lt_succ_of_lt hi)
    have hlast := h n (Nat.lt_succ_self n)
    rw [length_flatten_take_succ, length_flatten_take_succ]
    omega

/-- A list of which the first items are not empty has so many that are not. -/
theorem le_countP_of_getD {l : List (List α)} {n : Nat} (h : ∀ j < n, l.getD j [] ≠ []) :
    n ≤ l.countP (· ≠ []) := by
  induction l generalizing n with
  | nil =>
    cases n with
    | zero => exact Nat.le_refl _
    | succ n => exact absurd rfl (h 0 (Nat.succ_pos n))
  | cons a l ih =>
    cases n with
    | zero => exact Nat.zero_le _
    | succ n =>
      have hfirst : a ≠ [] := h 0 (Nat.succ_pos n)
      have hrest := ih fun j hj => h (j + 1) (Nat.succ_lt_succ hj)
      rw [List.countP_cons_of_pos (by simpa using hfirst)]
      exact Nat.succ_le_succ hrest

end Bytes

/-! ### The calls of a client -/

section Peer

variable (p : Peer) (message : String) (size : Nat)

/-- A message that comes to a peer is refused, or the peer takes it and writes its answer. -/
theorem receive_cases :
    ((p.receive message).1 ≠ .done ∧ (p.receive message).2 = p) ∨
      ∃ side, p.receive message
        = (.done, { (p.take message).put (answer message (p.script.headD .echo)) with side }) := by
  unfold Peer.receive
  cases p.script.headD .echo with
  | stall => exact .inl ⟨nofun, rfl⟩
  | echo | reply data | silent | close | reset | replyClose data | replyReset data =>
    -- Where the peer writes nothing, no byte more waits.
    exact .inr ⟨_, by simp [answer, Peer.put, Peer.take]; rfl⟩

/-- A message is refused on its passage or by the peer, or goes by where the peer has left, or comes
to the peer, which takes it and writes its answer. -/
theorem arrive_cases (passage : Passage) :
    ((p.arrive message passage).1 ≠ .done ∧ (p.arrive message passage).2 = p) ∨
      (p.side ≠ .isOpen ∧ p.arrive message passage = (.done, p)) ∨
      (p.side = .isOpen ∧ ∃ side, p.arrive message passage
        = (.done, { (p.take message).put (answer message (p.script.headD .echo)) with side })) := by
  have hreceive := receive_cases p message
  cases passage with
  | broken written cause => exact .inl ⟨nofun, rfl⟩
  | through =>
    simp only [Peer.arrive]
    cases hside : p.side with
    | isOpen => exact hreceive.imp_right fun htaken => .inr ⟨rfl, htaken⟩
    | closed => exact .inr (.inl ⟨nofun, rfl⟩)
    | aborted => exact .inl ⟨nofun, rfl⟩
  | unnoticed =>
    simp only [Peer.arrive]
    cases hside : p.side with
    | isOpen => exact hreceive.imp_right fun htaken => .inr ⟨rfl, htaken⟩
    | closed | aborted => exact .inr (.inl ⟨nofun, rfl⟩)

/-- What a read does that takes at most so many bytes: it takes a chunk of the front of what waits,
or takes nothing, and everything but what waits is as it was. -/
structure TakesFront (r : ReadAnswer × Peer) : Prop where
  stream : (chunk? (.read r.1)).toList.flatten ++ r.2.waiting = p.waiting
  sizes : ∀ chunk ∈ chunk? (.read r.1), chunk.length ≤ size
  script_eq : r.2.script = p.script
  seen_eq : r.2.seen = p.seen
  side_eq : r.2.side = p.side

variable {p size} in
/-- A read with more room does no worse: what was within the smaller bound is within the greater. -/
theorem TakesFront.mono {room : Nat} {r : ReadAnswer × Peer} (h : TakesFront p size r)
    (hroom : size ≤ room) : TakesFront p room r :=
  { h with sizes := fun chunk hchunk => Nat.le_trans (h.sizes chunk hchunk) hroom }

/-- Where nothing waits, the chunk is empty, and else it is not longer than what is to be had. -/
theorem takesFront_give : TakesFront p size (p.give size) := by
  unfold Peer.give
  cases hwaiting : p.waiting with
  | nil => cases hside : p.side <;> constructor <;> simp [chunk?, hwaiting, hside]
  | cons b bytes => constructor <;> simp [chunk?, hwaiting, Nat.min_le_left]

/-- A read takes from the front of what waits, however much of it has arrived. -/
theorem takesFront_read : TakesFront p size (p.read size) := by
  -- The pace is the business of the read alone, so a peer with another pace takes as `p` does.
  have hgive : ∀ count ≤ size, ∀ pace, TakesFront p size (({ p with pace } : Peer).give count) := by
    intro count hcount pace
    have h := (takesFront_give { p with pace } count).mono hcount
    exact ⟨h.stream, h.sizes, h.script_eq, h.seen_eq, h.side_eq⟩
  unfold Peer.read
  cases p.pace.headD .all with
  | all => exact hgive _ (Nat.le_refl _) _
  | upTo count => exact hgive _ (Nat.min_le_left _ _) _
  | late | broken cause => exact ⟨rfl, nofun, rfl, rfl, rfl⟩

variable {p} in
/-- Where all that waits has arrived, a read that ends well takes as much as it has room for. -/
theorem length_of_read {chunk : List UInt8} (hpace : p.pace = [])
    (hchunk : chunk? (.read (p.read size).1) = some chunk) :
    chunk.length = min size p.waiting.length := by
  revert hchunk
  simp only [Peer.read, hpace, List.headD_nil, Peer.give]
  cases hwaiting : p.waiting with
  | nil => cases p.side <;> simp +contextual [chunk?, eq_comm]
  | cons b bytes => simp +contextual [chunk?, eq_comm]

/-- A read uses up the next entry of the pace, whatever it gives. -/
theorem pace_read : (p.read size).2.pace = p.pace.drop 1 := by
  have hgive : ∀ (q : Peer) count, (q.give count).2.pace = q.pace := by
    intro q count
    unfold Peer.give
    split
    · cases q.side <;> rfl
    · rfl
  unfold Peer.read
  cases p.pace.headD .all with
  | all => exact hgive _ _
  | upTo count => exact hgive _ _
  | late | broken cause => rfl

end Peer

/-! ### What a client and its peer have in common -/

/-- What holds between a client, its peer and the calls between them, at every moment. -/
structure Conserved (settings : LoadSettings) (script : List Action) (pace : List Arrival)
    (c : Client) (p : Peer) (calls : List Call) : Prop where
  /-- The peer has come to the place in its script of the messages that it has taken. -/
  script_eq : p.script = script.drop p.seen.length
  /-- The peer takes no message that was not sent, and as long as it is open it takes them all. -/
  seen_le : p.seen.length ≤ c.record.sent.toNat
  seen_eq : p.side = .isOpen → p.seen.length = c.record.sent.toNat
  /-- No message is sent before the one in front of it was counted. -/
  sent_le : c.record.sent.toNat ≤ c.record.received.toNat + 1
  /-- No byte is lost. -/
  stream : (chunksIn calls).flatten ++ p.waiting = (answers script p.seen).flatten
  sizes : ∀ chunk ∈ chunksIn calls, chunk.length ≤ settings.bufferSize.toNat
  /-- Every message that is counted has a reply. -/
  count : (repliesIn calls).length = c.record.received.toNat
  /-- No byte comes before its time. -/
  inTime : ∀ k ≤ c.record.received.toNat,
    ((repliesIn calls).take k).flatten <+: ((answers script p.seen).take k).flatten
  /-- Where bytes arrive at once, a reply is shorter than the answer only for want of room. -/
  atOnce : pace = [] → p.pace = [] ∧ ∀ i < c.record.received.toNat,
    min settings.bufferSize.toNat (answerAfter script p.seen i).length
      ≤ (replyAfter calls i).length

section Steps

variable {settings : LoadSettings} {script : List Action} {pace : List Arrival} {c : Client}
  {p : Peer} {calls : List Call}

/-- Writing counts no message as answered. -/
theorem received_wrote (seq : Nat) (a : WriteAnswer) :
    (c.wrote seq a).record.received = c.record.received := by
  cases a <;> rfl

/-- A message that could not be written is not counted as sent, so the messages of a peer and the
count of a client go together. -/
theorem sent_wrote_of_ne_done (seq : Nat) {a : WriteAnswer} (h : a ≠ .done) :
    (c.wrote seq a).record.sent = c.record.sent := by
  cases a with
  | done => exact absurd rfl h
  | failed written cause | expired written => rfl

/-- A message that was written is counted. The counter does not overflow, because its value is below
the number of messages. -/
theorem sent_wrote_done {seq : Nat} (ht : Talking settings c) (hstage : c.stage = .sending seq) :
    (c.wrote seq .done).record.sent.toNat = c.record.sent.toNat + 1 := by
  obtain ⟨hseq, hmessages, hsent, -⟩ := ht.of_sending hstage
  exact toNat_succ (m := settings.messages) (by omega)

/-- Going on to the next message counts nothing, so what a call counts can be said before it is
known whether another message follows. -/
theorem goOn_record (c : Client) (seq : Nat) :
    (c.goOn settings seq).record.received = c.record.received ∧
      (c.goOn settings seq).record.sent = c.record.sent := by
  unfold Client.goOn
  split <;> exact ⟨rfl, rfl⟩

/-- Reading sends nothing, whatever comes of it. The messages that the peer has taken are therefore
the same on both sides of a read. -/
theorem sent_received (seq : Nat) (latency : Span) (a : ReadAnswer) :
    (c.received settings seq latency a).record.sent = c.record.sent := by
  cases a with
  | failed cause | expired => rfl
  | data bytes =>
    cases bytes with
    | nil => rfl
    | cons b bytes => exact (goOn_record _ _).2

/-- A read counts a message if it takes a byte, and none otherwise. This is the whole of what a
client knows of its answers. -/
theorem received_received {seq : Nat} (ht : Talking settings c) (hstage : c.stage = .waiting seq)
    (latency : Span) (a : ReadAnswer) :
    (c.received settings seq latency a).record.received.toNat
      = c.record.received.toNat + ((chunk? (.read a)).toList.filter (· ≠ [])).length := by
  cases a with
  | failed cause | expired => rfl
  | data bytes =>
    cases bytes with
    | nil => rfl
    | cons b bytes =>
      obtain ⟨hseq, hmessages, -, hreceived, -⟩ := ht.of_waiting hstage
      have hlt : c.record.received.toNat < settings.messages.toNat := by omega
      have hone : ((chunk? (.read (.data (b :: bytes)))).toList.filter (· ≠ [])).length = 1 := by
        simp [chunk?]
      rw [hone, ← toNat_succ hlt]
      exact congrArg UInt64.toNat (goOn_record _ _).1

/-- What is said of messages still to come is not part of what a client and its peer have in common.
-/
theorem Conserved.of_sends (h : Conserved settings script pace c p calls) (sends : List Passage) :
    Conserved settings script pace c { p with sends } calls :=
  ⟨h.script_eq, h.seen_le, h.seen_eq, h.sent_le, h.stream, h.sizes, h.count, h.inTime, h.atOnce⟩

/-- A write that the peer does not take changes nothing that counts bytes: no byte is written by the
peer and none is read. -/
theorem Conserved.of_wrote {c' : Client} {message : String} {a : WriteAnswer}
    (h : Conserved settings script pace c p calls)
    (hreceived : c'.record.received = c.record.received)
    (hseen : p.seen.length ≤ c'.record.sent.toNat)
    (hopen : p.side = .isOpen → p.seen.length = c'.record.sent.toNat)
    (hsent : c'.record.sent.toNat ≤ c'.record.received.toNat + 1) :
    Conserved settings script pace c' p (calls ++ [.wrote message a]) where
  script_eq := h.script_eq
  seen_le := hseen
  seen_eq := hopen
  sent_le := hsent
  stream := by simpa [chunk?] using h.stream
  sizes := by simpa [chunk?] using h.sizes
  count := by simpa [chunk?, hreceived] using h.count
  inTime := by simpa [chunk?, hreceived] using h.inTime
  atOnce := by simpa [chunk?, hreceived, replyAfter] using h.atOnce

/-- What the peer writes for a message comes behind what waits, and the answers before stay as they
are. -/
theorem conserved_taken {seq : Nat} (h : Conserved settings script pace c p calls)
    (ht : Talking settings c) (hstage : c.stage = .sending seq) (hopen : p.side = .isOpen)
    (message : String) (side : Side) :
    Conserved settings script pace (c.wrote seq .done)
      { (p.take message).put (answer message (p.script.headD .echo)) with side }
      (calls ++ [.wrote message .done]) := by
  have hseen := h.seen_eq hopen
  have hsent := sent_wrote_done ht hstage
  obtain ⟨-, -, hsentNow, hreceivedNow, -⟩ := ht.of_sending hstage
  have hreplies : repliesIn (calls ++ [.wrote message .done]) = repliesIn calls := by
    simp [chunk?]
  refine
    { script_eq := ?_, seen_le := ?_, seen_eq := fun _ => ?_,
      sent_le := (talking_wrote hstage ht .done).sent_le, stream := ?_,
      sizes := by simpa [chunk?] using h.sizes, count := ?_, inTime := ?_, atOnce := ?_ }
  · simp [Peer.put, Peer.take, h.script_eq, List.drop_drop]
  · rw [hsent]
    simp [Peer.put, Peer.take, hseen]
  · rw [hsent]
    simp [Peer.put, Peer.take, hseen]
  · -- The answer is the next one of the script, on both sides.
    simp only [Peer.put, Peer.take, chunksIn_append, chunk?, Option.toList_none, List.append_nil]
    rw [answers_append, List.flatten_append, List.flatten_singleton, ← h.stream, h.script_eq,
      List.append_assoc]
  · rw [hreplies]
    exact h.count
  · intro k hk
    rw [hreplies]
    exact (h.inTime k hk).trans (flatten_take_answers_append script p.seen message k)
  · intro hpace
    obtain ⟨hpeer, hlong⟩ := h.atOnce hpace
    refine ⟨hpeer, fun i hi => ?_⟩
    have hi' : i < p.seen.length := by
      rw [received_wrote] at hi
      omega
    simp only [Peer.put, Peer.take, replyAfter, hreplies]
    rw [answerAfter_append_of_lt script p.seen message hi']
    exact hlong i hi

/-- A message keeps what a client and its peer have in common, whatever becomes of it on its way. -/
theorem conserved_arrived {seq : Nat} (message : String) (passage : Passage)
    (h : Conserved settings script pace c p calls) (ht : Talking settings c)
    (hstage : c.stage = .sending seq) :
    Conserved settings script pace (c.wrote seq (p.arrive message passage).1)
      (p.arrive message passage).2 (calls ++ [.wrote message (p.arrive message passage).1]) := by
  have hsent := (talking_wrote hstage ht (p.arrive message passage).1).sent_le
  obtain ⟨hfailed, hsame⟩ | ⟨hgone, hwrite⟩ | ⟨hopen, side, hwrite⟩ :=
    arrive_cases p message passage
  · have hunsent : (c.wrote seq (p.arrive message passage).1).record.sent = c.record.sent :=
      sent_wrote_of_ne_done seq hfailed
    rw [hsame]
    exact h.of_wrote (received_wrote _ _) (hunsent ▸ h.seen_le) (hunsent ▸ h.seen_eq) hsent
  · -- The message goes by where the peer has left, so the peer has taken fewer than were sent.
    rw [hwrite] at hsent ⊢
    refine h.of_wrote rfl ?_ (fun hopen => absurd hopen hgone) hsent
    rw [sent_wrote_done ht hstage]
    exact Nat.le_succ_of_le h.seen_le
  · rw [hwrite]
    exact conserved_taken h ht hstage hopen message side

/-- A write keeps what a client and its peer have in common: what is said of the messages still to
come is used up, and the rest is the passage of this one. -/
theorem conserved_wrote {seq : Nat} (message : String)
    (h : Conserved settings script pace c p calls) (ht : Talking settings c)
    (hstage : c.stage = .sending seq) :
    Conserved settings script pace (c.wrote seq (p.write message).1) (p.write message).2
      (calls ++ [.wrote message (p.write message).1]) :=
  conserved_arrived message (p.sends.headD .through) (h.of_sends (p.sends.drop 1)) ht hstage

/-- What waits has room for the whole answer to the next message: the replies so far are the front
of the answers before it, so no byte of it has been taken. -/
theorem Conserved.length_answerAfter_le (h : Conserved settings script pace c p calls) :
    (answerAfter script p.seen c.record.received.toNat).length ≤ p.waiting.length := by
  have hstream := congrArg List.length h.stream
  have htaken := (h.inTime _ (Nat.le_refl _)).length_le
  rw [List.take_of_length_le (Nat.le_of_eq h.count), flatten_repliesIn] at htaken
  have hnext := length_flatten_take_succ (answers script p.seen) c.record.received.toNat
  have hfirst : ((answers script p.seen).take (c.record.received.toNat + 1)).flatten
      <+: (answers script p.seen).flatten := List.IsPrefix.flatten (List.take_prefix _ _)
  have hlength := hfirst.length_le
  rw [List.length_append] at hstream
  rw [answerAfter]
  omega

/-- A read counts its message and takes no byte ahead of its time: the answers to this message and
those before are all that the peer has written. -/
theorem inTime_received {seq : Nat} (latency : Span) (h : Conserved settings script pace c p calls)
    (ht : Talking settings c) (hstage : c.stage = .waiting seq) {a : ReadAnswer}
    (hstream : (chunksIn (calls ++ [.read a])).flatten <+: (answers script p.seen).flatten) :
    ∀ k ≤ (c.received settings seq latency a).record.received.toNat,
      ((repliesIn (calls ++ [.read a])).take k).flatten
        <+: ((answers script p.seen).take k).flatten := by
  intro k _
  rcases Nat.lt_or_ge c.record.received.toNat k with hnew | hold
  · have hall : (answers script p.seen).take k = answers script p.seen := by
      obtain ⟨-, -, hsentNow, hreceivedNow, -⟩ := ht.of_waiting hstage
      have hseen := h.seen_le
      refine List.take_of_length_le ?_
      rw [length_answers]
      omega
    rw [hall]
    rw [← flatten_repliesIn] at hstream
    exact (List.IsPrefix.flatten (List.take_prefix k _)).trans hstream
  · rw [repliesIn_append, List.take_append_of_le_length (h.count ▸ hold)]
    exact h.inTime k hold

/-- Where bytes arrive at once, the reply that a read takes is shorter than the answer only for want
of room, since the whole answer waits. -/
theorem atOnce_received {seq : Nat} (latency : Span) (h : Conserved settings script pace c p calls)
    (ht : Talking settings c) (hstage : c.stage = .waiting seq) (hpace : pace = []) :
    ∀ i < (c.received settings seq latency
          (p.read settings.bufferSize.toNat).1).record.received.toNat,
      min settings.bufferSize.toNat (answerAfter script p.seen i).length
        ≤ (replyAfter (calls ++ [.read (p.read settings.bufferSize.toNat).1]) i).length := by
  obtain ⟨hpeer, hlong⟩ := h.atOnce hpace
  intro i hi
  rw [received_received ht hstage] at hi
  rw [replyAfter, repliesIn_append]
  rcases Nat.lt_or_ge i c.record.received.toNat with hold | hnew
  · rw [List.getD_append _ _ _ _ (h.count ▸ hold)]
    exact hlong i hold
  · -- The message is the one that this read counts, so the read has taken a chunk with a byte.
    cases hchunk : chunk? (.read (p.read settings.bufferSize.toNat).1) with
    | none => exact absurd hi (by simp [hchunk, hnew])
    | some chunk =>
      by_cases hempty : chunk = []
      · exact absurd hi (by simp [hchunk, hempty, hnew])
      · have hsome : [chunk].filter (· ≠ []) = [chunk] := by simp [hempty]
        rw [hchunk, Option.toList_some, hsome, List.length_singleton] at hi
        obtain rfl : i = c.record.received.toNat := by omega
        rw [Option.toList_some, hsome, ← h.count, List.getD_append_right _ _ _ _ (Nat.le_refl _),
          Nat.sub_self, List.getD_cons_zero, length_of_read _ hpeer hchunk, h.count]
        have hwaits := h.length_answerAfter_le
        omega

/-- A read keeps what a client and its peer have in common: what it takes goes from what waits to
what has been taken. -/
theorem conserved_received {seq : Nat} (latency : Span)
    (h : Conserved settings script pace c p calls) (ht : Talking settings c)
    (hstage : c.stage = .waiting seq) :
    Conserved settings script pace
      (c.received settings seq latency (p.read settings.bufferSize.toNat).1)
      (p.read settings.bufferSize.toNat).2
      (calls ++ [.read (p.read settings.bufferSize.toNat).1]) := by
  have hread := takesFront_read p settings.bufferSize.toNat
  have hsent : (c.received settings seq latency
      (p.read settings.bufferSize.toNat).1).record.sent = c.record.sent := sent_received _ _ _
  have hstream : (chunksIn (calls ++ [.read (p.read settings.bufferSize.toNat).1])).flatten
      ++ (p.read settings.bufferSize.toNat).2.waiting = (answers script p.seen).flatten := by
    rw [chunksIn_append, List.flatten_append, List.append_assoc, hread.stream, h.stream]
  refine
    { script_eq := ?_, seen_le := ?_, seen_eq := ?_,
      sent_le := (talking_received hstage ht latency _).sent_le, stream := ?_, sizes := ?_,
      count := ?_, inTime := ?_, atOnce := fun hpace => ⟨?_, ?_⟩ }
  · rw [hread.script_eq, hread.seen_eq]
    exact h.script_eq
  · rw [hread.seen_eq, hsent]
    exact h.seen_le
  · rw [hread.side_eq, hread.seen_eq, hsent]
    exact h.seen_eq
  · rw [hread.seen_eq]
    exact hstream
  · intro chunk hchunk
    rw [chunksIn_append, List.mem_append, Option.mem_toList] at hchunk
    exact hchunk.elim (h.sizes chunk) (hread.sizes chunk)
  · rw [repliesIn_append, List.length_append, h.count, received_received ht hstage]
  · rw [hread.seen_eq]
    exact inTime_received latency h ht hstage ⟨_, hstream⟩
  · rw [pace_read, (h.atOnce hpace).1, List.drop_nil]
  · rw [hread.seen_eq]
    exact atOnce_received latency h ht hstage hpace

end Steps

/-! ### Whole conversations -/

section Run

variable (network : Network) (callee : Callee) (settings : LoadSettings) (index : Nat)
  (script : List Action) (pace : List Arrival) (sends : List Passage)

/-- Calling writes no message and reads no byte: it changes nothing about a peer but that it was
called. -/
theorem dial_spec (p : Peer) (host : String) :
    (p.dial network callee host).2
      = { p with called := (p.dial network callee host).2.called } := by
  unfold Peer.dial
  split <;> rfl

/-- The call for a connection sends nothing, whatever comes of it, and reads nothing. -/
theorem dialed_spec (a : DialAnswer) :
    ((Client.start settings index).dialed settings a).record.sent = 0 ∧
      ((Client.start settings index).dialed settings a).record.received = 0 := by
  cases a with
  | failed cause | expired => exact ⟨rfl, rfl⟩
  | connected =>
    simp only [Client.dialed, Client.goOn]
    split
    · split <;> exact ⟨rfl, rfl⟩
    · exact ⟨rfl, rfl⟩

/-- Where nothing has been sent, a client and a peer that has just been started have everything in
common. -/
theorem conserved_of_unsent {c : Client} {calls : List Call} (called : Bool)
    (hcalls : chunksIn calls = []) (hsent : c.record.sent = 0) (hreceived : c.record.received = 0) :
    Conserved settings script pace c { Peer.start script pace sends with called } calls where
  script_eq := rfl
  seen_le := Nat.zero_le _
  seen_eq _ := by simp [hsent, Peer.start]
  sent_le := by simp [hsent]
  stream := by simp [hcalls, Peer.start, answers]
  sizes := by simp [hcalls]
  count := by simp [repliesIn, hcalls, hreceived]
  inTime := by simp [repliesIn, hcalls]
  atOnce hpace := ⟨hpace, by simp [hreceived]⟩

/-- A client and its peer have in common what `Conserved` says at every moment of a conversation. -/
theorem conserved_runFor (calls : Nat) :
    Conserved settings script pace
      (Client.runFor (Peer.link network callee settings.host) settings calls
        (Client.start settings index) (.start script pace sends)).1
      (Client.runFor (Peer.link network callee settings.host) settings calls
        (Client.start settings index) (.start script pace sends)).2
      (transcript (Peer.link network callee settings.host) settings index calls
        (.start script pace sends)) := by
  obtain ⟨hclient, hpeer⟩ := runFor_transcribed (Peer.link network callee settings.host) settings
    calls (Client.start settings index) (.start script pace sends) []
  obtain ⟨hsent, hreceived⟩ := dialed_spec settings index
    ((Peer.start script pace sends).dial network callee settings.host).1
  have hdial := dial_spec network callee (Peer.start script pace sends) settings.host
  rw [← hclient, ← hpeer]
  refine conversation_induction (transcribed (Peer.link network callee settings.host)) settings
    index (.start script pace sends, []) (P := fun c t => Conserved settings script pace c t.1 t.2)
    (conserved_of_unsent settings script pace sends false rfl rfl rfl) ?_
    (fun _ _ _ ht _ hstage h => conserved_wrote _ h ht hstage)
    (fun _ _ _ ht _ hstage h => conserved_received _ h ht hstage) calls
  -- Whatever the call came to, the peer has written nothing and the client has read nothing.
  show Conserved settings script pace _ ((Peer.start script pace sends).dial network callee _).2
    [.dialed _]
  rw [hdial]
  exact conserved_of_unsent settings script pace sends _ rfl hsent hreceived

end Run

/-- What becomes of the answers of a scripted peer, at every moment of a conversation, however its
bytes arrive and whatever becomes of the messages. The chunks that the client has taken, and behind
them the bytes that wait, are the answers one after the other. No chunk is greater than the buffer,
and as many chunks have a byte as there are messages that the client counts as answered. So it
counts no more messages than the peer has written bytes, and none with a buffer of no size; and it
has taken no more than a buffer for each. -/
theorem conserved_of_run (network : Network) (callee : Callee) (settings : LoadSettings)
    (index : Nat) (script : List Action) (pace : List Arrival) (sends : List Passage)
    (calls : Nat) :
    let link := Peer.link network callee settings.host
    let talk := Client.runFor link settings calls (Client.start settings index)
      (.start script pace sends)
    let chunks := chunksIn (transcript link settings index calls (.start script pace sends))
    let answered := (answers script talk.2.seen).flatten
    let received := talk.1.record.received.toNat
    let size := settings.bufferSize.toNat
    chunks.flatten ++ talk.2.waiting = answered ∧
    chunks.flatten <+: answered ∧
    chunks.countP (· ≠ []) = received ∧
    (∀ chunk ∈ chunks, chunk.length ≤ size) ∧
    received ≤ answered.length ∧
    chunks.flatten.length ≤ received * size ∧
    (size = 0 → received = 0) := by
  intro link talk chunks answered received size
  have h : Conserved settings script pace talk.1 talk.2 _ :=
    conserved_runFor network callee settings index script pace sends calls
  have hstream : chunks.flatten ++ talk.2.waiting = answered := h.stream
  have hcount : chunks.countP (· ≠ []) = received := by
    rw [← length_repliesIn]
    exact h.count
  have hleast : received ≤ chunks.flatten.length := by
    rw [← hcount]
    exact countP_le_length_flatten chunks
  have hmost : chunks.flatten.length ≤ received * size := by
    rw [← hcount]
    exact length_flatten_le chunks h.sizes
  refine ⟨hstream, ⟨_, hstream⟩, hcount, h.sizes, ?_, hmost, ?_⟩
  · have hlength := congrArg List.length hstream
    rw [List.length_append] at hlength
    omega
  · intro hsize
    rw [hsize, Nat.mul_zero] at hmost
    omega

/-! ### Replies and answers -/

section Replies

variable {settings : LoadSettings} {script : List Action} {pace : List Arrival} {c : Client}
  {p : Peer} {calls : List Call}

/-- The first replies have no more bytes than the answers to as many messages. -/
theorem Conserved.length_replies_le (h : Conserved settings script pace c p calls) {k : Nat}
    (hk : k ≤ c.record.received.toNat) :
    ((repliesIn calls).take k).flatten.length ≤ ((answers script p.seen).take k).flatten.length :=
  (h.inTime k hk).length_le

/-- A message that is counted has an answer, or a reply before it was shorter than the answer to its
message: were none, the replies before would have used up the answers before, and there would be
nothing left for this one. -/
theorem Conserved.answered_or_shorter (h : Conserved settings script pace c p calls) {j : Nat}
    (hj : j < c.record.received.toNat) :
    answerAfter script p.seen j ≠ [] ∨
      ∃ i < j, (replyAfter calls i).length < (answerAfter script p.seen i).length := by
  by_contra hnot
  simp only [not_or, not_exists, not_and, Nat.not_lt, ne_eq, not_not] at hnot
  obtain ⟨hnone, hlong⟩ := hnot
  have hreply := List.length_pos_iff.mpr (replyAfter_ne_nil calls (h.count ▸ hj))
  have hbefore := length_flatten_take_mono hlong
  have hreplies := length_flatten_take_succ (repliesIn calls) j
  have hanswers := length_flatten_take_succ (answers script p.seen) j
  have hfront := h.length_replies_le (Nat.succ_le_of_lt hj)
  rw [Nat.succ_eq_add_one] at hfront
  rw [answerAfter] at hnone
  rw [hnone, List.length_nil] at hanswers
  rw [replyAfter] at hreply
  omega

/-- The answers to the messages that are counted have a byte for each of them. -/
theorem Conserved.le_length_answers (h : Conserved settings script pace c p calls) {k : Nat}
    (hk : k ≤ c.record.received.toNat) :
    k ≤ ((answers script p.seen).take k).flatten.length := by
  have hfirst : ∀ j < k, ((repliesIn calls).take k).getD j [] ≠ [] := by
    intro j hj
    have hlt : j < (repliesIn calls).length := by
      have hcount := h.count
      omega
    have hreply := replyAfter_ne_nil calls hlt
    rwa [replyAfter, List.getD_eq_getElem?_getD, ← List.getElem?_take_of_lt hj,
      ← List.getD_eq_getElem?_getD] at hreply
  calc k ≤ ((repliesIn calls).take k).countP (· ≠ []) := le_countP_of_getD hfirst
    _ ≤ ((repliesIn calls).take k).flatten.length := countP_le_length_flatten _
    _ ≤ ((answers script p.seen).take k).flatten.length := h.length_replies_le hk

end Replies

/-- What a client counts, at every moment of a conversation with a scripted peer, however its bytes
arrive and whatever becomes of the messages. Each message that is counted has a reply of a byte or
more, and the first replies together are the front of the answers to as many messages, which have a
byte for each. So behind each message that is counted stands an answer of the peer to it, or a reply
before it that was shorter than the answer to its message. No message is sent before the one in
front of it was counted. Where no reply is shorter than the answer, each message that was counted
has an answer of its own. Where bytes arrive at once, a reply is shorter only for want of room. -/
theorem answered_or_leftover (network : Network) (callee : Callee) (settings : LoadSettings)
    (index : Nat) (script : List Action) (pace : List Arrival) (sends : List Passage)
    (calls : Nat) :
    let link := Peer.link network callee settings.host
    let talk := Client.runFor link settings calls (Client.start settings index)
      (.start script pace sends)
    let made := transcript link settings index calls (.start script pace sends)
    let received := talk.1.record.received.toNat
    let seen := talk.2.seen
    (repliesIn made).length = received ∧
      (∀ k ≤ received, k ≤ ((answers script seen).take k).flatten.length ∧
        ((repliesIn made).take k).flatten <+: ((answers script seen).take k).flatten) ∧
      (∀ j < received, answerAfter script seen j ≠ [] ∨
        ∃ i < j, (replyAfter made i).length < (answerAfter script seen i).length) ∧
      seen.length ≤ talk.1.record.sent.toNat ∧ talk.1.record.sent.toNat ≤ received + 1 ∧
      ((∀ i < received, (answerAfter script seen i).length ≤ (replyAfter made i).length) →
        (∀ j < received, answerAfter script seen j ≠ []) ∧
          received ≤ (answers script seen).countP (· ≠ [])) ∧
      (pace = [] → ∀ i < received,
        (replyAfter made i).length < (answerAfter script seen i).length →
          settings.bufferSize.toNat < (answerAfter script seen i).length) := by
  intro link talk made received seen
  have h : Conserved settings script pace talk.1 talk.2 made :=
    conserved_runFor network callee settings index script pace sends calls
  refine ⟨h.count, fun k hk => ⟨h.le_length_answers hk, h.inTime k hk⟩,
    fun j hj => h.answered_or_shorter hj, h.seen_le, h.sent_le, fun hwhole => ?_,
    fun hpace i hi hshort => ?_⟩
  · have hanswered : ∀ j < received, answerAfter script seen j ≠ [] := by
      intro j hj
      obtain hanswer | ⟨i, hi, hshort⟩ := h.answered_or_shorter hj
      · exact hanswer
      · exact absurd (hwhole i (Nat.lt_trans hi hj)) (Nat.not_le.mpr hshort)
    exact ⟨hanswered, le_countP_of_getD hanswered⟩
  · have hroom : min settings.bufferSize.toNat (answerAfter script seen i).length
        ≤ (replyAfter made i).length := (h.atOnce hpace).2 i hi
    omega

/-- Three messages, and a buffer of one byte, so that an answer of three bytes is enough for all of
them. -/
def threeShortReads : LoadSettings :=
  { LoadSettings.default with messages := 3, bufferSize := 1 }

/-- A client may count messages without an answer, and go on to the next: the bytes that it reads
are left over of the answer to the first. -/
theorem counted_unanswered :
    let script := [.reply [97, 98, 99], .silent, .silent]
    let talk := converse .loopback .serving threeShortReads 0 script
    talk.1.record.received = 3 ∧ talk.2.seen.length = 3 ∧
      answerAfter script talk.2.seen 1 = [] ∧ answerAfter script talk.2.seen 2 = [] := by
  decide +kernel

/-- Room does not help: an echo that arrives in two parts is read for two messages. -/
example :
    let settings := { LoadSettings.default with messages := 2 }
    let talk := Client.run (Peer.link .loopback .serving settings.host) settings 0
      (.start [.echo, .silent] [.upTo 1] [])
    talk.1.record.received = 2 ∧ talk.2.seen.length = 2 ∧
      answerAfter [.echo, .silent] talk.2.seen 1 = [] := by
  decide +kernel

end EchoBench.Proofs.Rehearsal
