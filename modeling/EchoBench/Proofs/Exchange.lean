import EchoBench.Proofs.Load.Transcript
import EchoBench.Serve.Handler

/-!
# `EchoBench.Proofs.Exchange`: a client and a handler that talk to each other

An `Exchange` is a client and a handler with the bytes between them, in both directions. Nothing
fails on the way and no time is ever over, but everything may take its time: a message and a chunk
are put on the way in pieces, a read gives any part of what has arrived, and the two take their
steps in any order (`Exchange.Step`).

A client reads once for a message, so it may leave a part of an answer to its later reads.
`Exchange.InOrder` is the invariant that still holds. No byte is lost, doubled or overtaken on the
way from the client through the handler and back, and while the client waits for an answer it has
not read a byte of the message that it sent last. So an answer is always on its way, the client
never finds the stream closed, the two are never stuck, and every exchange comes to an end, with all
messages sent and answered. `Exchange.Relayed` puts this together.

An exchange starts with the two programs as they are once the connection is made: each sets up its
buffer first, and crashes if it asks for more than can be had. `Exchange.relayed_of_run` therefore
has three parts. With two buffers that can be had, the exchange is relayed. A client with a greater
one has crashed at every moment and never writes a byte; a handler with a greater one has crashed at
every moment, and nothing ever comes back from it.
-/

set_option autoImplicit false

namespace EchoBench.Proofs

open EchoBench.Config (LoadSettings)
open EchoBench.Load
open EchoBench.Net
open EchoBench.Proofs.Load
open EchoBench.Serve
open EchoBench.Text (utf8)

/-- A client and a handler at the two ends of a stream, each as its own program has it, and between
them the bytes that are under way in either direction. -/
structure Exchange where
  client : Client
  /-- How much of its message the client has put on the way. -/
  clientPut : Nat
  /-- What the client has sent and the handler has not read. -/
  inbound : List UInt8
  handler : Handler
  /-- How much of its chunk the handler has put on the way. -/
  handlerPut : Nat
  /-- What the handler has sent and the client has not read. -/
  outbound : List UInt8
  /-- Everything that the client has put on the way. -/
  written : List UInt8
  /-- Everything that the client has read. -/
  consumed : List UInt8

/-- The two sides of an exchange. -/
inductive Party
  | client
  | handler
  deriving DecidableEq, Repr

namespace Exchange

/-- The connection is made and each side has set up its buffer, or crashed over it. Nothing is on
the way yet. -/
def start (settings : LoadSettings) (index size : Nat) : Exchange where
  client := (Client.start settings index).dialed settings .connected
  clientPut := 0
  inbound := []
  handler := .start ⟨size, none⟩
  handlerPut := 0
  outbound := []
  written := []
  consumed := []

/-- The rest of the message that the client is sending, of which a write may take any part. It is
empty where the client is not in the middle of a write. -/
def unsent (settings : LoadSettings) (d : Exchange) : List UInt8 :=
  match d.client.stage with
  | .sending seq => (utf8 (d.client.message settings seq)).drop d.clientPut
  | .dialing | .waiting _ | .finished | .crashed _ => []

/-- The rest of the chunk that the handler is writing back. Together with the two queues it is all
that can be on the way from a message to its answer. -/
def held (d : Exchange) : List UInt8 :=
  d.handler.chunk.drop d.handlerPut

/-- Whether the handler has left the stream, well or with an error. A read of the client then finds
the end of the stream once the queue is empty. -/
def isClosed (d : Exchange) : Bool :=
  match d.handler.stage with
  | .ended | .failed _ | .crashed _ => true
  | .reading | .writing _ => false

/-- What a side of an exchange can do next. A write puts any positive part of what is left on its
queue and a read takes any positive part that fits its buffer, so every chunking and every
interleaving of the two sides is a run. -/
inductive Step (settings : LoadSettings) : Party → Exchange → Exchange → Prop
  /-- The client puts a piece of its message on the way. -/
  | put {d : Exchange} {seq : Nat} (piece rest : List UInt8)
      (hstage : d.client.stage = .sending seq) (hunsent : d.unsent settings = piece ++ rest)
      (hpiece : piece ≠ []) :
      Step settings .client d
        { d with
          clientPut := d.clientPut + piece.length
          inbound := d.inbound ++ piece
          written := d.written ++ piece }
  /-- The whole message is on the way, and the client goes on to wait. -/
  | sent {d : Exchange} {seq : Nat}
      (hstage : d.client.stage = .sending seq) (hunsent : d.unsent settings = []) :
      Step settings .client d { d with client := d.client.wrote seq .done }
  /-- The client reads some of the bytes that have arrived. -/
  | take {d : Exchange} {seq : Nat} (latency : Span) (bytes rest : List UInt8)
      (hstage : d.client.stage = .waiting seq) (harrived : d.outbound = bytes ++ rest)
      (hbytes : bytes ≠ []) (hsize : bytes.length ≤ settings.bufferSize.toNat) :
      Step settings .client d
        { d with
          client := d.client.received settings seq latency (.data bytes)
          clientPut := 0
          outbound := rest
          consumed := d.consumed ++ bytes }
  /-- The client finds that the handler has left. -/
  | takeEnd {d : Exchange} {seq : Nat} (latency : Span)
      (hstage : d.client.stage = .waiting seq) (harrived : d.outbound = [])
      (hclosed : d.isClosed = true) :
      Step settings .client d
        { d with client := d.client.received settings seq latency (.data []) }
  /-- The handler reads some of the bytes that have arrived. -/
  | handlerTake {d : Exchange} (bytes rest : List UInt8)
      (hstage : d.handler.stage = .reading) (harrived : d.inbound = bytes ++ rest)
      (hbytes : bytes ≠ []) (hsize : bytes.length ≤ d.handler.settings.bufferSize) :
      Step settings .handler d
        { d with
          handler := d.handler.step (.read (.data bytes))
          handlerPut := 0
          inbound := rest }
  /-- The handler finds that the client has left. -/
  | handlerTakeEnd {d : Exchange}
      (hstage : d.handler.stage = .reading) (harrived : d.inbound = [])
      (hover : d.client.isOver = true) :
      Step settings .handler d { d with handler := d.handler.step (.read (.data [])) }
  /-- The handler puts a piece of its chunk on the way. -/
  | handlerPut {d : Exchange} {size : Nat} (piece rest : List UInt8)
      (hstage : d.handler.stage = .writing size) (hheld : d.held = piece ++ rest)
      (hpiece : piece ≠ []) :
      Step settings .handler d
        { d with
          handlerPut := d.handlerPut + piece.length
          outbound := d.outbound ++ piece }
  /-- The whole chunk is on the way, and the handler goes on to read. -/
  | handlerSent {d : Exchange} {size : Nat}
      (hstage : d.handler.stage = .writing size) (hheld : d.held = []) :
      Step settings .handler d { d with handler := d.handler.step (.write .done) }

/-- What an exchange can have come to after so many steps. -/
inductive Run (settings : LoadSettings) (first : Exchange) : Nat → Exchange → Prop
  | start : Run settings first 0 first
  | step {steps : Nat} {party : Party} {d next : Exchange} (hrun : Run settings first steps d)
      (hstep : Step settings party d next) : Run settings first (steps + 1) next

end Exchange

/-! ### What an exchange keeps -/

/-- What a client has written and read, by stage. It has read no more than the messages before the
one that it is at. -/
def HasSent (settings : LoadSettings) (index : Nat) (stage : Stage) (put : Nat)
    (written consumed : List UInt8) : Prop :=
  match stage with
  | .sending seq =>
    written = bytesUpTo settings index (seq - 1) ++ (messageBytes settings index seq).take put ∧
      consumed.length ≤ (bytesUpTo settings index (seq - 1)).length
  | .waiting seq =>
    written = bytesUpTo settings index seq ∧
      consumed.length ≤ (bytesUpTo settings index (seq - 1)).length
  | .finished => written = bytesUpTo settings index settings.messages.toNat
  | .dialing | .crashed _ => False

namespace Exchange

/-- The handler serves as long as the client talks. It returns only behind a client that is over,
and it never fails or crashes here. -/
def IsServed (d : Exchange) : Prop :=
  match d.handler.stage with
  | .reading | .writing _ => True
  | .ended => d.client.isOver = true
  | .failed _ | .crashed _ => False

/-- Both sides do what they should, and the bytes that the client has written are those that it has
read, those on the way back, those that the handler holds and those on the way there. -/
structure InOrder (settings : LoadSettings) (index size : Nat) (d : Exchange) : Prop where
  talking : Talking settings d.client
  about : IsAbout settings index d.client.record
  errors : d.client.record.errors = []
  sent : HasSent settings index d.client.stage d.clientPut d.written d.consumed
  stream : d.written = d.consumed ++ d.outbound ++ d.held ++ d.inbound
  settings_eq : d.handler.settings = ⟨size, none⟩
  served : d.IsServed

end Exchange

section GoOn

variable {settings : LoadSettings} {index : Nat} {c : Client}

/-- Going on to the next message reports no error, whether there is a next message or the
conversation is complete. -/
theorem errors_goOn (seq : Nat) : (c.goOn settings seq).record.errors = c.record.errors := by
  unfold Client.goOn
  split <;> rfl

/-- A client that goes on to a message has written all messages before it. -/
theorem hasSent_goOn {seq : Nat} {written consumed : List UInt8}
    (hmessages : seq ≤ settings.messages.toNat + 1)
    (hwritten : written = bytesUpTo settings index (seq - 1))
    (hconsumed : consumed.length ≤ written.length) :
    HasSent settings index (c.goOn settings seq).stage 0 written consumed := by
  by_cases hle : seq ≤ settings.messages.toNat
  · rw [Client.goOn, if_pos hle]
    exact ⟨by rw [List.take_zero, List.append_nil, hwritten], hwritten ▸ hconsumed⟩
  · -- No message is left, so all of them are written.
    have hlast : seq - 1 = settings.messages.toNat := by omega
    rw [Client.goOn, if_neg hle]
    rwa [hlast] at hwritten

end GoOn

namespace Exchange

section Steps

variable {settings : LoadSettings} {index size : Nat} {d : Exchange}

/-- A client whose buffer can be had goes on to its first message, or is done at once where there is
none to send. -/
theorem client_start (hbuffer : settings.bufferSize.toNat ≤ greatestBuffer) :
    (start settings index size).client
      = .goOn settings ⟨(Client.start settings index).record.connect, .dialing⟩ 1 := by
  rw [start, Client.dialed, if_pos hbuffer]
  rfl

/-- A handler whose buffer can be had begins by reading. One whose buffer cannot be had has crashed,
which is the other case of the start. -/
theorem stage_handler_start (hsize : size ≤ greatestBuffer) :
    (start settings index size).handler.stage = .reading :=
  if_pos hsize

/-- An exchange is in order when it starts, if both buffers can be had. -/
theorem inOrder_start (hbuffer : settings.bufferSize.toNat ≤ greatestBuffer)
    (hsize : size ≤ greatestBuffer) :
    (start settings index size).InOrder settings index size := by
  have hclient := @client_start settings index size hbuffer
  have hstage := @stage_handler_start settings index size hsize
  refine ⟨?_, ?_, ?_, ?_, ?_, rfl, ?_⟩
  · rw [hclient]
    exact talking_goOn rfl (Nat.le_refl 1) (by omega) rfl rfl rfl
  · rw [hclient]
    exact isAbout_goOn 1 ⟨rfl, rfl, rfl⟩
  · rw [hclient]
    exact errors_goOn 1
  · rw [hclient]
    exact hasSent_goOn (by omega) rfl (Nat.le_refl 0)
  · -- Nothing is written, and a handler that reads holds no byte.
    rw [held, Handler.chunk, hstage]
    rfl
  · rw [IsServed, hstage]
    trivial

/-- A client that is not over has a handler that serves it, so the client never reads the end of the
stream and always has somebody who takes its bytes. -/
theorem InOrder.isClosed_eq_false (h : d.InOrder settings index size)
    (hover : d.client.isOver = false) : d.isClosed = false := by
  have hserved := h.served
  unfold IsServed at hserved
  cases hstage : d.handler.stage with
  | reading | writing size => simp [isClosed, hstage]
  | ended => simp [hstage, hover] at hserved
  | failed error | crashed text => simp [hstage] at hserved

/-- A handler that has not left serves: it reads or writes, and has neither ended nor failed. -/
theorem isServed_of_isClosed (hclosed : d.isClosed = false) : d.IsServed := by
  unfold IsServed
  cases hstage : d.handler.stage with
  | reading | writing size => trivial
  | ended | failed error | crashed text => simp [isClosed, hstage] at hclosed

/-- A handler that reads holds no byte: it reads again only when the chunk before has been written
to its end. -/
theorem held_of_reading (hstage : d.handler.stage = .reading) : d.held = [] := by
  rw [held, Handler.chunk, hstage, List.drop_nil]

/-- The client puts a piece of its message on the way. What it has written grows by what is unsent
less by, so the message is still the one whose turn it is. -/
theorem inOrder_put {seq : Nat} {piece rest : List UInt8} (h : d.InOrder settings index size)
    (hstage : d.client.stage = .sending seq) (hunsent : d.unsent settings = piece ++ rest) :
    InOrder settings index size
      { d with
        clientPut := d.clientPut + piece.length
        inbound := d.inbound ++ piece
        written := d.written ++ piece } := by
  have hsent := h.sent
  rw [hstage] at hsent
  obtain ⟨hwritten, hconsumed⟩ := hsent
  have hrest : (messageBytes settings index seq).drop d.clientPut = piece ++ rest := by
    rw [← utf8_message h.about, ← hunsent, unsent, hstage]
  refine ⟨h.talking, h.about, h.errors, ?_, ?_, h.settings_eq, h.served⟩
  · -- The piece continues the part of the message that was written before.
    rw [hstage]
    refine ⟨?_, hconsumed⟩
    rw [hwritten, List.take_add, hrest, List.take_left, List.append_assoc]
  · rw [h.stream]
    simp [held]

/-- The whole message is on the way, and the client counts it and waits. The bytes behind the last
of them belong to the next message. -/
theorem inOrder_sent {seq : Nat} (h : d.InOrder settings index size)
    (hstage : d.client.stage = .sending seq) (hunsent : d.unsent settings = []) :
    InOrder settings index size { d with client := d.client.wrote seq .done } := by
  obtain ⟨hseq, -⟩ := h.talking.of_sending hstage
  have hsent := h.sent
  rw [hstage] at hsent
  obtain ⟨hwritten, hconsumed⟩ := hsent
  have hwhole : (messageBytes settings index seq).length ≤ d.clientPut := by
    rw [← List.drop_eq_nil_iff, ← utf8_message h.about, ← hunsent, unsent, hstage]
  refine ⟨talking_wrote hstage h.talking .done, h.about, h.errors, ⟨?_, hconsumed⟩, h.stream,
    h.settings_eq, ?_⟩
  · rw [hwritten, List.take_of_length_le hwhole, ← bytesUpTo_of_pos hseq]
  · exact isServed_of_isClosed (h.isClosed_eq_false (by rw [Client.isOver, hstage]))

/-- The client reads some of the bytes that have arrived. They are counted as the answer of its
message, and the rest of that answer stays in the queues, to be read by a later message. -/
theorem inOrder_take {seq : Nat} {bytes rest : List UInt8} (h : d.InOrder settings index size)
    (hstage : d.client.stage = .waiting seq) (latency : Span) (harrived : d.outbound = bytes ++ rest)
    (hbytes : bytes ≠ []) :
    InOrder settings index size
      { d with
        client := d.client.received settings seq latency (.data bytes)
        clientPut := 0
        outbound := rest
        consumed := d.consumed ++ bytes } := by
  have htalking := talking_received hstage h.talking latency (.data bytes)
  obtain ⟨-, hmessages, -⟩ := h.talking.of_waiting hstage
  have hsent := h.sent
  rw [hstage] at hsent
  have hstream : d.written = (d.consumed ++ bytes) ++ rest ++ d.held ++ d.inbound := by
    rw [h.stream, harrived]
    simp
  -- With a byte the client counts the message and goes on.
  obtain ⟨b, bytes, rfl⟩ := List.exists_cons_of_ne_nil hbytes
  refine ⟨htalking, isAbout_goOn (seq + 1) h.about, (errors_goOn (seq + 1)).trans h.errors, ?_,
    hstream, h.settings_eq, ?_⟩
  · -- What the client has read is a part of what it has written.
    refine hasSent_goOn (by omega) hsent.1 ?_
    have hlength := congrArg List.length hstream
    simp only [List.length_append] at hlength ⊢
    omega
  · exact isServed_of_isClosed (h.isClosed_eq_false (by rw [Client.isOver, hstage]))

/-- The handler reads some of the bytes that have arrived. It holds them all. -/
theorem inOrder_handlerTake {bytes rest : List UInt8} (h : d.InOrder settings index size)
    (hstage : d.handler.stage = .reading) (harrived : d.inbound = bytes ++ rest)
    (hbytes : bytes ≠ []) :
    InOrder settings index size
      { d with
        handler := d.handler.step (.read (.data bytes))
        handlerPut := 0
        inbound := rest } := by
  have hchunk := Handler.chunk_received_data d.handler hbytes
  have hnone := held_of_reading hstage
  rw [Handler.step, hstage]
  obtain ⟨b, bytes, rfl⟩ := List.exists_cons_of_ne_nil hbytes
  refine ⟨h.talking, h.about, h.errors, h.sent, ?_, h.settings_eq, trivial⟩
  rw [h.stream, hnone, harrived, held, hchunk]
  simp

/-- The handler finds that the client has left. It does so only behind the last byte, so it holds
nothing then and nothing is lost. -/
theorem inOrder_handlerTakeEnd (h : d.InOrder settings index size)
    (hstage : d.handler.stage = .reading) (hover : d.client.isOver = true) :
    InOrder settings index size { d with handler := d.handler.step (.read (.data [])) } := by
  have hnone := held_of_reading hstage
  rw [Handler.step, hstage]
  refine ⟨h.talking, h.about, h.errors, h.sent, ?_, h.settings_eq, hover⟩
  rw [h.stream, hnone]
  simp [held, Handler.chunk, Handler.received, Handler.goTo]

/-- The handler puts a piece of its chunk on the way back. The piece leaves what is held and enters
the queue, so what is under way stays the same. -/
theorem inOrder_handlerPut {piece rest : List UInt8} (h : d.InOrder settings index size)
    (hheld : d.held = piece ++ rest) :
    InOrder settings index size
      { d with
        handlerPut := d.handlerPut + piece.length
        outbound := d.outbound ++ piece } := by
  refine ⟨h.talking, h.about, h.errors, h.sent, ?_, h.settings_eq, h.served⟩
  have hrest : d.handler.chunk.drop (d.handlerPut + piece.length) = rest := by
    rw [← List.drop_drop, ← held, hheld, List.drop_left]
  rw [h.stream, hheld, held, hrest]
  simp

/-- The whole chunk is on the way, and the handler goes back to reading. -/
theorem inOrder_handlerSent {count : Nat} (h : d.InOrder settings index size)
    (hstage : d.handler.stage = .writing count) (hheld : d.held = []) :
    InOrder settings index size { d with handler := d.handler.step (.write .done) } := by
  rw [Handler.step, hstage]
  refine ⟨h.talking, h.about, h.errors, h.sent, ?_, h.settings_eq, trivial⟩
  rw [h.stream, hheld]
  simp [held, Handler.chunk, Handler.wrote, Handler.goTo]

/-- Every step keeps an exchange in order: one case for each step that a client or a handler can
make, which the lemmas before this one settle one by one. -/
theorem inOrder_step {party : Party} {next : Exchange} (h : d.InOrder settings index size)
    (hstep : Step settings party d next) : next.InOrder settings index size := by
  cases hstep with
  | put piece rest hstage hunsent => exact inOrder_put h hstage hunsent
  | sent hstage hunsent => exact inOrder_sent h hstage hunsent
  | take latency bytes rest hstage harrived hbytes =>
    exact inOrder_take h hstage latency harrived hbytes
  | takeEnd latency hstage harrived hclosed =>
    -- The handler has not left while the client waits.
    rw [h.isClosed_eq_false (by rw [Client.isOver, hstage])] at hclosed
    cases hclosed
  | handlerTake bytes rest hstage harrived hbytes =>
    exact inOrder_handlerTake h hstage harrived hbytes
  | handlerTakeEnd hstage harrived hover => exact inOrder_handlerTakeEnd h hstage hover
  | handlerPut piece rest hstage hheld => exact inOrder_handlerPut h hheld
  | handlerSent hstage hheld => exact inOrder_handlerSent h hstage hheld

/-- An exchange with buffers that can be had stays in order, by induction on its steps; both
programs start with the buffers that the hypothesis speaks of. -/
theorem inOrder_run (hbuffer : settings.bufferSize.toNat ≤ greatestBuffer)
    (hsize : size ≤ greatestBuffer) {steps : Nat}
    (hrun : Run settings (start settings index size) steps d) : d.InOrder settings index size := by
  induction hrun with
  | start => exact inOrder_start hbuffer hsize
  | step _ hstep ih => exact inOrder_step ih hstep

/-! ### Buffers that cannot be had -/

/-- A client whose buffer cannot be had has crashed at every moment, and has written nothing. Only
the handler still takes steps, and none of these changes the client. -/
theorem client_crashed_run (hbuffer : greatestBuffer < settings.bufferSize.toNat) {steps : Nat}
    (hrun : Run settings (start settings index size) steps d) :
    d.client.stage = .crashed bufferCrash ∧ d.written = [] := by
  induction hrun with
  | start =>
    rw [start, Client.dialed, if_neg (Nat.not_le.mpr hbuffer)]
    exact ⟨rfl, rfl⟩
  | step _ hstep ih =>
    obtain ⟨hcrashed, hwritten⟩ := ih
    cases hstep with
    | put _ _ hstage | sent hstage | take _ _ _ hstage | takeEnd _ hstage =>
      rw [hcrashed] at hstage
      cases hstage
    | handlerTake | handlerTakeEnd | handlerPut | handlerSent => exact ⟨hcrashed, hwritten⟩

/-- A handler whose buffer cannot be had has crashed at every moment, and nothing has come back from
it. The client writes nevertheless, and finds the stream closed where it waits. -/
theorem handler_crashed_run (hsize : greatestBuffer < size) {steps : Nat}
    (hrun : Run settings (start settings index size) steps d) :
    d.handler.stage = .crashed bufferCrash ∧ d.outbound = [] ∧ d.consumed = [] := by
  induction hrun with
  | start => exact ⟨if_neg (Nat.not_le.mpr hsize), rfl, rfl⟩
  | step _ hstep ih =>
    obtain ⟨hcrashed, hnothing, hconsumed⟩ := ih
    cases hstep with
    | put | sent | takeEnd => exact ⟨hcrashed, hnothing, hconsumed⟩
    | take _ bytes rest _ harrived hbytes =>
      rw [hnothing] at harrived
      exact absurd (List.append_eq_nil_iff.mp harrived.symm).1 hbytes
    | handlerTake _ _ hstage | handlerTakeEnd hstage | handlerPut _ _ hstage | handlerSent hstage =>
      rw [hcrashed] at hstage
      cases hstage

/-! ### An exchange goes on -/

/-- While the client waits for an answer, no byte of its last message has been read. -/
theorem InOrder.length_unread {seq : Nat} (h : d.InOrder settings index size)
    (hstage : d.client.stage = .waiting seq) :
    (messageBytes settings index seq).length ≤ (d.outbound ++ d.held ++ d.inbound).length := by
  obtain ⟨hseq, -⟩ := h.talking.of_waiting hstage
  have hsent := h.sent
  rw [hstage] at hsent
  obtain ⟨hwritten, hconsumed⟩ := hsent
  -- All messages up to this one are written, and at most those before it have been read.
  have hstream := congrArg List.length h.stream
  rw [hwritten, bytesUpTo_of_pos hseq] at hstream
  simp only [List.length_append] at hstream ⊢
  omega

/-- A handler can go on where a byte is on its way to it or held by it. -/
theorem InOrder.exists_step_handler (h : d.InOrder settings index size) (hsize : 0 < size)
    (hclosed : d.isClosed = false) (hbytes : d.held ++ d.inbound ≠ []) :
    ∃ next, Step settings .handler d next := by
  cases hstage : d.handler.stage with
  | reading =>
    rw [held_of_reading hstage, List.nil_append] at hbytes
    -- A read of one byte is possible, whatever the size of the buffer.
    obtain ⟨b, rest, harrived⟩ := List.exists_cons_of_ne_nil hbytes
    refine ⟨_, .handlerTake [b] rest hstage harrived (List.cons_ne_nil b []) ?_⟩
    rw [h.settings_eq]
    exact hsize
  | writing count =>
    cases hheld : d.held with
    | nil => exact ⟨_, .handlerSent hstage hheld⟩
    | cons b rest => exact ⟨_, .handlerPut [b] rest hstage hheld (List.cons_ne_nil b [])⟩
  | ended | failed error | crashed text => simp [isClosed, hstage] at hclosed

/-- While the client waits for an answer, bytes have arrived or the handler can go on. -/
theorem InOrder.arrived_or_step {seq : Nat} (h : d.InOrder settings index size) (hsize : 0 < size)
    (hstage : d.client.stage = .waiting seq) :
    d.outbound ≠ [] ∨ ∃ next, Step settings .handler d next := by
  by_cases harrived : d.outbound = []
  · have hclosed := h.isClosed_eq_false (by rw [Client.isOver, hstage])
    -- Otherwise the whole message would be missing, and a message has bytes.
    refine Or.inr (h.exists_step_handler hsize hclosed fun hnil => ?_)
    have hunread := h.length_unread hstage
    rw [harrived, List.nil_append, hnil] at hunread
    exact messageBytes_ne_nil seq (List.length_eq_zero_iff.mp (Nat.le_zero.mp hunread))
  · exact Or.inl harrived

/-- An exchange goes on until the client is over. If the client waits and nothing has arrived, the
bytes that it is owed are somewhere on the way, and whoever has them can move them. -/
theorem InOrder.exists_step (h : d.InOrder settings index size) (hsize : 0 < size)
    (hbuffer : 0 < settings.bufferSize.toNat) (hover : d.client.isOver = false) :
    ∃ party next, Step settings party d next := by
  cases hstage : d.client.stage with
  | sending seq =>
    cases hunsent : d.unsent settings with
    | nil => exact ⟨.client, _, .sent hstage hunsent⟩
    | cons b rest => exact ⟨.client, _, .put [b] rest hstage hunsent (List.cons_ne_nil b [])⟩
  | waiting seq =>
    obtain harrived | ⟨next, hstep⟩ := h.arrived_or_step hsize hstage
    · obtain ⟨b, rest, hbytes⟩ := List.exists_cons_of_ne_nil harrived
      exact ⟨.client, _, .take ⟨0⟩ [b] rest hstage hbytes (List.cons_ne_nil b []) hbuffer⟩
    · exact ⟨.handler, next, hstep⟩
  | dialing =>
    have htalking := h.talking.2
    rw [hstage] at htalking
    exact htalking.elim
  | finished | crashed text => simp [Client.isOver, hstage] at hover

/-- A client that is over has sent all messages and has an answer to each. -/
theorem InOrder.complete (h : d.InOrder settings index size) (hover : d.client.isOver = true) :
    d.client.stage = .finished ∧ Ending.complete.Describes settings d.client.record := by
  cases hstage : d.client.stage with
  | finished =>
    obtain ⟨-, e, he⟩ := h.talking.of_finished hstage
    obtain ⟨rfl, -⟩ | ⟨-, error, herror⟩ := he.errors_cases
    · exact ⟨rfl, he⟩
    · rw [h.errors] at herror
      cases herror
  | crashed text =>
    have htalking := h.talking.2
    rw [hstage] at htalking
    exact htalking.elim
  | dialing | sending seq | waiting seq => simp [Client.isOver, hstage] at hover

/-! ### An exchange comes to an end -/

/-- A bound on the steps that are left. A byte that is still to be written may take four steps: the
client puts it on the way, the handler reads it, puts it on the way and goes on to read. -/
def stepsLeft (settings : LoadSettings) (index : Nat) (d : Exchange) : Nat :=
  callsLeft settings d.client
    + 4 * ((bytesUpTo settings index settings.messages.toNat).length - d.written.length)
    + 3 * d.inbound.length + d.held.length
    + match d.handler.stage with
      | .reading => 1
      | .writing _ => 2
      | .ended | .failed _ | .crashed _ => 0

/-- What the client is sending is a part of the bytes of all messages. -/
theorem InOrder.length_written_le {seq : Nat} (h : d.InOrder settings index size)
    (hstage : d.client.stage = .sending seq) :
    d.written.length + (d.unsent settings).length
      ≤ (bytesUpTo settings index settings.messages.toNat).length := by
  obtain ⟨hseq, hmessages, -⟩ := h.talking.of_sending hstage
  have hsent := h.sent
  rw [hstage] at hsent
  have hunsent : d.unsent settings = (messageBytes settings index seq).drop d.clientPut := by
    rw [unsent, hstage, ← utf8_message h.about]
  -- What is written and what is still unsent are the messages up to this one.
  have hall : (d.written ++ d.unsent settings).length = (bytesUpTo settings index seq).length := by
    rw [hsent.1, hunsent, List.append_assoc, List.take_append_drop, ← bytesUpTo_of_pos hseq]
  rw [← List.length_append, hall]
  exact length_bytesUpTo_mono hmessages

/-- A step of the client leaves fewer steps: each byte that it writes or takes, and each message
that it begins or counts, is used up from what is left. -/
theorem stepsLeft_lt_client {next : Exchange} (h : d.InOrder settings index size)
    (hstep : Step settings .client d next) :
    stepsLeft settings index next < stepsLeft settings index d := by
  cases hstep with
  | put piece rest hstage hunsent hpiece =>
    have hpos := List.length_pos_iff.mpr hpiece
    -- Each byte of the piece now counts three times, and counted four times before.
    have hle := h.length_written_le hstage
    rw [hunsent] at hle
    simp only [stepsLeft, held, List.length_append] at hle ⊢
    omega
  | sent hstage hunsent =>
    -- The client has a call less to make, here and where it reads; bytes on the way back do not count.
    have hcalls := callsLeft_wrote_lt hstage h.talking .done
    simp only [stepsLeft, held]
    omega
  | take latency bytes rest hstage harrived hbytes =>
    have hcalls := callsLeft_received_lt hstage h.talking latency (.data bytes)
    simp only [stepsLeft, held]
    omega
  | takeEnd latency hstage harrived hclosed =>
    have hcalls := callsLeft_received_lt hstage h.talking latency (.data [])
    simp only [stepsLeft, held]
    omega

/-- A step of the handler leaves fewer steps, since a byte that it takes or writes is nearer to the
client and counts less. -/
theorem stepsLeft_lt_handler {next : Exchange} (hstep : Step settings .handler d next) :
    stepsLeft settings index next < stepsLeft settings index d := by
  cases hstep with
  | handlerTake bytes rest hstage harrived hbytes =>
    have hpos := List.length_pos_iff.mpr hbytes
    have hchunk := Handler.chunk_received_data d.handler hbytes
    have hinbound := congrArg List.length harrived
    -- Each byte now counts once, and counted three times; the write that is due makes up for one.
    obtain ⟨b, bytes, rfl⟩ := List.exists_cons_of_ne_nil hbytes
    rw [List.length_append] at hinbound
    simp only [stepsLeft, held, hchunk, Handler.step, hstage]
    simp only [Handler.received, Handler.goTo, List.drop_zero]
    omega
  | handlerTakeEnd hstage harrived hover =>
    simp only [stepsLeft, held, Handler.step, Handler.received, Handler.goTo, Handler.chunk, hstage,
      List.drop_nil]
    omega
  | handlerPut piece rest hstage hheld hpiece =>
    have hpos := List.length_pos_iff.mpr hpiece
    have hlength := congrArg List.length hheld
    simp only [held, List.length_append, List.length_drop] at hlength
    simp only [stepsLeft, held, List.length_drop]
    omega
  | handlerSent hstage hheld =>
    simp only [stepsLeft, held, Handler.step, Handler.wrote, Handler.goTo, Handler.chunk, hstage,
      List.drop_nil, List.length_nil]
    omega

/-- The steps of an exchange are bounded from its start on, since each of them takes at least one
from the measure. With `InOrder.exists_step` this says that every run can be led to its end and none
goes on for ever. -/
theorem stepsLeft_run (hbuffer : settings.bufferSize.toNat ≤ greatestBuffer)
    (hsize : size ≤ greatestBuffer) {steps : Nat}
    (hrun : Run settings (start settings index size) steps d) :
    steps + stepsLeft settings index d ≤ stepsLeft settings index (start settings index size) := by
  induction hrun with
  | start => omega
  | @step steps party d next hrun hstep ih =>
    have hlt : stepsLeft settings index next < stepsLeft settings index d := by
      cases party with
      | client => exact stepsLeft_lt_client (inOrder_run hbuffer hsize hrun) hstep
      | handler => exact stepsLeft_lt_handler hstep
    omega

/-- What an exchange may take at most: two calls for each message, and four steps for each byte. -/
theorem stepsLeft_start_le (hbuffer : settings.bufferSize.toNat ≤ greatestBuffer)
    (hsize : size ≤ greatestBuffer) :
    stepsLeft settings index (start settings index size)
      ≤ 2 * settings.messages.toNat
        + 4 * (bytesUpTo settings index settings.messages.toNat).length + 1 := by
  have hcalls := @callsLeft_goOn_le settings
    ⟨(Client.start settings index).record.connect, .dialing⟩ 1
  have hstage := @stage_handler_start settings index size hsize
  have hheld : (start settings index size).held = [] := held_of_reading hstage
  rw [stepsLeft, client_start hbuffer, hheld, hstage]
  simp only [start, List.length_nil]
  omega

end Steps

/-- What holds of an exchange after so many steps, if both buffers can be had. -/
structure Relayed (settings : LoadSettings) (index steps : Nat) (d : Exchange) : Prop where
  /-- What the client has written is what it has read, followed by what is on the way back, what the
  handler holds and what is on the way there. -/
  stream : d.written = d.consumed ++ d.outbound ++ d.held ++ d.inbound
  /-- A client that waits for the answer to a message has at least the bytes of that message still to
  come. -/
  unread : ∀ seq, d.client.stage = .waiting seq →
    (messageBytes settings index seq).length ≤ (d.outbound ++ d.held ++ d.inbound).length
  /-- They have arrived, or the handler can go on. -/
  answered : ∀ seq, d.client.stage = .waiting seq →
    d.outbound ≠ [] ∨ ∃ next, Step settings .handler d next
  errors : d.client.record.errors = []
  /-- As long as the client is not over, the handler has not left. -/
  served : d.client.isOver = false → d.isClosed = false
  /-- As long as the client is not over, one of the two can go on. -/
  goesOn : d.client.isOver = false → ∃ party next, Step settings party d next
  /-- A client that is over has sent all its messages and has an answer to each. -/
  complete : d.client.isOver = true →
    d.client.stage = .finished ∧ Ending.complete.Describes settings d.client.record
  bounded : steps ≤ 2 * settings.messages.toNat
    + 4 * (bytesUpTo settings index settings.messages.toNat).length + 1

/-- What becomes of an exchange, at every moment of it. If both buffers can be had, every byte is
relayed: the client always has an answer to come or to be read, it never finds the stream closed,
one of the two can go on until the client is over, and that is so after a bounded number of steps,
with all messages sent and answered. A client whose buffer cannot be had has crashed before it has
written anything, and a handler whose buffer cannot be had has crashed before anything comes back
from it. -/
theorem relayed_of_run (settings : LoadSettings) (index size : Nat)
    (hbuffer : 0 < settings.bufferSize.toNat) (hsize : 0 < size) {steps : Nat} {d : Exchange}
    (hrun : Run settings (start settings index size) steps d) :
    (settings.bufferSize.toNat ≤ greatestBuffer → size ≤ greatestBuffer →
      Relayed settings index steps d) ∧
    (greatestBuffer < settings.bufferSize.toNat →
      d.client.stage = .crashed bufferCrash ∧ d.written = []) ∧
    (greatestBuffer < size →
      d.handler.stage = .crashed bufferCrash ∧ d.outbound = [] ∧ d.consumed = []) := by
  refine ⟨fun hclient hhandler => ?_, fun hlarge => client_crashed_run hlarge hrun,
    fun hlarge => handler_crashed_run hlarge hrun⟩
  -- With buffers that can be had both programs are at work from the start, and the exchange is in
  -- order.
  have h := inOrder_run hclient hhandler hrun
  have hbound := stepsLeft_run hclient hhandler hrun
  have hstart := @stepsLeft_start_le settings index size hclient hhandler
  exact {
    stream := h.stream
    unread := fun seq hstage => h.length_unread hstage
    answered := fun seq hstage => h.arrived_or_step hsize hstage
    errors := h.errors
    served := h.isClosed_eq_false
    goesOn := h.exists_step hsize hbuffer
    complete := h.complete
    bounded := by omega }

/-- Two messages, and a client that reads one byte at a time, so that each answer takes more reads
than the client makes for it. -/
def twoMessages : LoadSettings :=
  { LoadSettings.default with clientId := "a", messages := 2, bufferSize := 1 }

/-- A handler that reads two bytes at a time: the answer to the second message of the client is the
second byte of the first one. -/
theorem relayed_of_run_twoMessages :
    0 < twoMessages.bufferSize.toNat ∧ 0 < 2 ∧
    ∃ d, Run twoMessages (start twoMessages 0 2) 8 d ∧
      d.written = messageBytes twoMessages 0 1 ++ messageBytes twoMessages 0 2 ∧
      d.consumed = [109, 115] ∧
      d.written = d.consumed ++ d.outbound ++ d.held ++ d.inbound ∧
      d.client.stage = .finished ∧ Ending.complete.Describes twoMessages d.client.record := by
  have hbuffer : 0 < twoMessages.bufferSize.toNat := by decide
  have hsize : 0 < 2 := by decide
  -- The handler has not gone on from its first two bytes when the second message leaves.
  have hstart : Run twoMessages (start twoMessages 0 2) 0 (start twoMessages 0 2) := .start
  have hrun := hstart
    |>.step (.put (messageBytes twoMessages 0 1) [] rfl (by decide) (by decide))
    |>.step (.sent rfl (by decide))
    |>.step (.handlerTake [109, 115] _ rfl rfl (by decide) (by decide))
    |>.step (.handlerPut [109, 115] [] rfl (by decide) (by decide))
    |>.step (.take ⟨0⟩ [109] [115] rfl (by decide) (by decide) (by decide))
    |>.step (.put (messageBytes twoMessages 0 2) [] rfl (by decide) (by decide))
    |>.step (.sent rfl (by decide))
    |>.step (.take ⟨0⟩ [115] [] rfl (by decide) (by decide) (by decide))
  obtain ⟨hrelayed, -, -⟩ := relayed_of_run twoMessages 0 2 hbuffer hsize hrun
  have hrelayed := hrelayed (by decide) (by decide)
  obtain ⟨hfinished, hdescribes⟩ := hrelayed.complete (by decide)
  exact ⟨hbuffer, hsize, _, hrun, by decide, by decide, hrelayed.stream, hfinished, hdescribes⟩

/-- The settings of a client that asks for one byte more than can be had. -/
def greedy : LoadSettings :=
  { LoadSettings.default with bufferSize := 9223372036854775808 }

/-- A client with that buffer has crashed at every moment of its exchange, whatever the handler is.
It leaves no record, and no message of it is ever sent. -/
theorem greedy_never_relayed :
    0 < greedy.bufferSize.toNat ∧
    ∀ size steps d, Run greedy (start greedy 0 size) steps d →
      d.client.stage = .crashed "capacity overflow" ∧ d.written = [] := by
  refine ⟨by decide, fun size steps d hrun => ?_⟩
  have hlarge : greatestBuffer < greedy.bufferSize.toNat := by decide
  exact client_crashed_run hlarge hrun

end Exchange

end EchoBench.Proofs
