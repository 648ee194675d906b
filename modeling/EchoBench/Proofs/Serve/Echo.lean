import EchoBench.Serve.Handler

/-!
# `EchoBench.Proofs.Serve.Echo`: a handler writes back what it reads

What happens on the stream of a handler is any list of events. `chunksRead` are the chunks that its
reads gave, and `bytesWritten` are the bytes that its writes put on the stream, those of a failed
write included.

`Echoing` ties the two to the stage of the handler. It says that a handler that reads has written
everything back, and that one that writes has the last chunk in the front of its buffer and has
written all chunks before it. `echoing_step` shows that every event keeps it, `echoing_play` takes
it to whole streams, and `bytesWritten_play` reads off what a handler has written at any moment and
however it ends.

A failed write has left a part of its chunk unwritten, for with all of it written there is no call
left that could fail (`LeavesRest`).
-/

set_option autoImplicit false

namespace EchoBench.Proofs.Serve

open EchoBench.Net
open EchoBench.Serve

/-- The chunk that an event gives to a handler, if it gives one: the handler has to be reading, and
the event has to be a read with a byte. -/
def chunkOf? (h : Handler) : Handler.Event → Option (List UInt8)
  | .read (.data bytes) => if h.stage = .reading ∧ bytes ≠ [] then some bytes else none
  | .read (.failed _) | .read .expired | .write _ => none

/-- The bytes that an event puts on the stream of a handler. A handler that does not write has no
chunk, and a write has no limit of time. -/
def bytesOf (h : Handler) : Handler.Event → List UInt8
  | .write .done => h.chunk
  | .write (.failed written _) => h.chunk.take written
  | .write (.expired _) | .read _ => []

/-- The chunks that a handler reads: those of the events that it is ready for. A chunk that comes
while it is writing, or after it has ended, is not read. -/
def chunksRead (h : Handler) : List Handler.Event → List (List UInt8)
  | [] => []
  | event :: events => (chunkOf? h event).toList ++ chunksRead (h.step event) events

/-- The bytes that a handler writes, gathered event by event: the pieces that were taken of the
chunk that it is writing back. -/
def bytesWritten (h : Handler) : List Handler.Event → List UInt8
  | [] => []
  | event :: events => bytesOf h event ++ bytesWritten (h.step event) events

/-- Every write that fails leaves a part of its chunk, for a write that has taken all of it did not
fail. It is the one thing that is asked of the stream. -/
def LeavesRest (h : Handler) : List Handler.Event → Prop
  | [] => True
  | event :: events =>
    (∀ size written cause, h.stage = .writing size → event = .write (.failed written cause) →
      written < h.chunk.length) ∧
    LeavesRest (h.step event) events

/-- What a handler has written, by stage, once it has read some chunks. While it reads this is all
of them, and while it writes the last chunk is still to come. -/
def Echoing (h : Handler) (chunks : List (List UInt8)) (written : List UInt8) : Prop :=
  match h.stage with
  | .reading | .ended | .failed (.read _) => written = chunks.flatten
  | .writing _ => ∃ earlier, chunks = earlier ++ [h.chunk] ∧ written = earlier.flatten
  | .failed (.write _) =>
    ∃ earlier sent rest, chunks = earlier ++ [sent ++ rest] ∧ rest ≠ [] ∧
      written = earlier.flatten ++ sent
  | .failed _ => False
  | .crashed _ => chunks = [] ∧ written = []

section Step

variable {h : Handler} {chunks : List (List UInt8)} {written : List UInt8}

/-- The answer to a read keeps `Echoing`: the chunk that is to be written next is the one that was
read. -/
theorem echoing_received (hstage : h.stage = .reading) (hecho : Echoing h chunks written)
    (answer : ReadAnswer) :
    Echoing (h.received answer) (chunks ++ (chunkOf? h (.read answer)).toList) written := by
  rw [Echoing, hstage] at hecho
  cases answer with
  | data bytes =>
    cases bytes with
    | nil => simpa [Echoing, Handler.received, Handler.goTo, chunkOf?] using hecho
    | cons b bytes =>
      have hgiven : chunkOf? h (.read (.data (b :: bytes))) = some (b :: bytes) := by
        simp [chunkOf?, hstage]
      -- Nothing of this chunk is written yet, so what was written is all that came before it.
      refine ⟨chunks, ?_, hecho⟩
      rw [hgiven, Handler.chunk_received_data h (List.cons_ne_nil b bytes)]
      rfl
  | failed cause => simpa [Echoing, Handler.received, Handler.goTo, chunkOf?] using hecho
  | expired =>
    cases hlimit : h.settings.idleTimeout with
    | none => simpa [Echoing, Handler.received, hlimit, hstage, chunkOf?] using hecho
    | some limit => simpa [Echoing, Handler.received, hlimit, Handler.goTo, chunkOf?] using hecho

/-- The answer to a write keeps `Echoing`: the whole chunk is on the stream and the handler reads
again, or only a front of it and the handler has failed. -/
theorem echoing_wrote {size : Nat} (hstage : h.stage = .writing size)
    (hecho : Echoing h chunks written) (answer : WriteAnswer)
    (hrest : ∀ count cause, answer = .failed count cause → count < h.chunk.length) :
    Echoing (h.wrote size answer) chunks (written ++ bytesOf h (.write answer)) := by
  have hwriting := hecho
  rw [Echoing, hstage] at hecho
  obtain ⟨earlier, hchunks, hwritten⟩ := hecho
  cases answer with
  | done => simp [Echoing, Handler.wrote, Handler.goTo, bytesOf, hchunks, hwritten]
  | failed count cause =>
    -- The chunk is cut where the write failed.
    refine ⟨earlier, h.chunk.take count, h.chunk.drop count, ?_, ?_, ?_⟩
    · rw [List.take_append_drop, hchunks]
    · have hlt := hrest count cause rfl
      rw [ne_eq, List.drop_eq_nil_iff]
      omega
    · rw [hwritten]
      rfl
  | expired count =>
    -- No time was set for the write, and the answer changes nothing.
    simpa [Handler.wrote, bytesOf] using hwriting

/-- Every event keeps `Echoing`, also one that does not belong to the stage of the handler and is
passed over. -/
theorem echoing_step (hecho : Echoing h chunks written) (event : Handler.Event)
    (hrest : ∀ size count cause, h.stage = .writing size → event = .write (.failed count cause) →
      count < h.chunk.length) :
    Echoing (h.step event) (chunks ++ (chunkOf? h event).toList)
      (written ++ bytesOf h event) := by
  cases event with
  | read answer =>
    have hnone : bytesOf h (.read answer) = [] := rfl
    rw [hnone, List.append_nil]
    cases hstage : h.stage with
    | reading =>
      rw [Handler.step, hstage]
      exact echoing_received hstage hecho answer
    | writing size | ended | failed error | crashed text =>
      -- The handler has not asked for bytes, and the answer changes nothing.
      have hidle : chunkOf? h (.read answer) = none := by
        cases answer <;> simp [chunkOf?, hstage]
      rw [Handler.step, hstage, hidle]
      simpa using hecho
  | write answer =>
    have hnone : chunkOf? h (.write answer) = none := rfl
    rw [hnone, Option.toList_none, List.append_nil]
    cases hstage : h.stage with
    | writing size =>
      rw [Handler.step, hstage]
      exact echoing_wrote hstage hecho answer fun count cause hanswer =>
        hrest size count cause hstage (congrArg _ hanswer)
    | reading | ended | failed error | crashed text =>
      have hidle : bytesOf h (.write answer) = [] := by
        cases answer <;> simp [bytesOf, Handler.chunk, hstage]
      rw [Handler.step, hstage, hidle]
      simpa using hecho

/-- A stream keeps `Echoing`, by induction on its events: what has been written, with the rest that
is held, is what has been read. -/
theorem echoing_play (events : List Handler.Event) (hecho : Echoing h chunks written)
    (hrest : LeavesRest h events) :
    Echoing (h.play events) (chunks ++ chunksRead h events)
      (written ++ bytesWritten h events) := by
  induction events generalizing h chunks written with
  | nil => simpa [Handler.play, chunksRead, bytesWritten] using hecho
  | cons event events ih =>
    obtain ⟨hevent, hevents⟩ := hrest
    have hplay := ih (echoing_step hecho event hevent) hevents
    simpa [Handler.play, chunksRead, bytesWritten, List.append_assoc] using hplay

/-- What has been written, with any part of the chunk that is being written, is the beginning of
what has been read. -/
theorem Echoing.isPrefix (hecho : Echoing h chunks written) (count : Nat) :
    written ++ h.chunk.take count <+: chunks.flatten := by
  unfold Echoing at hecho
  cases hstage : h.stage with
  | reading | ended =>
    rw [hstage] at hecho
    simp [Handler.chunk, hstage, hecho]
  | writing size =>
    -- The last chunk is on its way, and any front of it goes on with what is written.
    rw [hstage] at hecho
    obtain ⟨earlier, hchunks, hwritten⟩ := hecho
    rw [hchunks, hwritten, List.flatten_append, List.flatten_singleton]
    exact (List.prefix_append_right_inj _).mpr (List.take_prefix count h.chunk)
  | failed error =>
    have hnone : h.chunk = [] := by rw [Handler.chunk, hstage]
    rw [hstage] at hecho
    rw [hnone, List.take_nil, List.append_nil]
    cases error with
    | read cause =>
      have hwritten : written = chunks.flatten := hecho
      exact hwritten ▸ List.prefix_rfl
    | write cause =>
      -- The write failed within the last chunk, so what is written ends there.
      obtain ⟨earlier, sent, rest, hchunks, -, hwritten⟩ := hecho
      rw [hchunks, hwritten, List.flatten_append, List.flatten_singleton, ← List.append_assoc]
      exact List.prefix_append _ rest
    | bind address cause | io cause | serialize text | config text | internal text =>
      exact hecho.elim
  | crashed text =>
    rw [hstage] at hecho
    simp [Handler.chunk, hstage, hecho]

end Step

/-- A handler that starts has read nothing and written nothing, and holds no chunk. -/
theorem echoing_start (settings : HandlerSettings) : Echoing (.start settings) [] [] := by
  unfold Handler.start
  by_cases hbuffer : settings.bufferSize ≤ greatestBuffer
  · simp [Echoing, hbuffer]
  · simp [Echoing, hbuffer]

/-- What a handler has written. At any moment, also within a write, that is the beginning of what it
has read. It reads again only when it has written everything back, and what it writes is the chunk
that it read last. It ends well with everything written back. It ends with an error of a read, with
everything written back, or with one of a write, with a part of the last chunk missing. -/
theorem bytesWritten_play (settings : HandlerSettings) (events : List Handler.Event)
    (hrest : LeavesRest (.start settings) events) :
    let h := (Handler.start settings).play events
    let chunks := chunksRead (.start settings) events
    let written := bytesWritten (.start settings) events
    (∀ count, written ++ h.chunk.take count <+: chunks.flatten) ∧
    (h.stage = .reading → written = chunks.flatten) ∧
    (∀ size, h.stage = .writing size →
      ∃ earlier, chunks = earlier ++ [h.chunk] ∧ written = earlier.flatten) ∧
    (h.stage = .ended → written = chunks.flatten) ∧
    (∀ error, h.stage = .failed error →
      (∃ cause, error = .read cause ∧ written = chunks.flatten) ∨
      ∃ cause earlier sent rest, error = .write cause ∧ chunks = earlier ++ [sent ++ rest] ∧
        rest ≠ [] ∧ written = earlier.flatten ++ sent) ∧
    (∀ text, h.stage = .crashed text → chunks = [] ∧ written = []) := by
  intro h chunks written
  have hecho : Echoing h chunks written := echoing_play events (echoing_start settings) hrest
  -- One statement for each stage in which the handler may be, all of which `Echoing` lists.
  refine ⟨hecho.isPrefix, fun hstage => ?_, fun size hstage => ?_, fun hstage => ?_,
    fun error hstage => ?_, fun text hstage => ?_⟩
  · rwa [Echoing, hstage] at hecho
  · rwa [Echoing, hstage] at hecho
  · rwa [Echoing, hstage] at hecho
  · rw [Echoing, hstage] at hecho
    cases error with
    | read cause => exact .inl ⟨cause, rfl, hecho⟩
    | write cause =>
      obtain ⟨earlier, sent, rest, hchunks⟩ := hecho
      exact .inr ⟨cause, earlier, sent, rest, rfl, hchunks⟩
    | bind address cause | io cause | serialize text | config text | internal text =>
      -- A handler fails with no other error.
      exact hecho.elim
  · rwa [Echoing, hstage] at hecho

/-- A second read that is shorter than the first, and whose write fails after one byte: the byte of
the first read that is still in the buffer is not written. -/
theorem bytesWritten_play_shorter_read :
    let events : List Handler.Event :=
      [.read (.data [97, 98, 99]), .write .done, .read (.data [100, 101]),
        .write (.failed 1 .connectionReset)]
    let written := bytesWritten (.start ⟨8, none⟩) events
    LeavesRest (.start ⟨8, none⟩) events ∧
    ((Handler.start ⟨8, none⟩).play events).stage = .failed (.write .connectionReset) ∧
    written = [97, 98, 99, 100] ∧
    ∃ cause earlier sent rest, EchoError.write .connectionReset = .write cause ∧
      chunksRead (.start ⟨8, none⟩) events = earlier ++ [sent ++ rest] ∧ rest ≠ [] ∧
      written = earlier.flatten ++ sent := by
  intro events written
  have hrest : LeavesRest (.start ⟨8, none⟩) events := by
    refine ⟨nofun, nofun, nofun, fun size count cause _ hevent => ?_, trivial⟩
    cases hevent
    decide
  have hstage : ((Handler.start ⟨8, none⟩).play events).stage
      = .failed (.write .connectionReset) := by decide
  obtain ⟨-, -, -, -, hfailed, -⟩ := bytesWritten_play ⟨8, none⟩ events hrest
  obtain ⟨cause, hread, -⟩ | hwrite := hfailed _ hstage
  · cases hread
  · exact ⟨hrest, hstage, by decide, hwrite⟩

end EchoBench.Proofs.Serve
