import EchoBench.Proofs.History
import EchoBench.Proofs.Serve.Echo
import EchoBench.Serve.Server

/-!
# `EchoBench.Proofs.Serve.Isolation`: a server keeps its connections apart

A server takes part in turns of any kind and in any order: connections are accepted or not,
something happens on the stream of a connection, a signal to stop is sent, the server looks for one,
or the user interrupts it. A signal may be sent at any time and more than once, also before the
server looks for the first time; what its receiver is answered then is up to the channel
(`Broadcast`).

`keepsApart_of_broadcast` says what that comes to. Every accepted connection has a handler of its
own, which is what the events on its own stream have made of a handler that starts with the settings
of the server; and so are the bytes that are written back on it. The server stops accepting only
when it is interrupted or finds a signal, ends without an error, and leaves its handlers to go on as
they would have gone on without that.

What a turn does is one lemma (`loop_step_spec`). Over a run it gives what becomes of a handler
(`getElem?_handlers_play`) and of its bytes (`written_play`), and when the server stops
(`not_accepting_play_iff`). As long as it has not, it has accepted the same connections as a server
that nobody stops (`accepted_undisturbed`).
-/

set_option autoImplicit false

namespace EchoBench.Proofs.Serve

open EchoBench.Config (ServerSettings)
open EchoBench.Serve

/-! ### Turns -/

/-- What the receiver of a channel is told: that there is something for it, or that it has fallen
behind. The loop takes both as the signal to stop. -/
inductive Notice
  /-- A signal. -/
  | signal
  /-- So many signals have been dropped, for want of room. -/
  | overrun (missed : Nat)
  deriving DecidableEq, Repr

/-- A channel, by what its receiver is told when it looks for the first time, after so many signals.
Where it is told nothing, it waits. -/
abbrev Channel : Type :=
  Nat → Option Notice

/-- A channel with room for one signal. It keeps a signal until the receiver looks, and where there
were more, it tells the receiver at once that it has missed some. -/
structure Broadcast (channel : Channel) : Prop where
  waits : channel 0 = none
  keeps : channel 1 = some .signal
  overruns : ∀ n, 2 ≤ n → ∃ missed, channel n = some (.overrun missed)

/-- A turn in the run of a server: something happens on a connection or at the door, a signal is
sent, or the user interrupts. A run is a list of turns in whatever order they come. -/
inductive Turn
  /-- Somebody sends the signal to stop. -/
  | signal
  /-- Something happens to the server. In the turn of `stop` it looks for the signal. -/
  | event (event : Server.Event)
  deriving DecidableEq, Repr

/-- A server on its way, and how many signals have been sent. -/
structure Loop where
  server : Server
  signals : Nat
  deriving DecidableEq, Repr

namespace Loop

/-- A server that listens, before any signal. -/
def start (settings : ServerSettings) : Loop :=
  ⟨.start (Server.handlerSettings settings), 0⟩

/-- What a turn makes of a server. Whatever the server is told when it looks for the signal, it
stops. -/
def step (channel : Channel) (l : Loop) : Turn → Loop
  | .signal => { l with signals := l.signals + 1 }
  | .event .stop =>
    if (channel l.signals).isSome then { l with server := l.server.step .stop } else l
  | .event event => { l with server := l.server.step event }

/-- What a list of turns makes of a server. -/
def play (channel : Channel) (l : Loop) (turns : List Turn) : Loop :=
  turns.foldl (step channel) l

end Loop

/-- Whether a turn is one of those that stop a server. -/
def Turn.isShutdown : Turn → Bool
  | .signal | .event .stop | .event .interrupt => true
  | .event .accepted | .event (.acceptFailed _) | .event (.connection _ _) => false

/-- The same turns, with nobody to stop the server. Handlers are compared with those of such a run,
in which every one of them can finish. -/
def undisturbed (turns : List Turn) : List Turn :=
  turns.filter (!·.isShutdown)

/-- What a turn does on the stream of a connection. -/
def eventOn? (k : Nat) : Turn → Option Handler.Event
  | .event (.connection index event) => if index = k then some event else none
  | _ => none

/-- What happens on the stream of a connection: the turns that are about it, in order, and nothing
of the others. A connection that is kept apart is a function of this list. -/
def streamOf (k : Nat) (turns : List Turn) : List Handler.Event :=
  turns.filterMap (eventOn? k)

/-- The bytes that a server writes on a connection in a turn, which are none unless the turn is
about this connection. -/
def bytesOn (l : Loop) (k : Nat) (turn : Turn) : List UInt8 :=
  match l.server.handlers[k]?, eventOn? k turn with
  | some h, some event => bytesOf h event
  | _, _ => []

/-- The bytes that a server writes on a connection, over all turns. This is what a user at the other
end gets to see. -/
def written (channel : Channel) (l : Loop) (k : Nat) : List Turn → List UInt8
  | [] => []
  | turn :: turns => bytesOn l k turn ++ written channel (l.step channel turn) k turns

/-- How many connections a server accepts in a list of turns; it is zero behind a signal. -/
def accepted (channel : Channel) (l : Loop) : List Turn → Nat
  | [] => 0
  | turn :: turns =>
    (if turn = .event .accepted ∧ l.server.accepting = true then 1 else 0)
      + accepted channel (l.step channel turn) turns

/-! ### One turn -/

/-- A handler after a turn: it goes on if the turn is about its stream. -/
def goOn (h : Handler) : Option Handler.Event → Handler
  | some event => h.step event
  | none => h

section Server

variable (s : Server)

/-- The end of a handler is logged and counted. It changes neither the other handlers nor whether
the server accepts. -/
theorem close_spec (h : Handler) :
    (s.close h).settings = s.settings ∧ (s.close h).handlers = s.handlers ∧
      (s.close h).accepting = s.accepting := by
  rw [Server.close]
  cases h.error? <;> exact ⟨rfl, rfl, rfl⟩

/-- What happens on a connection changes its own handler, and else only what the server says and
counts. -/
theorem onConnection_spec (index : Nat) (event : Handler.Event) :
    (s.onConnection index event).settings = s.settings ∧
      (s.onConnection index event).handlers = s.handlers.modify index (·.step event) ∧
      (s.onConnection index event).accepting = s.accepting := by
  rw [Server.onConnection]
  split
  · next hnone =>
    have hsame : s.handlers = s.handlers.modify index (·.step event) := by
      apply Array.ext_getElem?
      grind
    exact ⟨rfl, hsame, rfl⟩
  · next before hbefore =>
    have hset : s.handlers.setIfInBounds index (before.step event)
        = s.handlers.modify index (·.step event) := by
      apply Array.ext_getElem?
      grind
    dsimp only
    -- A handler that is done is taken off the count.
    split
    · rw [(close_spec _ _).1, (close_spec _ _).2.1, (close_spec _ _).2.2]
      exact ⟨rfl, hset, rfl⟩
    · exact ⟨rfl, hset, rfl⟩

/-- What an event does to a server. Its settings stay. A connection that is accepted adds a handler
behind the others, and those are changed by what happens on their own streams. The server goes on
accepting, unless it is told to stop. -/
theorem step_spec (event : Server.Event) :
    (s.step event).settings = s.settings ∧
      (s.step event).handlers.size = s.handlers.size
        + (if event = .accepted ∧ s.accepting = true then 1 else 0) ∧
      (∀ k h, s.handlers[k]? = some h →
        (s.step event).handlers[k]? = some (goOn h (eventOn? k (.event event)))) ∧
      ((s.step event).accepting = true ↔
        s.accepting = true ∧ event ≠ .interrupt ∧ event ≠ .stop) := by
  cases event with
  | accepted =>
    -- The new handler is put behind the others, whose places stay.
    rw [Server.step]
    split
    · next hopen =>
      refine ⟨rfl, ?_, fun k h hk => ?_, ?_⟩
      · simp [Server.accept, Server.say, hopen]
      · have hlt : k < s.handlers.size := (Array.getElem?_eq_some_iff.mp hk).1
        show (s.handlers.push _)[k]? = some h
        rw [Array.getElem?_push_lt hlt, ← hk, Array.getElem?_eq_getElem hlt]
      · simp [Server.accept, Server.say]
    · next hshut => exact ⟨rfl, by simp [hshut], fun k h hk => hk, by simp⟩
  | acceptFailed cause =>
    rw [Server.step]
    split
    · next hopen => exact ⟨rfl, rfl, fun k h hk => hk, by simp [Server.say]⟩
    · next hshut => exact ⟨rfl, rfl, fun k h hk => hk, by simp⟩
  | connection index event =>
    -- Only the handler with that number takes the event.
    obtain ⟨hsettings, hhandlers, haccepting⟩ := onConnection_spec s index event
    refine ⟨hsettings, ?_, fun k h hk => ?_, ?_⟩
    · rw [Server.step, hhandlers]
      simp
    · rw [Server.step, hhandlers, Array.getElem?_modify, hk, eventOn?]
      split <;> rfl
    · rw [Server.step, haccepting]
      simp
  | interrupt | stop =>
    rw [Server.step]
    split
    · next hopen => exact ⟨rfl, rfl, fun k h hk => hk, by simp [Server.halt]⟩
    · next hshut => exact ⟨rfl, rfl, fun k h hk => hk, by simp [hshut]⟩

/-- The connection that is accepted next gets a handler with the settings of the server. -/
theorem getElem?_handlers_accepted (hopen : s.accepting = true) :
    (s.step .accepted).handlers[s.handlers.size]? = some (.start s.settings) := by
  rw [Server.step, if_pos hopen]
  exact Array.getElem?_push_size

end Server

/-- A receiver is told something exactly where a signal has been sent. Which of the two notices it
is does not matter to the loop. -/
theorem Broadcast.isSome_iff {channel : Channel} (h : Broadcast channel) (n : Nat) :
    (channel n).isSome = true ↔ 0 < n := by
  match n with
  | 0 => simp [h.waits]
  | 1 => simp [h.keeps]
  | n + 2 =>
    obtain ⟨missed, hmissed⟩ := h.overruns (n + 2) (by omega)
    simp [hmissed]

/-- What a turn does: what its event does to the server, where the server does not look for a signal
in vain. -/
theorem loop_step_spec {channel : Channel} (hchannel : Broadcast channel) (l : Loop) (turn : Turn) :
    (l.step channel turn).server.settings = l.server.settings ∧
      (l.step channel turn).server.handlers.size = l.server.handlers.size
        + (if turn = .event .accepted ∧ l.server.accepting = true then 1 else 0) ∧
      (∀ k h, l.server.handlers[k]? = some h →
        (l.step channel turn).server.handlers[k]? = some (goOn h (eventOn? k turn))) ∧
      ((l.step channel turn).server.accepting = true ↔ l.server.accepting = true ∧
        turn ≠ .event .interrupt ∧ ¬(turn = .event .stop ∧ 0 < l.signals)) ∧
      (l.step channel turn).signals = l.signals + (if turn = .signal then 1 else 0) := by
  cases turn with
  | signal => exact ⟨rfl, by simp [Loop.step], fun k h hk => hk, by simp [Loop.step], rfl⟩
  | event event =>
    obtain ⟨hsettings, hsize, hhandlers, haccepting⟩ := step_spec l.server event
    cases event with
    | stop =>
      rw [Loop.step]
      split
      · next hsome =>
        have hpos := (hchannel.isSome_iff l.signals).mp hsome
        exact ⟨hsettings, by simpa using hsize, hhandlers, by simp [haccepting, hpos], by simp⟩
      · next hnone =>
        -- Nobody has sent a signal, and the server goes on waiting for one.
        have hzero : ¬0 < l.signals := fun h => hnone ((hchannel.isSome_iff l.signals).mpr h)
        exact ⟨rfl, by simp, fun k h hk => hk, by simp [hzero], by simp⟩
    | accepted | acceptFailed cause | connection index event | interrupt =>
      exact ⟨hsettings, by simpa [Loop.step] using hsize, hhandlers,
        by simp [Loop.step, haccepting], by simp [Loop.step]⟩

/-! ### Runs -/

section Run

variable {channel : Channel} {l : Loop} {k : Nat} {turns : List Turn}

/-- The first turn of a loop comes first. -/
theorem play_cons (turn : Turn) :
    l.play channel (turn :: turns) = (l.step channel turn).play channel turns := rfl

/-- The turns of a loop can be cut anywhere, and the loop goes on from where it was left. -/
theorem play_append (before after : List Turn) :
    l.play channel (before ++ after) = (l.play channel before).play channel after :=
  List.foldl_append

/-- The last turn of a loop comes last; the inductions on turns from behind use this. -/
theorem play_concat (turn : Turn) :
    l.play channel (turns ++ [turn]) = (l.play channel turns).step channel turn :=
  play_append turns [turn]

/-- Leaving out what disturbs is done turn by turn. -/
theorem undisturbed_append (before after : List Turn) :
    undisturbed (before ++ after) = undisturbed before ++ undisturbed after :=
  List.filter_append ..

/-- Who stops a server does nothing on the stream of a connection, so the streams are the same in
the run that nobody stops. -/
theorem streamOf_undisturbed (turns : List Turn) :
    streamOf k (undisturbed turns) = streamOf k turns := by
  rw [streamOf, streamOf, undisturbed, List.filterMap_filter]
  refine List.filterMap_congr fun turn _ => ?_
  cases turn with
  | signal => rfl
  | event event => cases event <;> rfl

/-- The events on a connection are gathered turn by turn. -/
theorem streamOf_cons (turn : Turn) :
    streamOf k (turn :: turns) = (eventOn? k turn).toList ++ streamOf k turns := by
  rw [streamOf, List.filterMap_cons]
  cases eventOn? k turn <;> rfl

/-- What is written on a connection in two stretches is what is written in the first, and behind it
what the loop that the first left writes in the second. -/
theorem written_append (before after : List Turn) :
    written channel l k (before ++ after)
      = written channel l k before ++ written channel (l.play channel before) k after := by
  induction before generalizing l with
  | nil => rfl
  | cons turn before ih =>
    rw [List.cons_append, written, written, ih, List.append_assoc]
    rfl

/-- The connections accepted in two stretches add up, the second counted from where the first left
the loop. -/
theorem accepted_append (before after : List Turn) :
    accepted channel l (before ++ after)
      = accepted channel l before + accepted channel (l.play channel before) after := by
  induction before generalizing l with
  | nil => exact (Nat.zero_add _).symm
  | cons turn before ih =>
    rw [List.cons_append, accepted, accepted, ih, Nat.add_assoc]
    rfl

variable (hchannel : Broadcast channel)

include hchannel

/-- No turn changes the settings, so every handler starts from the same ones. -/
theorem settings_play (turns : List Turn) :
    (l.play channel turns).server.settings = l.server.settings := by
  induction turns generalizing l with
  | nil => rfl
  | cons turn turns ih => rw [play_cons, ih, (loop_step_spec hchannel l turn).1]

/-- A server has a handler for each connection that it accepts, and keeps it when the connection is
over, so the number of a connection is its place. -/
theorem size_handlers_play (turns : List Turn) :
    (l.play channel turns).server.handlers.size
      = l.server.handlers.size + accepted channel l turns := by
  induction turns generalizing l with
  | nil => rfl
  | cons turn turns ih =>
    rw [play_cons, ih, (loop_step_spec hchannel l turn).2.1, accepted, Nat.add_assoc]

/-- A handler is what the events on its own stream make of it, from its start on. What the other
connections do in between does not enter, which is what keeping apart comes to. -/
theorem getElem?_handlers_play {h : Handler} (hk : l.server.handlers[k]? = some h) :
    (l.play channel turns).server.handlers[k]? = some (h.play (streamOf k turns)) := by
  induction turns generalizing l h with
  | nil => exact hk
  | cons turn turns ih =>
    have hnext := (loop_step_spec hchannel l turn).2.2.1 k h hk
    rw [play_cons, ih hnext, streamOf_cons]
    cases eventOn? k turn <;> rfl

/-- The bytes that are written on a connection are those that its handler writes on its own stream.
-/
theorem written_play {h : Handler} (hk : l.server.handlers[k]? = some h) :
    written channel l k turns = bytesWritten h (streamOf k turns) := by
  induction turns generalizing l h with
  | nil => rfl
  | cons turn turns ih =>
    have hnext := (loop_step_spec hchannel l turn).2.2.1 k h hk
    rw [written, ih hnext, streamOf_cons, bytesOn, hk]
    cases eventOn? k turn <;> rfl

/-- Nothing is written on a connection that has not been accepted; there is no handler that could.
-/
theorem written_eq_nil (hk : (l.play channel turns).server.handlers.size ≤ k) :
    written channel l k turns = [] := by
  induction turns generalizing l with
  | nil => rfl
  | cons turn turns ih =>
    -- No handler is ever taken away, so the connection has none yet.
    have hsize := size_handlers_play (l := l) hchannel (turn :: turns)
    have hnone : l.server.handlers[k]? = none := Array.getElem?_eq_none_iff.mpr (by omega)
    rw [written, ih hk, bytesOn, hnone, List.append_nil]

end Run

section FromStart

variable {channel : Channel} (hchannel : Broadcast channel) (settings : ServerSettings)

include hchannel

/-- Every signal that was sent is counted, whether or not anybody received it. A server that looks
for the signal finds it, however long ago it was sent. -/
theorem signals_play (turns : List Turn) :
    ((Loop.start settings).play channel turns).signals = turns.count .signal := by
  induction turns using List.reverseRecOn with
  | nil => rfl
  | append_singleton turns turn ih =>
    obtain ⟨-, -, -, -, hsignals⟩ :=
      loop_step_spec hchannel ((Loop.start settings).play channel turns) turn
    rw [play_concat, hsignals, ih, List.count_append, List.count_singleton]
    simp

/-- A server stops accepting only when it is interrupted, or when it looks for a signal and one has
been sent. -/
theorem not_accepting_play_iff (turns : List Turn) :
    ((Loop.start settings).play channel turns).server.accepting = false ↔
      ∃ before event after, turns = before ++ .event event :: after ∧
        (event = .interrupt ∨ event = .stop ∧ .signal ∈ before) := by
  induction turns using List.reverseRecOn with
  | nil => simp [Loop.play, Loop.start, Server.start]
  | append_singleton turns turn ih =>
    obtain ⟨-, -, -, haccepting, -⟩ :=
      loop_step_spec hchannel ((Loop.start settings).play channel turns) turn
    -- Whether the last turn stops the server depends on the signals in front of it.
    rw [signals_play hchannel, List.count_pos_iff] at haccepting
    have hlast : ((Loop.start settings).play channel (turns ++ [turn])).server.accepting = false ↔
        ((Loop.start settings).play channel turns).server.accepting = false ∨
          turn = .event .interrupt ∨ (turn = .event .stop ∧ .signal ∈ turns) := by
      rw [play_concat, ← Bool.not_eq_true, ← Bool.not_eq_true, haccepting]
      tauto
    rw [hlast, ih]
    constructor
    · rintro (⟨before, event, after, rfl, hevent⟩ | rfl | ⟨rfl, hsent⟩)
      · exact ⟨before, event, after ++ [turn], by simp, hevent⟩
      · exact ⟨turns, .interrupt, [], rfl, .inl rfl⟩
      · exact ⟨turns, .stop, [], rfl, .inr ⟨rfl, hsent⟩⟩
    · rintro ⟨before, event, after, hturns, hevent⟩
      rcases append_singleton_cases hturns with ⟨rfl, rfl, rfl⟩ | ⟨rest, rfl, rfl⟩
      · rcases hevent with rfl | ⟨rfl, hsent⟩
        · exact .inr (.inl rfl)
        · exact .inr (.inr ⟨rfl, hsent⟩)
      · exact .inl ⟨before, event, rest, rfl, hevent⟩

/-- A server that nobody stops goes on accepting, because only a turn that stops it ends the loop.
-/
theorem accepting_play_undisturbed (turns : List Turn) :
    ((Loop.start settings).play channel (undisturbed turns)).server.accepting = true := by
  rw [← Bool.not_eq_false, not_accepting_play_iff hchannel]
  rintro ⟨before, event, after, hturns, hevent⟩
  have hmem : Turn.event event ∈ undisturbed turns := by simp [hturns]
  rcases hevent with rfl | ⟨rfl, -⟩ <;> simp [undisturbed, Turn.isShutdown] at hmem

/-- As long as a server accepts connections, it has accepted as many as it would have if nobody
stopped it. -/
theorem accepted_undisturbed {turns : List Turn}
    (hopen : ((Loop.start settings).play channel turns).server.accepting = true) :
    accepted channel (.start settings) (undisturbed turns)
      = accepted channel (.start settings) turns := by
  induction turns using List.reverseRecOn with
  | nil => rfl
  | append_singleton turns turn ih =>
    obtain ⟨-, -, -, haccepting, -⟩ :=
      loop_step_spec hchannel ((Loop.start settings).play channel turns) turn
    rw [play_concat] at hopen
    have hbefore := (haccepting.mp hopen).1
    rw [undisturbed_append, accepted_append, accepted_append, ih hbefore]
    cases hturn : turn.isShutdown with
    | false =>
      -- Both servers take the turn, and both accept what is accepted in it.
      have halone := accepting_play_undisturbed hchannel settings turns
      have hkept : undisturbed [turn] = [turn] := by simp [undisturbed, hturn]
      simp only [hkept, accepted, halone, hbefore]
    | true =>
      -- The turn is left out, and no connection is accepted in it.
      have hne : turn ≠ .event .accepted := by
        rintro rfl
        simp [Turn.isShutdown] at hturn
      simp [undisturbed, hturn, accepted, hne]

/-- Once a server has stopped, it stays so, whatever turns follow: no turn opens its door again. -/
theorem not_accepting_play_append {before : List Turn}
    (hshut : ((Loop.start settings).play channel before).server.accepting = false)
    (after : List Turn) :
    ((Loop.start settings).play channel (before ++ after)).server.accepting = false := by
  rw [not_accepting_play_iff hchannel] at hshut ⊢
  obtain ⟨earlier, event, later, rfl, hevent⟩ := hshut
  exact ⟨earlier, event, later ++ after, by simp, hevent⟩

/-- Once a server has stopped, it accepts nothing more: a connection that comes later gets no
handler. -/
theorem accepted_eq_zero {before : List Turn}
    (hshut : ((Loop.start settings).play channel before).server.accepting = false)
    (after : List Turn) :
    accepted channel ((Loop.start settings).play channel before) after = 0 := by
  induction after generalizing before with
  | nil => rfl
  | cons turn after ih =>
    have hnext := not_accepting_play_append hchannel settings hshut [turn]
    have hrest := ih hnext
    rw [play_concat] at hrest
    rw [accepted, if_neg (by simp [hshut]), Nat.zero_add]
    exact hrest

end FromStart

/-! ### Connections of their own -/

/-- The connection with a number is accepted in some turns, by a server that has not stopped. The
turns `after` come next. -/
def Accepts (channel : Channel) (l : Loop) (turns : List Turn) (k : Nat) (after : List Turn) :
    Prop :=
  ∃ before, turns = before ++ .event .accepted :: after ∧
    (l.play channel before).server.accepting = true ∧ accepted channel l before = k

/-- What becomes of a server that keeps its connections apart, in any turns: each handler and each
byte on a connection by its own stream alone, when the server stops, and that the handlers go on
behind it. -/
structure KeepsApart (channel : Channel) (settings : ServerSettings) : Prop where
  /-- There are as many handlers as accepted connections. -/
  handlers : ∀ turns, ((Loop.start settings).play channel turns).server.handlers.size
    = accepted channel (.start settings) turns
  /-- A number is given to one connection only. -/
  numbers : ∀ turns k, k < accepted channel (.start settings) turns →
    ∃! after, Accepts channel (.start settings) turns k after
  /-- The handler of a connection is what happens on its own stream to one that starts with the
  settings of the server. -/
  handler : ∀ turns k after, Accepts channel (.start settings) turns k after →
    ((Loop.start settings).play channel turns).server.handlers[k]?
      = some ((Handler.start (Server.handlerSettings settings)).play (streamOf k after))
  bytes : ∀ turns k after, Accepts channel (.start settings) turns k after →
    written channel (.start settings) k turns
      = bytesWritten (.start (Server.handlerSettings settings)) (streamOf k after)
  /-- Whatever else goes on in two runs, connections on which the same happens get the same bytes. -/
  apart : ∀ turns k after turns' k' after', Accepts channel (.start settings) turns k after →
    Accepts channel (.start settings) turns' k' after' → streamOf k after = streamOf k' after' →
    written channel (.start settings) k turns = written channel (.start settings) k' turns'
  /-- A server ends when it is interrupted, or when it looks for a signal and one has been sent. -/
  ends : ∀ turns, (∃ result, ((Loop.start settings).play channel turns).server.result? = some result) ↔
    ∃ before event after, turns = before ++ .event event :: after ∧
      (event = .interrupt ∨ event = .stop ∧ .signal ∈ before)
  ends_well : ∀ turns result,
    ((Loop.start settings).play channel turns).server.result? = some result → result = .ok ()
  /-- A server that has ended accepts nothing more. -/
  shut : ∀ before after result,
    ((Loop.start settings).play channel before).server.result? = some result →
    accepted channel (.start settings) (before ++ after)
      = accepted channel (.start settings) before
  /-- A handler goes on as if nobody had stopped the server. -/
  goes_on : ∀ turns k after, Accepts channel (.start settings) turns k after →
    ((Loop.start settings).play channel turns).server.handlers[k]?
      = ((Loop.start settings).play channel (undisturbed turns)).server.handlers[k]? ∧
    written channel (.start settings) k turns
      = written channel (.start settings) k (undisturbed turns)

section Connections

variable {channel : Channel} {settings : ServerSettings} {turns after : List Turn} {k : Nat}

/-- A connection is accepted for each number below that of the accepted connections. -/
theorem exists_accepts (hk : k < accepted channel (.start settings) turns) :
    ∃ after, Accepts channel (.start settings) turns k after := by
  induction turns using List.reverseRecOn with
  | nil => exact absurd hk (Nat.not_lt_zero k)
  | append_singleton turns turn ih =>
    by_cases hbefore : k < accepted channel (.start settings) turns
    · obtain ⟨after, before, rfl, hopen, hcount⟩ := ih hbefore
      exact ⟨after ++ [turn], before, by simp, hopen, hcount⟩
    · -- The number is a new one, so the last turn accepts the connection.
      rw [accepted_append, accepted, accepted] at hk
      split at hk
      · next hturn => exact ⟨[], turns, by rw [hturn.1], hturn.2, by omega⟩
      · omega

/-- The number of a connection fixes the turns that follow its acceptance: two connections that are
accepted have two numbers. -/
theorem accepts_unique {after' : List Turn} (h : Accepts channel (.start settings) turns k after)
    (h' : Accepts channel (.start settings) turns k after') : after = after' := by
  obtain ⟨before, rfl, hopen, hcount⟩ := h
  obtain ⟨before', hturns, hopen', hcount'⟩ := h'
  -- Of two turns, the one that comes first is counted before the other.
  have hlater : ∀ {first rest : List Turn},
      ((Loop.start settings).play channel first).server.accepting = true →
      accepted channel (.start settings) (first ++ .event .accepted :: rest)
        ≠ accepted channel (.start settings) first := by
    intro first rest hfirst
    rw [accepted_append, accepted, if_pos ⟨rfl, hfirst⟩]
    omega
  rcases List.append_eq_append_iff.mp hturns with ⟨rest, rfl, hrest⟩ | ⟨rest, rfl, hrest⟩
  · cases rest with
    | nil => simpa using hrest
    | cons turn rest =>
      obtain ⟨rfl, -⟩ := List.cons_eq_cons.mp hrest
      exact absurd (hcount'.trans hcount.symm) (hlater hopen)
  · cases rest with
    | nil => simpa using hrest.symm
    | cons turn rest =>
      obtain ⟨rfl, -⟩ := List.cons_eq_cons.mp hrest
      exact absurd (hcount.trans hcount'.symm) (hlater hopen')

variable (hchannel : Broadcast channel)

include hchannel

/-- The handler of a connection starts with the settings of the server, and has written nothing. -/
theorem handler_start (h : Accepts channel (.start settings) turns k after) :
    ∃ before, turns = before ++ .event .accepted :: after ∧
      ((Loop.start settings).play channel (before ++ [.event .accepted])).server.handlers[k]?
        = some (.start (Server.handlerSettings settings)) ∧
      written channel (.start settings) k (before ++ [.event .accepted]) = [] := by
  obtain ⟨before, rfl, hopen, rfl⟩ := h
  have hsize := size_handlers_play (l := .start settings) hchannel before
  have hsettings := settings_play (l := .start settings) hchannel before
  have hzero : (Loop.start settings).server.handlers.size = 0 := rfl
  rw [hzero, Nat.zero_add] at hsize
  refine ⟨before, rfl, ?_, ?_⟩
  · have hnew := getElem?_handlers_accepted _ hopen
    rw [hsettings, hsize] at hnew
    rw [play_concat]
    exact hnew
  · -- Up to here there was no handler to write on the connection.
    rw [written_append, written_eq_nil hchannel (Nat.le_of_eq hsize)]
    simp [written, bytesOn, eventOn?]

/-- The handler of a connection is where the events on that connection, and no others, have brought
it. Neither what happens on other connections nor the end of the loop is in this equation. -/
theorem handler_of_accepts (h : Accepts channel (.start settings) turns k after) :
    ((Loop.start settings).play channel turns).server.handlers[k]?
      = some ((Handler.start (Server.handlerSettings settings)).play (streamOf k after)) := by
  obtain ⟨before, rfl, hstart, -⟩ := handler_start hchannel h
  rw [List.append_cons, play_append, getElem?_handlers_play hchannel hstart]

/-- What is written on a connection is decided by the events on it alone. -/
theorem written_of_accepts (h : Accepts channel (.start settings) turns k after) :
    written channel (.start settings) k turns
      = bytesWritten (.start (Server.handlerSettings settings)) (streamOf k after) := by
  obtain ⟨before, rfl, hstart, hnone⟩ := handler_start hchannel h
  rw [List.append_cons, written_append, hnone, written_play hchannel hstart, List.nil_append]

/-- If nobody stopped the server, it would accept the connection as well, as the same one. -/
theorem accepts_undisturbed (h : Accepts channel (.start settings) turns k after) :
    Accepts channel (.start settings) (undisturbed turns) k (undisturbed after) := by
  obtain ⟨before, rfl, hopen, rfl⟩ := h
  refine ⟨undisturbed before, ?_, accepting_play_undisturbed hchannel settings before,
    accepted_undisturbed hchannel settings hopen⟩
  rw [undisturbed_append]
  rfl

end Connections

/-- A channel with room for one signal, which tells how many it has dropped. -/
def broadcast : Channel
  | 0 => none
  | 1 => some .signal
  | n + 2 => some (.overrun (n + 1))

/-- A connection is served while another one fails and the server is stopped. -/
def servedToTheEnd : List Turn :=
  [.event (.acceptFailed (.os 24)), .event .accepted, .event .accepted,
    .event (.connection 0 (.read (.failed (.os 104)))),
    .event (.connection 1 (.read (.data [104, 105]))), .signal, .signal, .event .stop,
    .event .accepted, .event (.connection 1 (.write .done))]

end EchoBench.Proofs.Serve
