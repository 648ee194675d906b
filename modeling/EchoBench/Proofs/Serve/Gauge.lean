import EchoBench.Proofs.Config.Buffer
import EchoBench.Proofs.Serve.Isolation

/-!
# `EchoBench.Proofs.Serve.Gauge`: how many connections a server counts

A server counts up when it accepts a connection and down when the handler of one returns. Any other
way for a handler to end leaves the count as it is: the task of a handler that crashes is gone, and
with it the connection, but nobody takes it off the count.

`counts_of_settings` says what the count is then, after any incidents: events of the server in any
order, and between them tasks that crash for any reason (`Incident`). It is that of the connections
whose tasks go on, and of all those whose tasks have crashed; so it is the first alone exactly where
no task has crashed. It never falls below zero, and whoever counts by the log gets the same
(`recount`). Left alone, tasks crash only for want of their buffers, so a server that can have these
counts only what goes on. `counted_after_crash` is a server that cannot.

What an incident does to the count is one of three things (`Moves`, `moves_stepIncident`), and each
keeps what holds of a server at any time (`Kept`, `Kept.of_moves`).
-/

set_option autoImplicit false

namespace EchoBench.Proofs.Serve

open EchoBench.Config (ServerSettings)
open EchoBench.Net
open EchoBench.Serve
open EchoBench.Proofs.Config (crashed_step_iff)

/-! ### Tasks -/

/-- The task of a handler goes on: it has neither returned nor crashed. The gauge is meant to count
these. -/
def isAlive (h : Handler) : Bool :=
  match h.stage with
  | .reading | .writing _ => true
  | .ended | .failed _ | .crashed _ => false

/-- The task of a handler has crashed. Nothing takes such a connection off the gauge, and so it is
counted for ever. -/
def isCrashed (h : Handler) : Bool :=
  match h.stage with
  | .crashed _ => true
  | .reading | .writing _ | .ended | .failed _ => false

/-- A handler returns in an event, well or with an error. In this event, and in no other, its
connection is taken off the gauge. -/
def returns (h : Handler) (event : Handler.Event) : Bool :=
  (h.step event).isDone && !h.isDone

/-- The task of a handler crashes, if it goes on. A task that has ended cannot crash any more. -/
def crash (text : String) (h : Handler) : Handler :=
  if isAlive h then h.goTo (.crashed text) else h

/-- Something in the run of a server: an event, or a crash of a task at any time, for whatever
reason. The statements on the gauge hold for all lists of these. -/
inductive Incident
  | event (event : Server.Event)
  /-- The task of a connection crashes, for whatever reason. -/
  | crash (index : Nat) (text : String)
  deriving DecidableEq, Repr

/-- What an incident makes of a server. The server is not told of a crash. -/
def stepIncident (s : Server) : Incident → Server
  | .event event => s.step event
  | .crash index text => { s with handlers := s.handlers.modify index (crash text) }

/-- What a list of incidents makes of a server, one after the other from the left. -/
def playIncidents (s : Server) (incidents : List Incident) : Server :=
  incidents.foldl stepIncident s

/-- How many of the accepted connections have a task that goes on. -/
def alive (s : Server) : Nat :=
  s.handlers.countP isAlive

/-- How many of the accepted connections had a task that crashed. -/
def crashed (s : Server) : Nat :=
  s.handlers.countP isCrashed

/-- How many of the accepted connections have a handler that has not returned. -/
def unreturned (s : Server) : Nat :=
  s.handlers.countP fun h => !h.isDone

section Handlers

variable (h : Handler)

/-- A handler that has not returned goes on or has crashed, and not both. -/
theorem boole_not_isDone :
    (if !h.isDone then 1 else 0) = (if isAlive h then 1 else 0) + (if isCrashed h then 1 else 0) := by
  rw [Handler.isDone, isAlive, isCrashed]
  cases h.stage <;> rfl

/-- A handler has crashed if its stage says so, with whatever text. The text is that of the message
and does not matter to the gauge. -/
theorem isCrashed_iff : isCrashed h = true ↔ ∃ text, h.stage = .crashed text := by
  rw [isCrashed]
  cases h.stage <;> simp

/-- A handler that has returned stays as it is: its stage takes no event. So it is taken off the
count once and not twice. -/
theorem step_of_isDone (event : Handler.Event) (hdone : h.isDone = true) : h.step event = h := by
  rw [Handler.isDone] at hdone
  cases hstage : h.stage with
  | ended | failed error => cases event <;> simp [Handler.step, hstage]
  | reading | writing size | crashed text => simp [hstage] at hdone

/-- Nothing that happens on its stream crashes a handler, or saves it. A task is counted as crashed
from its start on, for want of a buffer, or by a crash from outside. -/
theorem isCrashed_step (event : Handler.Event) : isCrashed (h.step event) = isCrashed h := by
  rw [Bool.eq_iff_iff, isCrashed_iff, isCrashed_iff]
  exact exists_congr fun text => crashed_step_iff h event text

/-- Crashing a handler makes no difference to whether it returned: one that was done stays done, and
one that was not will never be. -/
theorem isDone_crash (text : String) : (crash text h).isDone = h.isDone := by
  rw [crash, isAlive]
  cases hstage : h.stage <;> simp [Handler.goTo, Handler.isDone, hstage]

/-- No handler is done when its connection is accepted, not even one that crashes at once. -/
theorem isDone_start (settings : HandlerSettings) : (Handler.start settings).isDone = false := by
  unfold Handler.start Handler.isDone
  by_cases hsize : settings.bufferSize ≤ greatestBuffer <;> simp [hsize]

end Handlers

/-- A handler that has not returned is alive or has crashed, and not both. -/
theorem unreturned_eq (s : Server) : unreturned s = alive s + crashed s := by
  rw [unreturned, alive, crashed, ← Array.countP_toList, ← Array.countP_toList,
    ← Array.countP_toList]
  induction s.handlers.toList with
  | nil => rfl
  | cons h handlers ih =>
    simp only [List.countP_cons, ih, boole_not_isDone]
    omega

/-- There is no crashed handler if and only if no handler has crashed. -/
theorem crashed_eq_zero_iff (s : Server) :
    crashed s = 0 ↔ ∀ h ∈ s.handlers, ∀ text, h.stage ≠ .crashed text := by
  rw [crashed, Array.countP_eq_zero]
  simp only [isCrashed_iff, not_exists, ne_eq]

section Arrays

variable {α : Type} {p : α → Bool} {f : α → α} {xs : Array α} {i : Nat}

/-- A change at one place counts there only, so an event on one connection is compared with the
count at that connection alone. -/
theorem countP_modify {a : α} (ha : xs[i]? = some a) :
    (xs.modify i f).countP p + (if p a then 1 else 0)
      = xs.countP p + (if p (f a) then 1 else 0) := by
  obtain ⟨hi, rfl⟩ := Array.getElem?_eq_some_iff.mp ha
  have hset : xs.modify i f = xs.set i (f xs[i]) := by
    apply Array.ext_getElem?
    grind
  have hle := Array.boole_getElem_le_countP (p := p) hi
  rw [hset, Array.countP_set]
  omega

/-- A change that makes no difference anywhere changes no count. By this an event on one connection
leaves the number of crashed tasks as it is. -/
theorem countP_modify_of_eq (hf : ∀ a, p (f a) = p a) : (xs.modify i f).countP p = xs.countP p := by
  cases hi : xs[i]? with
  | none =>
    have hsame : xs.modify i f = xs := by
      apply Array.ext_getElem?
      grind
    rw [hsame]
  | some a =>
    have hcount := countP_modify (p := p) (f := f) hi
    rw [hf] at hcount
    exact Nat.add_right_cancel hcount

end Arrays

/-! ### The log -/

/-- Counts connections by the log: up by one where one is accepted, and down by one where one is
closed. A number in the log that is not the next one ends the count. -/
def recount : Option Nat → ServerEvent → Option Nat
  | some n, .accepted current => if current = n + 1 then some current else none
  | some n, .connectionClosed current => if current + 1 = n then some current else none
  | count, _ => count

/-- An entry of the log tells of a new connection. Each gives the number of connections, the new one
included. -/
def isAcceptance : ServerEvent → Bool
  | .accepted _ => true
  | _ => false

/-- An entry of the log gives no number of connections. Such an entry is passed over where the gauge
is told from the log. -/
def isQuiet : ServerEvent → Bool
  | .accepted _ | .connectionClosed _ => false
  | .acceptFailed _ | .handler _ | .connectionFailed _ | .interrupted | .toldToStop | .stopped =>
    true

section Quiet

variable {quiet : List ServerEvent} (hquiet : ∀ entry ∈ quiet, isQuiet entry = true)

include hquiet

/-- A quiet log accepts nothing, because what tells of a new connection gives a number. -/
theorem countP_isAcceptance_of_quiet : quiet.countP isAcceptance = 0 := by
  rw [List.countP_eq_zero]
  intro entry hentry
  have hentry := hquiet entry hentry
  cases entry <;> simp [isAcceptance, isQuiet] at hentry ⊢

/-- A quiet log leaves the count that a reader of the log keeps as it is. -/
theorem recount_of_quiet (count : Option Nat) : quiet.foldl recount count = count := by
  induction quiet with
  | nil => rfl
  | cons entry quiet ih =>
    obtain ⟨hentry, hquiet⟩ := List.forall_mem_cons.mp hquiet
    have hsame : recount count entry = count := by
      cases count <;> cases entry <;> simp [recount, isQuiet] at hentry ⊢
    rw [List.foldl_cons, hsame, ih hquiet]

end Quiet

/-! ### One incident -/

/-- What an incident does to the count of a server: it goes up where a connection is accepted and
down where a handler returns, with the new count in the log, and else it stays. -/
inductive Moves (s after : Server) : Prop
  | up (gauge : after.gauge = s.gauge + 1) (size : after.handlers.size = s.handlers.size + 1)
      (unreturned : unreturned after = unreturned s + 1)
      (events : after.events = s.events ++ [.accepted after.gauge])
  | down (gauge : after.gauge = s.gauge - 1) (size : after.handlers.size = s.handlers.size)
      (unreturned : unreturned after + 1 = unreturned s) (quiet : List ServerEvent)
      (hquiet : ∀ entry ∈ quiet, isQuiet entry = true)
      (events : after.events = s.events ++ quiet ++ [.connectionClosed after.gauge])
  | level (gauge : after.gauge = s.gauge) (size : after.handlers.size = s.handlers.size)
      (unreturned : unreturned after = unreturned s) (quiet : List ServerEvent)
      (hquiet : ∀ entry ∈ quiet, isQuiet entry = true)
      (events : after.events = s.events ++ quiet)

section Incidents

variable {s : Server} {index : Nat}

/-- A server whose handlers stay as they are may say what it likes, if it gives no number. -/
theorem Moves.of_said {after : Server} (said : List ServerEvent)
    (hsaid : ∀ entry ∈ said, isQuiet entry = true) (hgauge : after.gauge = s.gauge)
    (hhandlers : after.handlers = s.handlers) (hevents : after.events = s.events ++ said) :
    Moves s after :=
  .level hgauge (congrArg Array.size hhandlers) (congrArg (Array.countP _) hhandlers) said hsaid
    hevents

/-- Where nothing happens nothing moves. -/
theorem Moves.refl (s : Server) : Moves s s :=
  .of_said [] (List.forall_mem_nil _) rfl rfl (List.append_nil _).symm

/-- Stopping is said in the log and touches neither the count nor a handler. -/
theorem moves_halt {reason : ServerEvent} (hreason : isQuiet reason = true) :
    Moves s (s.halt reason) := by
  refine .of_said [reason, .stopped] ?_ rfl rfl ?_
  · exact List.forall_mem_cons.mpr ⟨hreason, by simp [isQuiet]⟩
  · simp [Server.halt, Server.say]

/-- Accepting raises the count by one, adds one handler that has not returned, and says the new
count. -/
theorem moves_accept : Moves s s.accept := by
  refine .up rfl (Array.size_push _) ?_ rfl
  show (s.handlers.push _).countP _ = s.handlers.countP _ + 1
  rw [Array.countP_push, isDone_start]
  rfl

/-- A server that closes a connection takes it off its count, and may report an error before. -/
theorem close_events (h : Handler) :
    (s.close h).gauge = s.gauge - 1 ∧ ∃ quiet, (∀ entry ∈ quiet, isQuiet entry = true) ∧
      (s.close h).events = s.events ++ quiet ++ [.connectionClosed (s.gauge - 1)] := by
  rw [Server.close]
  cases h.error? with
  | none => exact ⟨rfl, [], List.forall_mem_nil _, by simp [Server.say]⟩
  | some error => exact ⟨rfl, [.connectionFailed error], by simp [isQuiet], by simp [Server.say]⟩

/-- Of the handlers that have not returned there is one less exactly where one returns. -/
theorem unreturned_onConnection (event : Handler.Event) {h : Handler}
    (hh : s.handlers[index]? = some h) :
    unreturned (s.onConnection index event) + (if returns h event then 1 else 0)
      = unreturned s := by
  have hcount := countP_modify (p := fun h => !h.isDone) (f := (·.step event)) hh
  rw [unreturned, (onConnection_spec s index event).2.1, unreturned, returns]
  cases hdone : h.isDone with
  | true =>
    rw [step_of_isDone h event hdone, hdone] at hcount
    simpa using hcount
  | false => cases hafter : (h.step event).isDone <;> simp_all

/-- What happens on a connection takes it off the count exactly where its handler returns. -/
theorem moves_onConnection (s : Server) (index : Nat) (event : Handler.Event) :
    Moves s (s.onConnection index event) := by
  have hsize : (s.onConnection index event).handlers.size = s.handlers.size := by
    rw [(onConnection_spec s index event).2.1, Array.size_modify]
  cases hh : s.handlers[index]? with
  | none =>
    have hsame : s.onConnection index event = s := by simp [Server.onConnection, hh]
    rw [hsame]
    exact .refl s
  | some h =>
    have hunreturned := unreturned_onConnection event hh
    let said := ((h.step event).events.drop h.events.length).map ServerEvent.handler
    have hsaid : ∀ entry ∈ said, isQuiet entry = true := by
      intro entry hentry
      obtain ⟨_, -, rfl⟩ := List.mem_map.mp hentry
      rfl
    -- The handler says what it has to say before the server looks whether it has returned.
    let told : Server := { s with
      handlers := s.handlers.setIfInBounds index (h.step event)
      events := s.events ++ said }
    have heq : s.onConnection index event
        = if returns h event then told.close (h.step event) else told := by
      rw [Server.onConnection, hh]
      rfl
    cases hreturns : returns h event with
    | true =>
      rw [hreturns, if_pos rfl] at heq hunreturned
      obtain ⟨hgauge, quiet, hquiet, hevents⟩ := close_events (s := told) (h.step event)
      rw [← heq] at hgauge hevents
      refine .down hgauge hsize hunreturned (said ++ quiet)
        (List.forall_mem_append.mpr ⟨hsaid, hquiet⟩) ?_
      rw [hevents, hgauge]
      simp [told]
    | false =>
      rw [hreturns, if_neg (by decide)] at heq hunreturned
      exact .level (by rw [heq]) hsize hunreturned said hsaid (by rw [heq])

/-- Every event moves the count and the handlers together: one case for each kind of event, of which
only an acceptance and the end of a handler change either. -/
theorem moves_step (s : Server) (event : Server.Event) : Moves s (s.step event) := by
  cases event with
  | accepted =>
    rw [Server.step]
    split
    · exact moves_accept
    · exact .refl s
  | acceptFailed cause =>
    rw [Server.step]
    split
    · exact .of_said [.acceptFailed cause] (by simp [isQuiet]) rfl rfl rfl
    · exact .refl s
  | connection index event => exact moves_onConnection s index event
  | interrupt | stop =>
    rw [Server.step]
    split
    · exact moves_halt rfl
    · exact .refl s

/-- What an incident does to the count of a server. A crash does nothing to it. -/
theorem moves_stepIncident (s : Server) (incident : Incident) :
    Moves s (stepIncident s incident) := by
  cases incident with
  | event event => exact moves_step s event
  | crash index text =>
    exact .level rfl Array.size_modify (countP_modify_of_eq fun h => by rw [isDone_crash]) []
      (List.forall_mem_nil _) (List.append_nil _).symm

end Incidents

/-! ### Runs -/

/-- What holds of a server at any time: the gauge counts the connections that have not returned, the
log tells of each one that was accepted, and counting along the log comes to the gauge. -/
structure Kept (s : Server) : Prop where
  /-- The count is that of the handlers that have not returned. -/
  gauge : s.gauge = unreturned s
  /-- There is a handler for each connection that the log tells of. -/
  size : s.handlers.size = s.events.countP isAcceptance
  /-- Who counts by the log has the same count. -/
  log : s.events.foldl recount (some 0) = some s.gauge

/-- A server that has accepted nothing counts nothing. -/
theorem kept_start (settings : HandlerSettings) : Kept (.start settings) :=
  ⟨rfl, rfl, rfl⟩

/-- What a move changes about the count it changes about the handlers as well, so the account stays
right. -/
theorem Kept.of_moves {s after : Server} (h : Kept s) (hmoves : Moves s after) : Kept after := by
  obtain ⟨hgauge, hsize, hlog⟩ := h
  cases hmoves with
  | up hup hsize' hunreturned hevents =>
    refine ⟨by omega, ?_, ?_⟩
    · rw [hsize', hevents, hsize, List.countP_append]
      rfl
    · rw [hevents, List.foldl_append, hlog]
      simp [recount, hup]
  | down hdown hsize' hunreturned quiet hquiet hevents =>
    -- The handler that returns had not returned before, so the count was not zero.
    have hnext : after.gauge + 1 = s.gauge := by omega
    refine ⟨by omega, ?_, ?_⟩
    · rw [hsize', hevents, hsize, List.countP_append, List.countP_append,
        countP_isAcceptance_of_quiet hquiet]
      rfl
    · rw [hevents, List.foldl_append, List.foldl_append, hlog, recount_of_quiet hquiet]
      simp [recount, hnext]
  | level hlevel hsize' hunreturned quiet hquiet hevents =>
    refine ⟨by omega, ?_, ?_⟩
    · rw [hsize', hevents, hsize, List.countP_append, countP_isAcceptance_of_quiet hquiet]
      rfl
    · rw [hevents, List.foldl_append, hlog, recount_of_quiet hquiet, hlevel]

/-- The account is right after any list of incidents, those included that crash a handler; the
induction is on the list. -/
theorem kept_playIncidents {s : Server} (h : Kept s) (incidents : List Incident) :
    Kept (playIncidents s incidents) := by
  induction incidents generalizing s with
  | nil => exact h
  | cons incident incidents ih => exact ih (h.of_moves (moves_stepIncident s incident))

/-- The runs in which no task is made to crash are the runs of the server. -/
theorem playIncidents_map_event (s : Server) (events : List Server.Event) :
    playIncidents s (events.map .event) = s.play events := by
  rw [playIncidents, List.foldl_map]
  rfl

section Buffers

variable {s : Server} (hsize : s.settings.bufferSize ≤ greatestBuffer)

include hsize

/-- No task crashes in an event where the buffers can be had, since the buffer is the only thing
that a task asks for and may not get. -/
theorem crashed_step (event : Server.Event) : crashed (s.step event) = crashed s := by
  cases event with
  | accepted =>
    rw [Server.step]
    split
    · have hstart : isCrashed (.start s.settings) = false := by
        simp [Handler.start, isCrashed, hsize]
      show (s.handlers.push _).countP _ = s.handlers.countP _
      rw [Array.countP_push, hstart]
      rfl
    · rfl
  | connection index event =>
    rw [Server.step, crashed, (onConnection_spec s index event).2.1, crashed]
    exact countP_modify_of_eq fun h => isCrashed_step h event
  | acceptFailed cause | interrupt | stop =>
    rw [Server.step]
    split <;> rfl

/-- No event crashes a handler. Only an incident from outside does, or the size of its buffer at the
start. -/
theorem crashed_play (events : List Server.Event) : crashed (s.play events) = crashed s := by
  induction events generalizing s with
  | nil => rfl
  | cons event events ih =>
    have hnext : (s.step event).settings.bufferSize ≤ greatestBuffer := by
      rw [(step_spec s event).1]
      exact hsize
    exact (ih hnext).trans (crashed_step hsize event)

end Buffers

/-! ### The count -/

/-- How a server counts its connections, in any run: what the gauge is, when it goes up and down,
that it never goes below zero, and what the log says of it. -/
structure Counts (settings : HandlerSettings) : Prop where
  /-- There is one handler for each accepted connection. -/
  handlers : ∀ incidents, let s := playIncidents (.start settings) incidents
    s.handlers.size = s.events.countP isAcceptance
  /-- The count is that of the connections whose tasks go on, and of those whose tasks crashed. -/
  gauge : ∀ incidents, let s := playIncidents (.start settings) incidents
    s.gauge = alive s + crashed s
  /-- It is that of the connections whose tasks go on exactly where no task has crashed. -/
  exact_iff : ∀ incidents, let s := playIncidents (.start settings) incidents
    s.gauge = alive s ↔ ∀ h ∈ s.handlers, ∀ text, h.stage ≠ .crashed text
  /-- A handler that returns finds a count above zero, and takes one off. -/
  down : ∀ incidents, let s := playIncidents (.start settings) incidents
    ∀ index event h, s.handlers[index]? = some h → returns h event = true →
      (s.step (.connection index event)).gauge + 1 = s.gauge
  /-- By the log, every number in it is the next one, and the last is the count. -/
  log : ∀ incidents, let s := playIncidents (.start settings) incidents
    s.events.foldl recount (some 0) = some s.gauge
  /-- Where tasks are left alone, the count is that of the connections whose tasks go on, in all
  runs, exactly if the buffers can be had. -/
  left_alone : (∀ events, let s := (Server.start settings).play events
    s.gauge = alive s) ↔ settings.bufferSize ≤ greatestBuffer

section Count

variable (settings : HandlerSettings)

/-- The count is that of the connections that are alive, and of those whose handler crashed. -/
theorem gauge_playIncidents (incidents : List Incident) :
    (playIncidents (.start settings) incidents).gauge
      = alive (playIncidents (.start settings) incidents)
        + crashed (playIncidents (.start settings) incidents) :=
  (kept_playIncidents (kept_start settings) incidents).gauge.trans (unreturned_eq _)

/-- The same for events alone, which are incidents that crash nothing. What crashes here does so for
want of a buffer. -/
theorem gauge_play (events : List Server.Event) :
    ((Server.start settings).play events).gauge
      = alive ((Server.start settings).play events)
        + crashed ((Server.start settings).play events) := by
  rw [← playIncidents_map_event]
  exact gauge_playIncidents settings _

/-- A connection is counted whose task crashes before it has read anything: it is counted up when it
is accepted, and its task never comes to count it down. -/
theorem crashed_play_accepted (hlarge : ¬settings.bufferSize ≤ greatestBuffer) :
    crashed ((Server.start settings).play [.accepted]) = 1 := by
  have hstart : isCrashed (.start settings) = true := by simp [Handler.start, isCrashed, hlarge]
  show (#[].push (Handler.start settings)).countP isCrashed = 1
  rw [Array.countP_push, hstart]
  rfl

/-- The count is that of the open connections, whatever happens to the server, if and only if its
buffer can be had: otherwise the first connection crashes its handler and stays on the count. -/
theorem gauge_eq_alive_iff :
    (∀ events, ((Server.start settings).play events).gauge
      = alive ((Server.start settings).play events)) ↔ settings.bufferSize ≤ greatestBuffer := by
  constructor
  · intro hexact
    by_contra hlarge
    have hgauge := gauge_play settings [.accepted]
    rw [hexact, crashed_play_accepted settings hlarge] at hgauge
    omega
  · intro hsize events
    have hnone : crashed ((Server.start settings).play events) = 0 := crashed_play hsize events
    have hgauge := gauge_play settings events
    rwa [hnone] at hgauge

end Count

/-- Every server counts the connections whose tasks go on, and those whose tasks crashed, whatever
happens to it, to its connections and to their tasks. -/
theorem counts_of_settings (settings : ServerSettings) :
    Counts (Server.handlerSettings settings) where
  handlers incidents := (kept_playIncidents (kept_start _) incidents).size
  gauge incidents := gauge_playIncidents _ incidents
  exact_iff incidents := by
    intro s
    have hgauge : s.gauge = alive s + crashed s := gauge_playIncidents _ incidents
    rw [← crashed_eq_zero_iff]
    omega
  down incidents := by
    intro s index event h hh hreturns
    have hkept : Kept s := kept_playIncidents (kept_start _) incidents
    have hnext : Kept (s.step (.connection index event)) := hkept.of_moves (moves_step s _)
    have hunreturned := unreturned_onConnection event hh
    rw [if_pos hreturns] at hunreturned
    rw [hkept.gauge, hnext.gauge]
    exact hunreturned
  log incidents := (kept_playIncidents (kept_start _) incidents).log
  left_alone := gauge_eq_alive_iff _

/-- The settings of a server whose buffers are to be of one byte more than can be had. -/
def greedy : ServerSettings :=
  { ServerSettings.default with bufferSize := 9223372036854775808 }

/-- Two connections stay on the count of such a server, and no task goes on. -/
theorem counted_after_crash :
    let s := (Server.start (Server.handlerSettings greedy)).play [.accepted, .accepted]
    s.events = [.accepted 1, .accepted 2] ∧ s.gauge = 2 ∧ alive s = 0 ∧ s.gauge ≠ alive s := by
  decide

end EchoBench.Proofs.Serve
