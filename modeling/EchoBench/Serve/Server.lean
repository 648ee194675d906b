import EchoBench.Config.ServerSettings
import EchoBench.Serve.Handler

/-!
# `EchoBench.Serve.Server`: an echo server and its connections

A server accepts connections until it is told to stop, and gives each a handler of its own. A
handler goes on by itself: neither the end of another handler nor that of the server touches it.

The server counts the connections that are being served. The count goes up when a connection is
accepted and down when its handler is done; a handler that crashes does not take its connection off
the count.

Two things are left out. Before it accepts anything, a server asks for its own address, to log it;
if that fails it ends there with the error, and `Server.start` is the state of a server that has its
address. And the wait for the signal of the user may fail instead of ending well; the server does
not tell the two apart, so `Event.interrupt` stands for both.
-/

set_option autoImplicit false

namespace EchoBench.Serve

open EchoBench.Config (ServerSettings)

/-- What a server says in its log. -/
inductive ServerEvent
  | accepted (current : Nat)
  | acceptFailed (cause : IoError)
  | handler (event : HandlerEvent)
  | connectionFailed (error : EchoError)
  | connectionClosed (current : Nat)
  /-- The user stopped the server. -/
  | interrupted
  /-- Another part of the program stopped the server. -/
  | toldToStop
  | stopped
  deriving DecidableEq, Repr

/-- The log entry of an event. -/
def ServerEvent.entry : ServerEvent → Log.Entry
  | accepted current =>
    ⟨.debug, .server, "Accepted connection", [("current", toString current)]⟩
  | acceptFailed cause =>
    ⟨.error, .server, "Failed to accept connection", [("error", cause.message)]⟩
  | handler event => event.entry
  | connectionFailed error =>
    ⟨.warn, .server, "Connection ended with error", [("error", error.message)]⟩
  | connectionClosed current =>
    ⟨.debug, .server, "Connection closed", [("current", toString current)]⟩
  | interrupted => ⟨.info, .server, "Received shutdown signal, stopping server", []⟩
  | toldToStop => ⟨.info, .server, "Received internal shutdown signal, stopping server", []⟩
  | stopped => ⟨.info, .server, "Echo server stopped", []⟩

/-- A server on its way. -/
structure Server where
  settings : HandlerSettings
  /-- Whether connections are accepted. -/
  accepting : Bool
  /-- How many connections are being served. -/
  gauge : Nat
  /-- The handlers of all connections, in the order in which these were accepted. -/
  handlers : Array Handler
  /-- What has been said in the log. -/
  events : List ServerEvent
  deriving DecidableEq, Repr

namespace Server

/-- How a server with these settings treats its connections. -/
def handlerSettings (s : ServerSettings) : HandlerSettings :=
  ⟨s.bufferSize.toNat, s.idleTimeout⟩

/-- A server that listens and knows its own address. -/
def start (settings : HandlerSettings) : Server :=
  ⟨settings, true, 0, #[], []⟩

/-- The server says something in its log. -/
def say (s : Server) (event : ServerEvent) : Server :=
  { s with events := s.events ++ [event] }

/-- What happens next to a server. -/
inductive Event
  | accepted
  | acceptFailed (cause : IoError)
  /-- Something happens on the connection with a number. -/
  | connection (index : Nat) (event : Handler.Event)
  /-- The user stops the server, or can no longer be waited for. -/
  | interrupt
  /-- Another part of the program tells the server to stop. -/
  | stop
  deriving DecidableEq, Repr

/-- A connection is accepted. -/
def accept (s : Server) : Server :=
  { s.say (.accepted (s.gauge + 1)) with
    gauge := s.gauge + 1
    handlers := s.handlers.push (.start s.settings) }

/-- A handler is done: its error is reported, and its connection is taken off the count. -/
def close (s : Server) (h : Handler) : Server :=
  let s := match h.error? with
    | some error => s.say (.connectionFailed error)
    | none => s
  { s.say (.connectionClosed (s.gauge - 1)) with gauge := s.gauge - 1 }

/-- Something happens on the connection with a number. -/
def onConnection (s : Server) (index : Nat) (event : Handler.Event) : Server :=
  match s.handlers[index]? with
  | none => s
  | some before =>
    let after := before.step event
    let said := after.events.drop before.events.length
    let s := { s with
      handlers := s.handlers.setIfInBounds index after
      events := s.events ++ said.map .handler }
    if after.isDone && !before.isDone then s.close after else s

/-- The server stops: it accepts nothing more. -/
def halt (s : Server) (reason : ServerEvent) : Server :=
  { (s.say reason).say .stopped with accepting := false }

/-- What running a server gives back once it has stopped. From `Server.start` on it never ends with
an error: one that came up while a connection was asked for has been reported, and no handler hands
its own over. -/
def result? (s : Server) : Option (Except EchoError Unit) :=
  if s.accepting then none else some (.ok ())

/-- What an event makes of a server. Once it has stopped, only its handlers go on. -/
def step (s : Server) : Event → Server
  | .accepted => if s.accepting then s.accept else s
  | .acceptFailed cause => if s.accepting then s.say (.acceptFailed cause) else s
  | .connection index event => s.onConnection index event
  | .interrupt => if s.accepting then s.halt .interrupted else s
  | .stop => if s.accepting then s.halt .toldToStop else s

/-- What a list of events makes of a server. -/
def play (s : Server) (events : List Event) : Server :=
  events.foldl step s

end Server

end EchoBench.Serve
