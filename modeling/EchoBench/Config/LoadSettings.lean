import EchoBench.Config.Lookup
import EchoBench.Span

/-!
# `EchoBench.Config.LoadSettings`: what a load run is asked to do

The defaults, and the settings that a lookup gives. Numbers that would make no sense as zero, the
sizes and the spans of time, are positive.
-/

set_option autoImplicit false

namespace EchoBench.Config

open EchoBench.Text

/-- What a load run is asked to do. -/
structure LoadSettings where
  /-- The host to call. -/
  host : String
  /-- The port to call. -/
  port : UInt16
  /-- The name of the run, from which its clients take theirs. -/
  clientId : String
  /-- How many messages each client sends. -/
  messages : UInt64
  /-- How many clients there are. -/
  clients : UInt64
  /-- The text that each message begins with, where there is one. -/
  opening : Option String
  /-- How long a client waits for its connection. -/
  dialTimeout : Span
  /-- How long a client may take for all its messages. -/
  ioDeadline : Span
  /-- How many bytes a client reads at once. -/
  bufferSize : UInt64
  deriving DecidableEq, Repr

namespace LoadSettings

/-- The settings of a run that is asked for nothing in particular. -/
def default : LoadSettings where
  host := "localhost"
  port := 8080
  clientId := "default_client_pod"
  messages := 1
  clients := 1
  opening := none
  dialTimeout := .ofSeconds 10
  ioDeadline := .ofSeconds 60
  bufferSize := 1024

/-- The names under which a lookup is asked for the settings of a run. -/
def names : List String :=
  ["SERVER_IP", "SERVER_PORT", "CLIENT_ID", "NUM_MESSAGES_PER_CLIENT", "NUM_CONCURRENT_CLIENTS",
    "MESSAGE_PREFIX", "MESSAGE", "DIAL_TIMEOUT_SECS", "IO_DEADLINE_SECS", "BUFFER_SIZE"]

/-- The settings that a lookup gives. -/
def ofLookup (l : Lookup) : Reported LoadSettings := do
  let port ← l.numberOr .bits16 "SERVER_PORT" default.port.toNat
  let messages ← l.numberOr .bits64 "NUM_MESSAGES_PER_CLIENT" default.messages.toNat
  let clients ← l.numberOr .bits64 "NUM_CONCURRENT_CLIENTS" default.clients.toNat
  let dial ← l.numberOr .positive64 "DIAL_TIMEOUT_SECS" default.dialTimeout.seconds
  let deadline ← l.numberOr .positive64 "IO_DEADLINE_SECS" default.ioDeadline.seconds
  let bufferSize ← l.numberOr .positive64 "BUFFER_SIZE" default.bufferSize.toNat
  return {
    host := l.textOr "SERVER_IP" default.host
    port := .ofNat port
    clientId := l.textOr "CLIENT_ID" default.clientId
    messages := .ofNat messages
    clients := .ofNat clients
    opening := l.get? "MESSAGE_PREFIX" <|> l.get? "MESSAGE"
    dialTimeout := .ofSeconds dial
    ioDeadline := .ofSeconds deadline
    bufferSize := .ofNat bufferSize }

end LoadSettings

end EchoBench.Config
