import EchoBench.Config.Lookup
import EchoBench.Net.Address
import EchoBench.Span

/-!
# `EchoBench.Config.ServerSettings`: what a server is asked to do

The defaults, and the settings that a lookup gives. The address is not among the settings of a
lookup: a server started from one listens on every address of its machine.
-/

set_option autoImplicit false

namespace EchoBench.Config

open EchoBench.Text

/-- What a server is asked to do. -/
structure ServerSettings where
  /-- The address to listen on. -/
  ip : Net.Ip
  /-- The port to listen on; zero leaves the choice to the operating system. -/
  port : UInt16
  /-- How many bytes are read from a connection at once. -/
  bufferSize : UInt64
  /-- How long a connection may stay silent, where there is a limit. -/
  idleTimeout : Option Span
  deriving DecidableEq, Repr

namespace ServerSettings

/-- The settings of a server that is asked for nothing in particular. -/
def default : ServerSettings where
  ip := .unspecified
  port := 8080
  bufferSize := 1024
  idleTimeout := none

/-- The names under which a lookup is asked for the settings of a server. -/
def names : List String :=
  ["PORT", "BUFFER_SIZE", "IDLE_TIMEOUT_SECS"]

/-- The settings that a lookup gives. -/
def ofLookup (l : Lookup) : Reported ServerSettings := do
  let port ← l.numberOr .bits16 "PORT" default.port.toNat
  let bufferSize ← l.numberOr .positive64 "BUFFER_SIZE" default.bufferSize.toNat
  let idle ← l.number? .positive64 "IDLE_TIMEOUT_SECS"
  return {
    ip := default.ip
    port := .ofNat port
    bufferSize := .ofNat bufferSize
    idleTimeout := idle.map .ofSeconds }

/-- Where the server listens. -/
def endpoint (s : ServerSettings) : Net.Endpoint :=
  { ip := s.ip, port := s.port }

end ServerSettings

end EchoBench.Config
