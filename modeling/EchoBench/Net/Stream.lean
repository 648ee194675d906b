import EchoBench.Error
import EchoBench.Span

/-!
# `EchoBench.Net.Stream`: what a connection answers

A client and a server see a connection only through the answers to their calls. Here are those
answers; where a call was given a time, it may also end because that time is over.
-/

set_option autoImplicit false

namespace EchoBench.Net

/-- The answer to a call that asks for a connection. -/
inductive DialAnswer
  | connected
  | failed (cause : IoError)
  /-- The time is over. -/
  | expired
  deriving DecidableEq, Repr

/-- The answer to a call that writes bytes, all of them or none after a fault. -/
inductive WriteAnswer
  | done
  /-- Writing failed after so many bytes. -/
  | failed (written : Nat) (cause : IoError)
  /-- The time is over after so many bytes. -/
  | expired (written : Nat)
  deriving DecidableEq, Repr

/-- The answer to a call that reads bytes. -/
inductive ReadAnswer
  /-- Some bytes; none at all where the stream has ended, or where none were asked for. -/
  | data (bytes : List UInt8)
  | failed (cause : IoError)
  /-- The time is over. -/
  | expired
  deriving DecidableEq, Repr

/-- The number of bytes that a write left on the stream, of so many that it was given. -/
def WriteAnswer.written (given : Nat) : WriteAnswer → Nat
  | done => given
  | failed n _ | expired n => min n given

/-- The most bytes that a buffer can have: those that a signed word of the machine counts. -/
def greatestBuffer : Nat :=
  9223372036854775807

/-- The text that a program leaves which asks for a greater buffer. -/
def bufferCrash : String :=
  "capacity overflow"

end EchoBench.Net
