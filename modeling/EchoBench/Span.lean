import EchoBench.Text.Numeral

/-!
# `EchoBench.Span`: lengths of time

A span is a whole number of nanoseconds. Its text uses the largest of the units s, ms, µs and ns of
which it holds at least one, with a fraction that has no trailing zeros.
-/

set_option autoImplicit false

namespace EchoBench

open EchoBench.Text

/-- A length of time. -/
structure Span where
  /-- The number of nanoseconds. -/
  nanoseconds : Nat
  deriving DecidableEq, Repr, Inhabited

namespace Span

/-- A span of whole seconds. -/
def ofSeconds (n : Nat) : Span :=
  ⟨n * 1000000000⟩

/-- The whole seconds in a span. -/
def seconds (s : Span) : Nat :=
  s.nanoseconds / 1000000000

/-- The nanoseconds beyond the whole seconds. -/
def subseconds (s : Span) : Nat :=
  s.nanoseconds % 1000000000

/-- The span in milliseconds. The seconds and their fraction are added before they are scaled, so
the result is rounded where the two are added. -/
def milliseconds (s : Span) : Float :=
  (Float.ofNat s.seconds + Float.ofNat s.subseconds / 1000000000.0) * 1000.0

/-- A fraction of a unit, in a fixed number of places of which trailing zeros are left out. -/
def fractionText (places part : Nat) : List Char :=
  let digits := decimal part
  let padded := List.replicate (places - digits.length) '0' ++ digits
  match (padded.reverse.dropWhile (· = '0')).reverse with
  | [] => []
  | shown => '.' :: shown

/-- A number of nanoseconds written in a unit of `10 ^ places` nanoseconds. -/
def inUnit (places : Nat) (unit : String) (nanoseconds : Nat) : String :=
  let size := Nat.pow 10 places
  String.ofList (decimal (nanoseconds / size) ++ fractionText places (nanoseconds % size)) ++ unit

/-- The text of a span. -/
def text (s : Span) : String :=
  if 1000000000 ≤ s.nanoseconds then inUnit 9 "s" s.nanoseconds
  else if 1000000 ≤ s.nanoseconds then inUnit 6 "ms" s.nanoseconds
  else if 1000 ≤ s.nanoseconds then inUnit 3 "µs" s.nanoseconds
  else inUnit 0 "ns" s.nanoseconds

@[simp] theorem seconds_ofSeconds (n : Nat) : (ofSeconds n).seconds = n :=
  Nat.mul_div_cancel n (by decide)

example : (ofSeconds 3600).text = "3600s" ∧ (⟨1000000001⟩ : Span).text = "1.000000001s" ∧
    (⟨1500000⟩ : Span).text = "1.5ms" ∧ (⟨1000⟩ : Span).text = "1µs" ∧
    (⟨0⟩ : Span).text = "0ns" := by
  decide +kernel

end Span

end EchoBench
