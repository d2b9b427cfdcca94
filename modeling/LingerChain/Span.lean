/-
This file writes spans of time in the largest unit that does not exceed them.
-/

namespace LingerChain

structure Span where
  seconds : Nat
  nanos : Nat
  within : nanos < 1000000000
  deriving DecidableEq

namespace Span

def ofMillis (millis : Nat) : Span :=
  ⟨millis / 1000, millis % 1000 * 1000000, by omega⟩

/-- The whole milliseconds of a span leave out what is shorter. -/
def toMillis (span : Span) : Nat := span.seconds * 1000 + span.nanos / 1000000

/-- A fraction has the given number of places, less the zeros at its end. -/
def fraction (places part : Nat) : List Char :=
  let digits := Nat.toDigits 10 part
  let padded := List.replicate (places - digits.length) '0' ++ digits
  (padded.reverse.dropWhile (· = '0')).reverse

def decimal (whole places part : Nat) (unit : String) : String :=
  let shown := fraction places part
  toString whole ++ (if shown.isEmpty then "" else "." ++ String.ofList shown) ++ unit

def text (span : Span) : String :=
  if 0 < span.seconds then decimal span.seconds 9 span.nanos "s"
  else if 1000000 ≤ span.nanos then decimal (span.nanos / 1000000) 6 (span.nanos % 1000000) "ms"
  else if 1000 ≤ span.nanos then decimal (span.nanos / 1000) 3 (span.nanos % 1000) "µs"
  else decimal span.nanos 0 0 "ns"

end Span

end LingerChain
