/-
This file says how long a node lingers: not at all, for a span, or for ever.
-/

import LingerChain.Millis
import LingerChain.Span

namespace LingerChain

inductive Wait where
  | exit
  | sleep (span : Span)
  | forever
  deriving DecidableEq

namespace Wait

/-- A node that never exits sleeps in steps of this length. -/
def tick : Span := Span.ofMillis 1000

/-- The sign of the duration decides. -/
def ofMillis (millis : Millis) : Wait :=
  if millis.value = 0 then exit
  else if 0 < millis.value then sleep (Span.ofMillis millis.value.toNat)
  else forever

theorem ofMillis_negative {millis : Millis} (negative : millis.value < 0) :
    ofMillis millis = forever := by
  rw [ofMillis, if_neg (by omega), if_neg (by omega)]

def text : Wait → String
  | exit => "Exit"
  | sleep span => "Sleep(" ++ span.text ++ ")"
  | forever => "Forever"

end Wait

end LingerChain
