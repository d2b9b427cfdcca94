/-
This file holds the durations that are left for a node and its descendants.
-/

import LingerChain.Millis
import LingerChain.Text.Quoted

namespace LingerChain

/-- Only the head belongs to this node. The tail is the command line of the next one. -/
structure Queue where
  head : Millis
  tail : List String
  deriving DecidableEq

namespace Queue

def depth (queue : Queue) : Nat := 1 + queue.tail.length

def text (queue : Queue) : String :=
  "DurationQueue \x7b head: " ++ queue.head.text ++ ", tail: " ++ quoteList queue.tail ++ " \x7d"

end Queue

end LingerChain
