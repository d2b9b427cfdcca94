/-
This file looks a number up in a list of ranges.
-/

namespace LingerChain

/-- The ranges are in order, so the search stops at the first that lies above the number. -/
def inRanges (code : Nat) : List (Nat × Nat) → Bool
  | [] => false
  | (first, last) :: rest =>
      if code < first then false
      else if code ≤ last then true
      else inRanges code rest

end LingerChain
