/-
This file estimates the size of the automaton for an expression, in bytes.
-/

import LingerChain.Pattern.Expression

namespace LingerChain.Pattern

/-- An expression with a larger automaton is refused. -/
def sizeLimit : Nat := 10485760

def stateSize : Nat := 32

/-- An edge of a state that has several takes this much besides, and a range more than that. -/
def edgeSize : Nat := 4

def rangeSize : Nat := 8

/-- The ranks from the first to the last with one length of their encoding. -/
def encodingLengths : List (Nat × Range) := [
  (1, ⟨0, 0x7F⟩), (2, ⟨0x80, 0x7FF⟩), (3, ⟨0x800, 0xF7FF⟩), (4, ⟨0xF800, rankLimit - 1⟩)]

namespace Range

def touches (range other : Range) : Bool :=
  range.first ≤ other.last && other.first ≤ range.last

/-- The bytes in an encoding, for each length that the encodings of the range have. -/
def byteCount (range : Range) : Nat :=
  encodingLengths.foldl
    (fun count length => if range.touches length.2 then count + length.1 else count) 0

end Range

namespace CharSet

/-- ASCII ranges share a state, and others branch. -/
def branchSize (set : CharSet) : Nat :=
  if set.isAscii then stateSize + rangeSize * set.ranges.length
  else
    set.ranges.foldl (fun count range => count + range.byteCount) 0 * (stateSize + edgeSize)

/-- A single character has a state for each byte. -/
def size (set : CharSet) : Nat :=
  match set.ranges with
  | [] => stateSize
  | [⟨first, last⟩] =>
      if first = last then Range.byteCount ⟨first, last⟩ * stateSize
      else stateSize + set.branchSize
  | _ => stateSize + set.branchSize

end CharSet

namespace Expression

def isEither : Expression → Bool
  | either .. => true
  | _ => false

/-- Every needed round is written out, and so is every possible one if there is a bound. -/
def size : Expression → Nat
  | empty | look _ => stateSize
  | one set => set.size
  | both first second => first.size + second.size
  | either first second =>
      first.size + second.size + edgeSize +
        if second.isEither then 0 else 2 * stateSize + edgeSize
  | group inside => inside.size + 2 * stateSize
  | times inside least none => inside.size * max least 1 + stateSize + 2 * edgeSize
  | times inside least (some most) =>
      if most ≤ least then inside.size * least
      else
        inside.size * most + (most - least) * (stateSize + 2 * edgeSize) + stateSize

end Expression

end LingerChain.Pattern
