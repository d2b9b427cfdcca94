/-
This file holds sets of characters as ranges, with union, complement and what follows from them.
-/

namespace LingerChain.Pattern

/-- Characters are ranked without a gap: no character lies between `\uD7FF` and `\uE000`. -/
def rank (character : Char) : Nat :=
  if character.toNat < 0xD800 then character.toNat else character.toNat - 0x800

/-- All ranks are below this one. -/
def rankLimit : Nat := 0x110000 - 0x800

structure Range where
  first : Nat
  last : Nat
  deriving DecidableEq, Repr

namespace Range

def has (range : Range) (rank : Nat) : Bool := range.first ≤ rank && rank ≤ range.last

end Range

/-- The ranges of a set are in order and do not touch. -/
structure CharSet where
  ranges : List Range
  deriving DecidableEq, Repr

namespace CharSet

def has (set : CharSet) (character : Char) : Bool :=
  set.ranges.any fun range => range.has (rank character)

def empty : CharSet := ⟨[]⟩

def isEmpty (set : CharSet) : Bool := set.ranges.isEmpty

/-- A new range takes in all the ranges that it touches. -/
def insertRange (new : Range) : List Range → List Range
  | [] => [new]
  | range :: rest =>
      if new.last + 1 < range.first then new :: range :: rest
      else if range.last + 1 < new.first then range :: insertRange new rest
      else insertRange ⟨min new.first range.first, max new.last range.last⟩ rest

/-- A range from a later to an earlier character would be empty, and it is never asked for. -/
def between (first last : Char) : CharSet := ⟨[⟨rank first, rank last⟩]⟩

def single (character : Char) : CharSet := between character character

def union (set other : CharSet) : CharSet :=
  ⟨other.ranges.foldl (fun ranges range => insertRange range ranges) set.ranges⟩

def ofPairs (pairs : List (Char × Char)) : CharSet :=
  pairs.foldl (fun set pair => set.union (between pair.1 pair.2)) empty

/-- The ranges between those of a set, from some rank on. -/
def gaps : Nat → List Range → List Range
  | start, [] => if start < rankLimit then [⟨start, rankLimit - 1⟩] else []
  | start, range :: rest =>
      let after := gaps (range.last + 1) rest
      if start < range.first then ⟨start, range.first - 1⟩ :: after else after

def complement (set : CharSet) : CharSet := ⟨gaps 0 set.ranges⟩

def intersection (set other : CharSet) : CharSet :=
  (set.complement.union other.complement).complement

def difference (set other : CharSet) : CharSet := set.intersection other.complement

def symmetricDifference (set other : CharSet) : CharSet :=
  (set.union other).difference (set.intersection other)

/-- The letters `A` to `Z` stand for `a` to `z` and the other way round. -/
def foldCases (set : CharSet) : CharSet :=
  let moved (low high target : Char) : List Range :=
    (set.intersection (between low high)).ranges.map fun range =>
      ⟨range.first + rank target - rank low, range.last + rank target - rank low⟩
  set.union ⟨moved 'a' 'z' 'A' ++ moved 'A' 'Z' 'a'⟩

/-- Every character of the set is below 128. -/
def isAscii (set : CharSet) : Bool := set.ranges.all fun range => range.last < 0x80

end CharSet

end LingerChain.Pattern
