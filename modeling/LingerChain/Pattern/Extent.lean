/-
This file says where something stands in the text of a pattern.
-/

namespace LingerChain.Pattern

/-- Lines and columns are counted from one, and columns in characters. -/
structure Location where
  line : Nat
  column : Nat
  deriving DecidableEq, Repr

namespace Location

def first : Location := ⟨1, 1⟩

def after (location : Location) (character : Char) : Location :=
  if character = '\n' then ⟨location.line + 1, 1⟩ else ⟨location.line, location.column + 1⟩

/-- Locations are in the order in which they are read. -/
def precedes (location other : Location) : Bool :=
  location.line < other.line || (location.line = other.line && location.column ≤ other.column)

end Location

/-- An extent goes up to its stop, which is no longer part of it. -/
structure Extent where
  start : Location
  stop : Location
  deriving DecidableEq, Repr

namespace Extent

def point (location : Location) : Extent := ⟨location, location⟩

def ofChar (location : Location) (character : Char) : Extent :=
  ⟨location, location.after character⟩

def through (extent other : Extent) : Extent := ⟨extent.start, other.stop⟩

def onOneLine (extent : Extent) : Bool := extent.start.line = extent.stop.line

/-- An extent without characters still has a width of one mark. -/
def width (extent : Extent) : Nat := max 1 (extent.stop.column - extent.start.column)

def precedes (extent other : Extent) : Bool :=
  if extent.start = other.start then extent.stop.precedes other.stop
  else extent.start.precedes other.start

end Extent

end LingerChain.Pattern
