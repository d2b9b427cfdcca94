/-
This file reads what stands in brackets: characters, ranges, names, and brackets again.
-/

import LingerChain.Pattern.Escape

namespace LingerChain.Pattern

/-- Members that stand side by side, the last one first. -/
structure Row where
  items : List Members
  extent : Extent

namespace Row

def empty (location : Location) : Row := ⟨[], .point location⟩

/-- A row begins where its first member does. -/
def push (row : Row) (item : Members) : Row :=
  if row.items.isEmpty then ⟨[item], item.extent⟩
  else ⟨item :: row.items, row.extent.through item.extent⟩

def members (row : Row) : Members :=
  match row.items with
  | [] => .none row.extent
  | [item] => item
  | items => .union items.reverse row.extent

end Row

/-- A bracket that is not closed yet, with the operation that waits for its second operand. -/
structure OpenBracket where
  negated : Bool
  extent : Extent
  pending : Option (Operator × Members)
  row : Row

namespace OpenBracket

/-- Operators have one rank and are read from the left. -/
def members (bracket : OpenBracket) : Members :=
  match bracket.pending with
  | none => bracket.row.members
  | some (operator, first) => .combined operator first bracket.row.members

def push (bracket : OpenBracket) (item : Members) : OpenBracket :=
  ⟨bracket.negated, bracket.extent, bracket.pending, bracket.row.push item⟩

def operate (bracket : OpenBracket) (operator : Operator) (location : Location) : OpenBracket :=
  ⟨bracket.negated, bracket.extent, some (operator, bracket.members), .empty location⟩

end OpenBracket

/-- A doubled character is an operator. -/
def operator? : List Char → Option Operator
  | '&' :: '&' :: _ => some .intersection
  | '-' :: '-' :: _ => some .difference
  | '~' :: '~' :: _ => some .symmetricDifference
  | _ => none

namespace Reader

/-- Hyphens at the start of a bracket stand for themselves. -/
def leadingHyphens (start : Location) : Nat → Row → Reader Row
  | 0, row => return row
  | count + 1, row => do
      if (← head?) = some '-' then
        let extent ← headExtent
        next
        if ← atEnd then fail .unclosedBracket (.point start)
        else leadingHyphens start count (row.push (.literal ⟨'-', false, extent⟩))
      else return row

/-- A closing bracket that comes first stands for itself, so no bracket is empty. -/
def leadingBracket (start : Location) (row : Row) : Reader Row := do
  if row.items.isEmpty && (← head?) = some ']' then
    let extent ← headExtent
    next
    if ← atEnd then fail .unclosedBracket (← since start)
    else return row.push (.literal ⟨']', false, extent⟩)
  else return row

def openBracket : Reader OpenBracket := do
  let start ← here
  next
  if ← atEnd then fail .unclosedBracket (← since start)
  else
    let negated := (← head?) = some '^'
    if negated then next
    if ← atEnd then fail .unclosedBracket (← since start)
    else
      let row ← leadingHyphens start (← get).ahead.length (.empty (← here))
      let row ← leadingBracket start row
      return ⟨negated, ← since start, none, row⟩

/-- A name between colons and brackets, or nothing is read at all. -/
def asciiName? : Reader (Option Members) := do
  let before ← get
  let start ← here
  let found ← do
    if ← pass ['[', ':'] then
      let negated ← pass ['^']
      let name ← collect (· ≠ ':') advance
      if ← pass [':', ']'] then
        let extent ← since start
        pure ((AsciiName.ofText? name).map fun name => Members.ascii name negated extent)
      else pure none
    else pure none
  if found.isNone then set before
  return found

def bracketItem (character : Char) : Reader (Atom × Extent) := do
  if character = '\\' then escape
  else
    let literal ← verbatim character
    return (.literal literal, literal.extent)

/-- Anchors are no members of a bracket. -/
def memberOf : Atom × Extent → Reader Members
  | (.literal literal, _) => return .literal literal
  | (.shorthand shorthand negated, extent) => return .shorthand shorthand negated extent
  | (.property property, extent) => return .property property extent
  | (.dot, extent) | (.anchor _, extent) => fail .noMember extent

def rangeEnd : Atom × Extent → Reader Literal
  | (.literal literal, _) => return literal
  | (_, extent) => fail .noRangeEnd extent

/-- A hyphen makes a range unless it comes last or begins an operator. -/
def makesRange : Reader Bool := do
  let cursor ← get
  return cursor.ahead.head? = some '-' && cursor.peek ≠ some ']' && cursor.peek ≠ some '-'

def rangeOrItem (bracket : OpenBracket) (character : Char) : Reader Members := do
  let item ← bracketItem character
  skip
  if ← atEnd then fail .unclosedBracket bracket.extent
  else if ← makesRange then
    next
    match ← head? with
    | none => fail .unclosedBracket bracket.extent
    | some character =>
        let other ← bracketItem character
        let first ← rangeEnd item
        let last ← rangeEnd other
        if first.character ≤ last.character then return .range first last
        else fail .reversedRange (first.extent.through last.extent)
  else memberOf item

/-- The innermost bracket is apart from those around it. -/
def insideBracket : Nat → OpenBracket → List OpenBracket → Reader Tree
  | 0, bracket, _ => fail .unclosedBracket bracket.extent
  | count + 1, bracket, around => do
      skip
      match operator? (← get).ahead, ← head? with
      | some operator, _ =>
          advance
          advance
          insideBracket count (bracket.operate operator (← here)) around
      | none, none => fail .unclosedBracket bracket.extent
      | none, some '[' =>
          match ← asciiName? with
          | some named => insideBracket count (bracket.push named) around
          | none => insideBracket count (← openBracket) (bracket :: around)
      | none, some ']' =>
          advance
          let extent ← since bracket.extent.start
          match around with
          | [] => return .bracket bracket.negated bracket.members extent
          | outer :: around =>
              insideBracket count
                (outer.push (.bracket bracket.negated bracket.members extent)) around
      | none, some character =>
          insideBracket count (bracket.push (← rangeOrItem bracket character)) around

def bracket : Reader Tree := do
  insideBracket (← get).ahead.length (← openBracket) []

end Reader

end LingerChain.Pattern
