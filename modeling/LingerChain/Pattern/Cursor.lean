/-
This file moves through the text of a pattern, with or without regard to blanks.
-/

import LingerChain.Pattern.Mistake
import LingerChain.Text.Blank

namespace LingerChain.Pattern

/-- A verbose pattern may hold blanks and comments between its parts. -/
structure Cursor where
  location : Location
  ahead : List Char
  verbose : Bool
  deriving DecidableEq, Repr

namespace Cursor

def atStart (pattern : List Char) : Cursor := ⟨.first, pattern, false⟩

def advance (cursor : Cursor) : Cursor :=
  match cursor.ahead with
  | [] => cursor
  | character :: rest => ⟨cursor.location.after character, rest, cursor.verbose⟩

/-- A comment goes from a number sign to the end of its line. -/
def passBlanks (location : Location) (comment : Bool) : List Char → Location × List Char
  | [] => (location, [])
  | character :: rest =>
      if comment then passBlanks (location.after character) (character ≠ '\n') rest
      else if isBlank character then passBlanks (location.after character) false rest
      else if character = '#' then passBlanks (location.after character) true rest
      else (location, character :: rest)

def skip (cursor : Cursor) : Cursor :=
  if cursor.verbose then
    let (location, ahead) := passBlanks cursor.location false cursor.ahead
    ⟨location, ahead, true⟩
  else cursor

/-- One character is read, and the blanks after it. -/
def next (cursor : Cursor) : Cursor := cursor.advance.skip

/-- A number sign begins a comment, and one more is then seen as it stands. -/
def peekVerbose (comment : Bool) : List Char → Option Char
  | [] => none
  | character :: rest =>
      if isBlank character then peekVerbose comment rest
      else if character = '#' ∧ comment = false then peekVerbose true rest
      else some character

/-- The character after the present one. Where only blanks follow, it is the first of them. -/
def peek (cursor : Cursor) : Option Char :=
  let following := cursor.ahead.tail
  if cursor.verbose then (peekVerbose false following).or following.head? else following.head?

end Cursor

/-- A reader moves a cursor, or finds a fault. -/
abbrev Reader := StateT Cursor (Except Fault)

namespace Reader

def fail {A : Type} (mistake : Mistake) (extent : Extent) : Reader A :=
  throw ⟨mistake, extent, none⟩

/-- What is found here stands in an earlier place already. -/
def failAgain {A : Type} (mistake : Mistake) (extent earlier : Extent) : Reader A :=
  throw ⟨mistake, extent, some earlier⟩

def here : Reader Location := return (← get).location

def head? : Reader (Option Char) := return (← get).ahead.head?

def since (start : Location) : Reader Extent := return ⟨start, ← here⟩

/-- The extent of the character ahead. -/
def headExtent : Reader Extent := do
  match (← get).ahead with
  | [] => return .point (← here)
  | character :: _ => return .ofChar (← here) character

def advance : Reader Unit := modify Cursor.advance

def skip : Reader Unit := modify Cursor.skip

def next : Reader Unit := modify Cursor.next

def atEnd : Reader Bool := return (← get).ahead.isEmpty

def isAhead (text : List Char) : Reader Bool := return text.isPrefixOf (← get).ahead

/-- The text is passed over if it is ahead. -/
def pass (text : List Char) : Reader Bool := do
  if ← isAhead text then
    text.forM fun _ => advance
    return true
  else return false

/-- Characters are read with `step` as long as they are wanted, and at most `count` of them. -/
def collectAtMost (wanted : Char → Bool) (step : Reader Unit) : Nat → Reader (List Char)
  | 0 => return []
  | count + 1 => do
      match ← head? with
      | some character =>
          if wanted character then
            step
            return character :: (← collectAtMost wanted step count)
          else return []
      | none => return []

/-- No more characters can be read than there are ahead. -/
def collect (wanted : Char → Bool) (step : Reader Unit) : Reader (List Char) := do
  collectAtMost wanted step (← get).ahead.length

end Reader

end LingerChain.Pattern
