/-
This file reads what stands behind a backslash, and the single characters that need none.
-/

import LingerChain.Pattern.Cursor
import LingerChain.Pattern.Tree

namespace LingerChain.Pattern

/-- These characters may mean something else when they are not escaped. -/
def special : List Char := "\\.+*?()|[]\x7b\x7d^$#&-~".toList

/-- An escape takes the meaning from these characters, or they never have one. -/
def isPlainWhenEscaped (character : Char) : Bool :=
  character ∈ special ||
    (character.toNat < 0x80 && !character.isAlphanum && character ≠ '<' && character ≠ '>')

/-- Some control characters have a letter. -/
def controlLetter? : Char → Option Char
  | 'a' => some '\x07'
  | 'f' => some '\x0c'
  | 't' => some '\t'
  | 'n' => some '\n'
  | 'r' => some '\r'
  | 'v' => some '\x0b'
  | _ => none

def anchorLetter? : Char → Option Anchor
  | 'A' => some .textStart
  | 'z' => some .textEnd
  | 'b' => some (.word .boundary)
  | 'B' => some (.word .inside)
  | '<' => some (.word .start)
  | '>' => some (.word .stop)
  | _ => none

/-- A capital letter negates a shorthand. -/
def shorthandLetter? : Char → Option (Shorthand × Bool)
  | 'd' => some (.digit, false)
  | 'D' => some (.digit, true)
  | 's' => some (.blank, false)
  | 'S' => some (.blank, true)
  | 'w' => some (.word, false)
  | 'W' => some (.word, true)
  | _ => none

/-- A literal by number has this many digits, unless they stand in braces. -/
def digitCount? : Char → Option Nat
  | 'x' => some 2
  | 'u' => some 4
  | 'U' => some 8
  | _ => none

def hexValue? (character : Char) : Option Nat :=
  if character.isDigit then some (character.toNat - '0'.toNat)
  else if 'a' ≤ character ∧ character ≤ 'f' then some (character.toNat - 'a'.toNat + 10)
  else if 'A' ≤ character ∧ character ≤ 'F' then some (character.toNat - 'A'.toNat + 10)
  else none

/-- Surrogates and numbers above `0x10FFFF` belong to no character. -/
def charOfNat? (code : Nat) : Option Char :=
  if code.isValidChar then some (Char.ofNat code) else none

def charOfHex? (digits : List Nat) : Option Char :=
  charOfNat? (digits.foldl (fun value digit => value * 16 + digit) 0)

/-- A colon or an equals sign stands between a property and its value. -/
def propertyOfText (text : List Char) : Property :=
  if text.contains ':' || text.contains '=' then .valued else .alone text

namespace Reader

/-- Anything but a hexadecimal digit ahead is a mistake. -/
def hexDigit : Reader Nat := do
  match (← head?).bind hexValue? with
  | some value => return value
  | none => fail .noHexDigit (← headExtent)

/-- Blanks may stand between the digits, but the text does not end between them. -/
def hexDigits : Nat → Reader (List Nat)
  | 0 => return []
  | count + 1 => do
      if ← atEnd then fail .unfinishedEscape (.point (← here))
      else
        let value ← hexDigit
        next
        return value :: (← hexDigits count)

/-- The digits in braces, of which there may be any number. -/
def hexDigitsInBraces : Nat → Reader (List Nat)
  | 0 => return []
  | count + 1 => do
      next
      match ← head? with
      | none => return []
      | some '\x7d' => return []
      | some _ =>
          let value ← hexDigit
          return value :: (← hexDigitsInBraces count)

/-- The brace ahead opens the number. -/
def hexInBraces : Reader Char := do
  let brace ← here
  let start := (← headExtent).stop
  let digits ← hexDigitsInBraces (← get).ahead.length
  if ← atEnd then fail .unfinishedEscape (← since brace)
  else
    let extent ← since start
    next
    if digits = [] then fail .noHexDigits (← since brace)
    else
      match charOfHex? digits with
      | some character => return character
      | none => fail .noScalar extent

/-- The letter ahead says how many digits a number without braces has. -/
def hex (start : Location) (count : Nat) : Reader Literal := do
  next
  match ← head? with
  | none => fail .unfinishedEscape (.point (← here))
  | some '\x7b' =>
      let character ← hexInBraces
      return ⟨character, false, ← since start⟩
  | some _ =>
      let first ← here
      let digits ← hexDigits count
      match charOfHex? digits with
      | some character => return ⟨character, count = 2, ← since start⟩
      | none => fail .noScalar (← since first)

/-- The name of a property is a single letter unless it stands in braces. -/
def property (start : Location) : Reader (Atom × Extent) := do
  next
  match ← head? with
  | none => fail .unfinishedEscape (.point (← here))
  | some '\x7b' =>
      next
      let name ← collect (· ≠ '\x7d') next
      if ← atEnd then fail .unfinishedEscape (.point (← here))
      else
        advance
        return (.property (propertyOfText name), ← since start)
  | some letter =>
      if letter = '\\' then fail .noPropertyName (← headExtent)
      else
        next
        return (.property (.alone [letter]), ← since start)

def isSideCharacter (character : Char) : Bool := character.isAlpha || character = '-'

/-- Braces after a boundary hold a side of a word, or else they count a repetition. -/
def wordSide (start : Location) : Reader WordSide := do
  let before ← get
  let brace ← here
  next
  match ← head? with
  | none => fail .unfinishedWordSide (← since start)
  | some character =>
      if isSideCharacter character then
        let nameStart ← here
        let name ← collect isSideCharacter next
        if (← head?) = some '\x7d' then
          let extent ← since nameStart
          advance
          match WordSide.ofText? name with
          | some side => return side
          | none => fail .unknownWordSide extent
        else fail .unclosedWordSide (← since brace)
      else
        set before
        return .boundary

/-- The escapes that are over after one letter, and the boundary of a word. -/
def letterEscape (start : Location) (letter : Char) : Reader (Atom × Extent) := do
  advance
  let extent ← since start
  if isPlainWhenEscaped letter then return (.literal ⟨letter, false, extent⟩, extent)
  else
    match controlLetter? letter, anchorLetter? letter with
    | some character, _ => return (.literal ⟨character, false, extent⟩, extent)
    | none, some (.word .boundary) =>
        if (← head?) = some '\x7b' then
          let side ← wordSide start
          let extent ← if side = .boundary then pure extent else since start
          return (.anchor (.word side), extent)
        else return (.anchor (.word .boundary), extent)
    | none, some anchor => return (.anchor anchor, extent)
    | none, none => fail .unknownEscape extent

/-- The backslash is ahead. -/
def escape : Reader (Atom × Extent) := do
  let start ← here
  advance
  match ← head? with
  | none => fail .unfinishedEscape (← since start)
  | some letter =>
      if letter.isDigit then fail .backReference ⟨start, (← headExtent).stop⟩
      else
        match digitCount? letter, shorthandLetter? letter with
        | some count, _ =>
            let literal ← hex start count
            return (.literal literal, literal.extent)
        | none, some (shorthand, negated) =>
            advance
            return (.shorthand shorthand negated, ← since start)
        | none, none =>
            if letter = 'p' ∨ letter = 'P' then property start else letterEscape start letter

/-- A character that stands for itself. -/
def verbatim (character : Char) : Reader Literal := do
  let extent ← headExtent
  advance
  return ⟨character, false, extent⟩

def atom (character : Char) : Reader (Atom × Extent) := do
  if character = '\\' then escape
  else
    let literal ← verbatim character
    let atom :=
      if character = '.' then .dot
      else if character = '^' then .anchor .lineStart
      else if character = '$' then .anchor .lineEnd
      else .literal literal
    return (atom, literal.extent)

end Reader

end LingerChain.Pattern
