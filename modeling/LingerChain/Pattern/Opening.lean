/-
This file reads what follows an opening parenthesis: flags, or the name of a group.
-/

import LingerChain.Pattern.Cursor
import LingerChain.Pattern.Tree
import LingerChain.Text.Letter

namespace LingerChain.Pattern

/-- A name of a group, with its place. -/
abbrev GroupName := List Char × Extent

/-- A parenthesis either changes flags from here on or opens a group. -/
inductive Opening where
  | settings (settings : List Setting)
  | group (captures : Bool) (settings : List Setting) (name : Option GroupName)

/-- What is said of one flag, or that the flags that follow are turned off. -/
structure FlagMark where
  flag : Option Flag
  extent : Extent

/-- Flags after the hyphen are turned off. -/
def settingsOf (on : Bool) : List FlagMark → List Setting
  | [] => []
  | mark :: rest =>
      match mark.flag with
      | none => settingsOf false rest
      | some flag => (flag, on) :: settingsOf on rest

def isNameStart (character : Char) : Bool := character = '_' || isLetter character

def isNamePart (character : Char) : Bool :=
  character ∈ ['_', '.', '[', ']'] || isLetterOrNumber character

def lookArounds : List (List Char) :=
  [['?', '='], ['?', '!'], ['?', '<', '='], ['?', '<', '!']]

namespace Reader

/-- One of the texts is passed over if it is ahead. -/
def passAny : List (List Char) → Reader Bool
  | [] => return false
  | text :: rest => do if ← pass text then return true else passAny rest

def flagMark (letter : Char) : Reader FlagMark := do
  let extent ← headExtent
  if letter = '-' then return ⟨none, extent⟩
  else
    match Flag.ofLetter? letter with
    | some flag => return ⟨some flag, extent⟩
    | none => fail .unknownFlag extent

/-- No flag is named twice, and there is one hyphen at most. -/
def checkNew (marks : List FlagMark) (mark : FlagMark) : Reader Unit := do
  match marks.find? fun earlier => earlier.flag = mark.flag with
  | some earlier =>
      failAgain (if mark.flag.isNone then .repeatedNegation else .repeatedFlag) mark.extent
        earlier.extent
  | none => return ()

/-- Flags go up to a colon or a closing parenthesis, and a hyphen is followed by a flag. -/
def flagMarks : Nat → List FlagMark → Reader (List FlagMark)
  | 0, marks => return marks
  | count + 1, marks => do
      match ← head? with
      | none => fail .unfinishedFlags (.point (← here))
      | some letter =>
          if letter = ':' ∨ letter = ')' then
            match marks.getLast? with
            | some ⟨none, extent⟩ => fail .danglingNegation extent
            | _ => return marks
          else
            let mark ← flagMark letter
            checkNew marks mark
            advance
            flagMarks count (marks ++ [mark])

/-- Any number of characters may follow, but only the right ones. -/
def nameCharacters : Nat → Bool → Reader (List Char)
  | 0, _ => return []
  | count + 1, first => do
      match ← head? with
      | none => return []
      | some '>' => return []
      | some character =>
          if if first then isNameStart character else isNamePart character then
            advance
            return character :: (← nameCharacters count false)
          else fail .noNameCharacter (← headExtent)

/-- A name is not empty and not used before. -/
def groupName (names : List GroupName) : Reader GroupName := do
  let start ← here
  let name ← nameCharacters (← get).ahead.length true
  let extent ← since start
  if ← atEnd then fail .unfinishedName (.point (← here))
  else
    advance
    if name = [] then fail .emptyName (.point start)
    else
      match names.find? fun earlier => earlier.1 = name with
      | some earlier => failAgain .repeatedName extent earlier.2
      | none => return (name, extent)

/-- The parenthesis ahead has this extent. -/
def flagOpening (extent : Extent) (start : Location) : Reader Opening := do
  if ← atEnd then fail .unclosedGroup extent
  else
    let marks ← flagMarks ((← get).ahead.length + 1) []
    let closed := (← head?) = some ')'
    advance
    if closed then
      if marks.isEmpty then fail .nothingRepeated (.point start)
      else return .settings (settingsOf true marks)
    else return .group false (settingsOf true marks) none

def opening (names : List GroupName) : Reader Opening := do
  let extent ← headExtent
  next
  if ← passAny lookArounds then fail .lookAround (← since extent.start)
  else
    let start ← here
    if ← passAny [['?', 'P', '<'], ['?', '<']] then
      return .group true [] (some (← groupName names))
    else if ← pass ['?'] then flagOpening extent start
    else return .group true [] none

end Reader

end LingerChain.Pattern
