/-
This file says which texts hold a match of an expression.
-/

import LingerChain.Pattern.CharSet
import LingerChain.Pattern.Tree

namespace LingerChain.Pattern

/-- A look asks about the characters on both sides of a place, and takes none of them. -/
inductive Look where
  | textStart
  | textEnd
  | lineStart (returns : Bool)
  | lineEnd (returns : Bool)
  /-- Words are of ASCII characters, or else of all that belong to a word anywhere. -/
  | word (side : WordSide) (ascii : Bool)
  deriving DecidableEq, Repr

inductive Expression where
  | empty
  | one (set : CharSet)
  | look (look : Look)
  | both (first second : Expression)
  | either (first second : Expression)
  | group (inside : Expression)
  | times (inside : Expression) (least : Nat) (most : Option Nat)
  deriving DecidableEq, Repr

def isWord (character : Option Char) : Bool :=
  character.any fun character => character.isAlphanum || character = '_'

namespace WordSide

def holds (before after : Option Char) : WordSide → Bool
  | boundary => isWord before != isWord after
  | inside => isWord before == isWord after
  | start => !isWord before && isWord after
  | stop => isWord before && !isWord after
  | startHalf => !isWord before
  | stopHalf => !isWord after

end WordSide

namespace Look

/-- A carriage return and a line feed after it end one line, if returns count at all. -/
def holds (before after : Option Char) : Look → Bool
  | textStart => before.isNone
  | textEnd => after.isNone
  | lineStart returns =>
      before.isNone || before = some '\n' ||
        (returns && before = some '\r' && after ≠ some '\n')
  | lineEnd returns =>
      after.isNone || (returns && after = some '\r') ||
        (after = some '\n' && !(returns && before = some '\r'))
  | word side _ => side.holds before after

end Look

/-- Marks say of every place in a text, before each character and at the end, if it is reached. -/
abbrev Marks := List Bool

namespace Marks

def merge (marks other : Marks) : Marks :=
  List.zipWith (fun mark other => mark || other) marks other

/-- The characters on both sides of every place. -/
def sides (before : Option Char) : List Char → List (Option Char × Option Char)
  | [] => [(before, none)]
  | character :: rest => (before, some character) :: sides (some character) rest

def stay (look : Look) (text : List Char) (marks : Marks) : Marks :=
  List.zipWith (fun mark side => mark && look.holds side.1 side.2) marks (sides none text)

/-- A mark goes over one character of the set to the next place. -/
def step (set : CharSet) (text : List Char) (marks : Marks) : Marks :=
  false :: List.zipWith (fun mark character => mark && set.has character) marks text

/-- A round that changes nothing would never change anything. -/
def rounds (walk : Marks → Marks) : Nat → Marks → Marks
  | 0, marks => marks
  | count + 1, marks =>
      let moved := walk marks
      if moved = marks then marks else rounds walk count moved

/-- Any number of rounds up to `most` may follow. Each new one reaches a new place, so there is a
bound even without `most`. -/
def grow (walk : Marks → Marks) (most : Option Nat) (marks : Marks) : Marks :=
  rounds (fun marks => merge marks (walk marks)) (most.getD marks.length) marks

end Marks

namespace Expression

/-- The places that are reached from the marked ones. -/
def walk (text : List Char) : Expression → Marks → Marks
  | empty, marks => marks
  | one set, marks => marks.step set text
  | look asked, marks => marks.stay asked text
  | both first second, marks => second.walk text (first.walk text marks)
  | either first second, marks => Marks.merge (first.walk text marks) (second.walk text marks)
  | group inside, marks => inside.walk text marks
  | times inside least most, marks =>
      Marks.grow (inside.walk text) (most.map (· - least))
        (Marks.rounds (inside.walk text) least marks)

/-- A match may begin and end anywhere in the text. -/
def occursIn (expression : Expression) (text : List Char) : Bool :=
  (expression.walk text (List.replicate (text.length + 1) true)).any id

/-- An expression is void if it can match nothing but the empty text. -/
def isVoid : Expression → Bool
  | empty | look _ => true
  | one _ => false
  | both first second | either first second => first.isVoid && second.isVoid
  | group inside => inside.isVoid
  | times inside _ most => inside.isVoid || most = some 0

/-- What is empty leaves no trace beside another expression. -/
def beside : Expression → Expression → Expression
  | empty, second => second
  | first, empty => first
  | first, second => both first second

/-- Two sets make one. -/
def or : Expression → Expression → Expression
  | one set, one other => one (set.union other)
  | first, second => either first second

/-- One round is the expression itself, none is empty, and a void expression needs one at most. -/
def repeated (inside : Expression) (least : Nat) (most : Option Nat) : Expression :=
  let (least, most) :=
    if inside.isVoid then (min least 1, some (min (most.getD 1) 1)) else (least, most)
  if least = 0 ∧ most = some 0 then empty
  else if least = 1 ∧ most = some 1 then inside
  else times inside least most

/-- Words of all scripts are not known here. -/
def asksForWords : Expression → Bool
  | look (.word _ ascii) => !ascii
  | empty | one _ | look _ => false
  | both first second | either first second => first.asksForWords || second.asksForWords
  | group inside | times inside _ _ => inside.asksForWords

end Expression

end LingerChain.Pattern
