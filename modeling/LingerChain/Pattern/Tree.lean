/-
This file holds what the text of a pattern says, with the places where it says it.
-/

import LingerChain.Pattern.Mistake

namespace LingerChain.Pattern

/-- A literal by two hexadecimal digits may stand for a byte. -/
structure Literal where
  character : Char
  mayBeByte : Bool
  extent : Extent
  deriving DecidableEq, Repr

inductive WordSide where
  | boundary
  | inside
  | start
  | stop
  | startHalf
  | stopHalf
  deriving DecidableEq, Repr

inductive Anchor where
  | lineStart
  | lineEnd
  | textStart
  | textEnd
  | word (side : WordSide)
  deriving DecidableEq, Repr

inductive Shorthand where
  | digit
  | blank
  | word
  deriving DecidableEq, Repr

/-- A property is asked for alone or with a value. -/
inductive Property where
  | alone (name : List Char)
  | valued
  deriving DecidableEq, Repr

/-- What an escape stands for, or a single character outside brackets. -/
inductive Atom where
  | literal (literal : Literal)
  | dot
  | anchor (anchor : Anchor)
  | shorthand (shorthand : Shorthand) (negated : Bool)
  | property (property : Property)
  deriving DecidableEq, Repr

inductive Operator where
  | intersection
  | difference
  | symmetricDifference
  deriving DecidableEq, Repr

/-- The names that may stand between colons in brackets. -/
inductive AsciiName where
  | alnum
  | alpha
  | ascii
  | blank
  | cntrl
  | digit
  | graph
  | lower
  | print
  | punct
  | space
  | upper
  | word
  | xdigit
  deriving DecidableEq, Repr

/-- Members are what stands in brackets. -/
inductive Members where
  | none (extent : Extent)
  | literal (literal : Literal)
  | range (first last : Literal)
  | ascii (name : AsciiName) (negated : Bool) (extent : Extent)
  | shorthand (shorthand : Shorthand) (negated : Bool) (extent : Extent)
  | property (property : Property) (extent : Extent)
  | bracket (negated : Bool) (inside : Members) (extent : Extent)
  | union (items : List Members) (extent : Extent)
  | combined (operator : Operator) (first second : Members)

inductive Flag where
  | foldCases
  | multiLine
  | dotAll
  | swapGreed
  | allCharacters
  | returns
  | verbose
  deriving DecidableEq, Repr

/-- A setting turns a flag on or off. -/
abbrev Setting := Flag × Bool

inductive Tree where
  | empty
  | settings (settings : List Setting)
  | atom (atom : Atom) (extent : Extent)
  | bracket (negated : Bool) (inside : Members) (extent : Extent)
  | times (inside : Tree) (least : Nat) (most : Option Nat) (extent : Extent)
  | group (captures : Bool) (settings : List Setting) (inside : Tree) (extent : Extent)
  | sequence (items : List Tree) (extent : Extent)
  | choice (branches : List Tree) (extent : Extent)

namespace AsciiName

def all : List AsciiName := [
  alnum, alpha, ascii, blank, cntrl, digit, graph, lower, print, punct, space, upper, word, xdigit]

def text : AsciiName → String
  | alnum => "alnum"
  | alpha => "alpha"
  | ascii => "ascii"
  | blank => "blank"
  | cntrl => "cntrl"
  | digit => "digit"
  | graph => "graph"
  | lower => "lower"
  | print => "print"
  | punct => "punct"
  | space => "space"
  | upper => "upper"
  | word => "word"
  | xdigit => "xdigit"

def ofText? (text : List Char) : Option AsciiName := all.find? fun name => name.text.toList = text

end AsciiName

namespace WordSide

/-- The sides that have a name in braces. -/
def named : List WordSide := [start, stop, startHalf, stopHalf]

def text : WordSide → String
  | boundary => "boundary"
  | inside => "inside"
  | start => "start"
  | stop => "end"
  | startHalf => "start-half"
  | stopHalf => "end-half"

def ofText? (text : List Char) : Option WordSide := named.find? fun side => side.text.toList = text

end WordSide

namespace Flag

def ofLetter? : Char → Option Flag
  | 'i' => some foldCases
  | 'm' => some multiLine
  | 's' => some dotAll
  | 'U' => some swapGreed
  | 'u' => some allCharacters
  | 'R' => some returns
  | 'x' => some verbose
  | _ => none

def settled (flag : Flag) (settings : List Setting) (otherwise : Bool) : Bool :=
  (settings.lookup flag).getD otherwise

end Flag

namespace Members

def extent : Members → Extent
  | none extent | ascii _ _ extent | shorthand _ _ extent | property _ extent
  | bracket _ _ extent | union _ extent => extent
  | literal value => value.extent
  | range first last => first.extent.through last.extent
  | combined _ first second => first.extent.through second.extent

mutual

/-- The first members, from outside and from the left, for which no depth is left. -/
def tooDeep? (depth : Nat) : Members → Option Extent
  | bracket _ inside extent =>
      if depth = 0 then some extent else inside.tooDeep? (depth - 1)
  | union items extent => if depth = 0 then some extent else tooDeepAmong? (depth - 1) items
  | combined _ first second =>
      if depth = 0 then some (first.extent.through second.extent)
      else (first.tooDeep? (depth - 1)).or (second.tooDeep? (depth - 1))
  | none _ | literal _ | range .. | ascii .. | shorthand .. | property .. => Option.none

def tooDeepAmong? (depth : Nat) : List Members → Option Extent
  | [] => Option.none
  | item :: rest => (item.tooDeep? depth).or (tooDeepAmong? depth rest)

end

end Members

namespace Tree

def extent? : Tree → Option Extent
  | empty | settings _ => none
  | atom _ extent | bracket _ _ extent | times _ _ _ extent | group _ _ _ extent
  | sequence _ extent | choice _ extent => some extent

mutual

/-- The first part, from outside and from the left, for which no depth is left. -/
def tooDeep? (depth : Nat) : Tree → Option Extent
  | empty | settings _ | atom .. => none
  | bracket _ inside extent => if depth = 0 then some extent else inside.tooDeep? (depth - 1)
  | times inside _ _ extent | group _ _ inside extent =>
      if depth = 0 then some extent else inside.tooDeep? (depth - 1)
  | sequence items extent | choice items extent =>
      if depth = 0 then some extent else tooDeepAmong? (depth - 1) items

def tooDeepAmong? (depth : Nat) : List Tree → Option Extent
  | [] => none
  | item :: rest => (item.tooDeep? depth).or (tooDeepAmong? depth rest)

end

end Tree

end LingerChain.Pattern
