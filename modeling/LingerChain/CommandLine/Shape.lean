/-
This file tells the shapes of the words on a command line apart.
-/

import LingerChain.Text.Utf8

namespace LingerChain

/-- The shape of a word is what it looks like, before any flag or number is known. -/
inductive Shape where
  /-- Two dashes alone make everything after them a value. -/
  | escape
  | long (name : Word) (attached : Option Word)
  /-- One dash stands before at least one letter. -/
  | short (first : Piece) (others : Word)
  | value
  deriving DecidableEq, Repr

namespace Shape

/-- A long name ends at the first equals sign. -/
def ofLong (body : Word) : Shape :=
  let (name, rest) := body.span (· ≠ .char '=')
  long name (rest.tail?)

def ofWord : Word → Shape
  | .char '-' :: .char '-' :: [] => escape
  | .char '-' :: .char '-' :: body => ofLong body
  | .char '-' :: first :: others => short first others
  | _ => value

end Shape

def Piece.isDigit : Piece → Bool
  | .char value => value.isDigit
  | .invalid _ => false

def Piece.isExponent (piece : Piece) : Bool := piece = .char 'e' || piece = .char 'E'

/-- One point may stand before the exponent, and the exponent is not the last character. -/
def Word.numberRest (point exponent : Bool) : Word → Bool
  | [] => true
  | piece :: rest =>
      if piece.isDigit then Word.numberRest point exponent rest
      else if piece = .char '.' then
        !point && !exponent && Word.numberRest true exponent rest
      else if piece.isExponent then
        !exponent && !rest.isEmpty && Word.numberRest point true rest
      else false

/-- Only a word that begins with a digit looks like a number. -/
def Word.looksNumeric : Word → Bool
  | [] => false
  | first :: rest => first.isDigit && Word.numberRest false false rest

end LingerChain
