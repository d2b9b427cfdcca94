/-
This file writes strings, byte strings and lists of strings between quotation marks.
-/

import LingerChain.Text.Unprintable
import LingerChain.Text.Utf8

namespace LingerChain.Quoted

def mark : Char := '"'

def slash : Char := '\\'

/-- A character without a short form is written by its number in braces. -/
def byNumber (character : Char) : List Char :=
  [slash, 'u', '\x7b'] ++ Nat.toDigits 16 character.toNat ++ ['\x7d']

def escapeChar (character : Char) : List Char :=
  if character = '\x00' then [slash, '0']
  else if character = '\t' then [slash, 't']
  else if character = '\r' then [slash, 'r']
  else if character = '\n' then [slash, 'n']
  else if character = mark then [slash, mark]
  else if character = slash then [slash, slash]
  else if unprintable character then byNumber character
  else [character]

def hexDigit (value : Nat) : Char :=
  if value < 10 then Char.ofNat ('0'.toNat + value) else Char.ofNat ('A'.toNat + (value - 10))

/-- A byte that is no text is written as two upper-case digits. -/
def escapeByte (byte : UInt8) : List Char :=
  [slash, 'x', hexDigit (byte.toNat / 16), hexDigit (byte.toNat % 16)]

def escapePiece : Piece → List Char
  | .char value => escapeChar value
  | .invalid bytes => bytes.flatMap escapeByte

def word (pieces : Word) : String :=
  String.ofList (mark :: pieces.flatMap escapePiece ++ [mark])

end LingerChain.Quoted

namespace LingerChain

def quote (text : String) : String := Quoted.word (Word.ofString text)

def quoteBytes (bytes : Bytes) : String := Quoted.word (Bytes.pieces bytes)

def quoteList (texts : List String) : String :=
  "[" ++ ", ".intercalate (texts.map quote) ++ "]"

end LingerChain
