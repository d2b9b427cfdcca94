/-
This file reads a duration: a whole number of milliseconds that fits in 64 bits with a sign.
-/

namespace LingerChain

structure Millis where
  value : Int
  lower : -9223372036854775808 ≤ value
  upper : value ≤ 9223372036854775807
  deriving DecidableEq

/-- A text that is no duration is at fault at its leftmost bad place. -/
inductive Millis.Fault where
  | empty
  | notDigit
  | tooLarge
  | tooSmall
  deriving DecidableEq, Repr

namespace Millis

def Fault.message : Fault → String
  | empty => "cannot parse integer from empty string"
  | notDigit => "invalid digit found in string"
  | tooLarge => "number too large to fit in target type"
  | tooSmall => "number too small to fit in target type"

def zero : Millis := ⟨0, by decide, by decide⟩

def ofInt? (value : Int) : Option Millis :=
  if inRange : -9223372036854775808 ≤ value ∧ value ≤ 9223372036854775807 then
    some ⟨value, inRange.1, inRange.2⟩
  else none

def text (millis : Millis) : String := toString millis.value

def digit? (character : Char) : Option Nat :=
  if character.isDigit then some (character.toNat - '0'.toNat) else none

/-- Each digit moves the number away from zero, up or down. -/
def shift (negative : Bool) (value : Int) (digit : Nat) : Int :=
  if negative then value * 10 - digit else value * 10 + digit

def readDigits (negative : Bool) (sofar : Millis) : List Char → Except Fault Millis
  | [] => .ok sofar
  | character :: rest =>
      match digit? character with
      | none => .error .notDigit
      | some digit =>
          match ofInt? (shift negative sofar.value digit) with
          | none => .error (if negative then .tooSmall else .tooLarge)
          | some next => readDigits negative next rest

/-- At least one digit follows the optional sign. -/
def readUnsigned (negative : Bool) : List Char → Except Fault Millis
  | [] => .error .notDigit
  | characters => readDigits negative zero characters

def read : List Char → Except Fault Millis
  | [] => .error .empty
  | '-' :: rest => readUnsigned true rest
  | '+' :: rest => readUnsigned false rest
  | characters => readUnsigned false characters

end Millis

end LingerChain
