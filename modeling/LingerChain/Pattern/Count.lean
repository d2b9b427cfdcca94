/-
This file reads how often a part of a pattern is repeated.
-/

import LingerChain.Pattern.Cursor

namespace LingerChain.Pattern

/-- A count without an upper bound has no `most`. -/
structure Count where
  least : Nat
  most : Option Nat
  deriving DecidableEq, Repr

/-- Numbers fit in 32 bits. -/
def numberLimit : Nat := 4294967296

def numberOfDigits (digits : List Char) : Nat :=
  digits.foldl (fun value digit => value * 10 + (digit.toNat - '0'.toNat)) 0

namespace Count

def isReversed (count : Count) : Bool := count.most.any fun most => most < count.least

def ofSign? : Char → Option Count
  | '?' => some ⟨0, some 1⟩
  | '*' => some ⟨0, none⟩
  | '+' => some ⟨1, none⟩
  | _ => none

end Count

namespace Reader

/-- What is wrong with a number counts only where the number is needed. -/
def number : Reader (Except Fault Nat) := do
  let _ ← collect isBlank advance
  let start ← here
  let digits ← collect Char.isDigit next
  let extent ← since start
  let _ ← collect isBlank next
  if digits = [] then return .error ⟨.noNumber, extent, none⟩
  else if numberLimit ≤ numberOfDigits digits then
    return .error ⟨.numberTooLarge, extent, none⟩
  else return .ok (numberOfDigits digits)

def need {A : Type} : Except Fault A → Reader A
  | .ok value => return value
  | .error fault => throw fault

/-- A question mark after a repetition asks for few rounds, which does not change what matches. -/
def passQuestion : Reader Unit := do
  if (← head?) = some '?' then advance

/-- A comma stands between the bounds, and the second may be missing. -/
def bounds (brace : Location) : Reader Count := do
  next
  if ← atEnd then fail .unclosedCount (← since brace)
  else
    let first ← number
    match ← head? with
    | none => fail .unclosedCount (← since brace)
    | some ',' =>
        next
        match ← head? with
        | none => fail .unclosedCount (← since brace)
        | some '\x7d' => return ⟨← need first, none⟩
        | some _ =>
            let least ← need first
            let most ← need (← number)
            return ⟨least, some most⟩
    | some _ =>
        let rounds ← need first
        return ⟨rounds, some rounds⟩

/-- The brace ahead opens the bounds. -/
def countInBraces : Reader Count := do
  let brace ← here
  let count ← bounds brace
  if (← head?) = some '\x7d' then
    next
    passQuestion
    if count.isReversed then fail .reversedCount (← since brace) else return count
  else fail .unclosedCount (← since brace)

def count (sign : Char) : Reader Count := do
  match Count.ofSign? sign with
  | some count =>
      advance
      passQuestion
      return count
  | none => countInBraces

end Reader

end LingerChain.Pattern
