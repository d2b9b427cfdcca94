/-
This file measures how alike two names are, to suggest the flag that was meant.
-/

import LingerChain.CommandLine.Command

namespace LingerChain.Similarity

/-- A character of a name that may have been matched already. -/
structure Letter where
  character : Char
  taken : Bool

/-- The first free equal letter at a place from `low` to `high` is taken. -/
def claim (character : Char) (low high place : Nat) : List Letter → Option (List Letter)
  | [] => none
  | letter :: rest =>
      if low ≤ place ∧ place ≤ high ∧ letter.character = character ∧ !letter.taken then
        some ({ letter with taken := true } :: rest)
      else
        (claim character low high (place + 1) rest).map (letter :: ·)

/-- Letters match when their places differ by at most `reach`. -/
def matchFrom (reach place : Nat) (letters : List Letter) : List Char → List Char × List Letter
  | [] => ([], letters)
  | character :: rest =>
      match claim character (place - reach) (place + reach) 0 letters with
      | some next =>
          let (found, final) := matchFrom reach (place + 1) next rest
          (character :: found, final)
      | none => matchFrom reach (place + 1) letters rest

def reach (first second : List Char) : Nat := max first.length second.length / 2 - 1

/-- The measure is the mean of the shares of matched letters and of the matches in order. -/
def measure (first second : List Char) : Rat :=
  let (found, letters) :=
    matchFrom (reach first second) 0 (second.map fun character => ⟨character, false⟩) first
  let others := (letters.filter Letter.taken).map Letter.character
  let matched := found.length
  let crossed := ((found.zip others).filter fun pair => pair.1 ≠ pair.2).length / 2
  if matched = 0 then 0
  else
    ((matched : Rat) / first.length + (matched : Rat) / second.length +
      ((matched - crossed : Nat) : Rat) / matched) / 3

/-- A flag is suggested from this measure on. -/
def threshold : Rat := 7 / 10

/-- Of several flags the most similar is suggested, and of equals the last. -/
def closest (name : String) : Option Flag :=
  let similar := fun flag : Flag => measure name.toList flag.name.toList
  (Flag.all.filter fun flag => threshold ≤ similar flag).foldl
    (fun best flag =>
      match best with
      | some other => if similar other ≤ similar flag then some flag else some other
      | none => some flag)
    none

end LingerChain.Similarity
