/-
This file removes control sequences from text that a terminal would not print as it stands.
-/

namespace LingerChain.Terminal

/-- A reader is in plain text or inside a control sequence. -/
inductive Mode where
  | plain
  | escape
  | escapeMiddle
  | control
  | deviceStart
  | deviceNumbers
  | deviceMiddle
  /-- The body of a device string, or of a string that nobody reads. -/
  | body
  /-- The body of an operating system command. -/
  | command
  deriving DecidableEq, Repr

def between (low high code : Nat) : Bool := low ≤ code && code ≤ high

def blank (code : Nat) : Bool :=
  code = 0x09 || code = 0x0A || code = 0x0C || code = 0x0D

/-- Cancel, substitute and escape act in every mode. -/
def Mode.anywhere? (code : Nat) : Option Mode :=
  if code = 0x18 || code = 0x1A then some .plain
  else if code = 0x1B then some .escape
  else none

/-- One code below 128 moves the reader on. -/
def Mode.next (mode : Mode) (code : Nat) : Mode :=
  (anywhere? code).getD <|
    match mode with
    | .plain => .plain
    | .escape =>
        if between 0x20 0x2F code then .escapeMiddle
        else if code = 0x5B then .control
        else if code = 0x5D then .command
        else if code = 0x50 then .deviceStart
        else if code = 0x58 || code = 0x5E || code = 0x5F then .body
        else if between 0x30 0x7E code then .plain
        else .escape
    | .escapeMiddle => if between 0x30 0x7E code then .plain else .escapeMiddle
    | .control => if between 0x40 0x7E code then .plain else .control
    | .deviceStart =>
        if between 0x20 0x2F code then .deviceMiddle
        else if between 0x30 0x3F code then .deviceNumbers
        else if between 0x40 0x7E code then .body
        else .deviceStart
    | .deviceNumbers =>
        if between 0x20 0x2F code then .deviceMiddle
        else if between 0x3C 0x3F code then .body
        else if between 0x40 0x7E code then .body
        else .deviceNumbers
    | .deviceMiddle =>
        if between 0x30 0x3F code then .body
        else if between 0x40 0x7E code then .body
        else .deviceMiddle
    | .body => .body
    | .command => if code = 0x07 then .plain else .command

/-- Where controls are carried out at once, a blank is kept and ends the sequence around it. -/
def Mode.keepsBlanks : Mode → Bool
  | .plain | .escape | .escapeMiddle | .control => true
  | _ => false

/-- A character beyond ASCII that has the byte `9C` ends the body of a string. -/
def terminates (character : Char) : Bool :=
  (String.utf8EncodeChar character).contains 0x9C

/-- This step says whether the character is kept and in which mode the reader goes on. -/
def Mode.read (mode : Mode) (character : Char) : Bool × Mode :=
  let code := character.toNat
  if code < 0x80 then
    if (mode = .plain && between 0x20 0x7E code) ||
        (mode.keepsBlanks && blank code) then
      (true, .plain)
    else
      (false, mode.next code)
  else if mode = .plain then (true, .plain)
  else if mode = .body && terminates character then (false, .plain)
  else (false, mode)

def printable : Mode → List Char → List Char
  | _, [] => []
  | mode, character :: rest =>
      let (keep, next) := mode.read character
      if keep then character :: printable next rest else printable next rest

/-- The text that remains is what a terminal prints. -/
def strip (text : String) : String := String.ofList (printable .plain text.toList)

end LingerChain.Terminal
