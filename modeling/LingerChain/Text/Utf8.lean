/-
This file reads byte strings as UTF-8 text and marks the runs that are no text.
-/

namespace LingerChain

abbrev Bytes := List UInt8

/-- A piece is one character, or one maximal run of bytes that begins a character and breaks off. -/
inductive Piece where
  | char (value : Char)
  | invalid (bytes : Bytes)
  deriving DecidableEq, Repr

def encodeChars (characters : List Char) : Bytes :=
  characters.flatMap String.utf8EncodeChar

def encode (text : String) : Bytes := encodeChars text.toList

namespace Piece

def bytes : Piece → Bytes
  | char value => String.utf8EncodeChar value
  | invalid bytes => bytes

def char? : Piece → Option Char
  | char value => some value
  | invalid _ => none

/-- A reader shows an invalid run as one replacement character. -/
def shown : Piece → Char
  | char value => value
  | invalid _ => '\ufffd'

end Piece

namespace Utf8

/-- The next byte of a character lies from `low` to `high`, and `later` more bytes follow it. -/
structure Pending where
  taken : Bytes
  value : Nat
  later : Nat
  low : UInt8
  high : UInt8

/-- The first byte of a character fixes its length and bounds its second byte. -/
def enter (byte : UInt8) : List Piece × Option Pending :=
  if byte < 0x80 then
    ([.char (Char.ofNat byte.toNat)], none)
  else if byte < 0xC2 then
    ([.invalid [byte]], none)
  else if byte < 0xE0 then
    ([], some ⟨[byte], byte.toNat - 0xC0, 0, 0x80, 0xBF⟩)
  else if byte < 0xF0 then
    ([], some ⟨[byte], byte.toNat - 0xE0, 1,
      if byte = 0xE0 then 0xA0 else 0x80, if byte = 0xED then 0x9F else 0xBF⟩)
  else if byte < 0xF5 then
    ([], some ⟨[byte], byte.toNat - 0xF0, 2,
      if byte = 0xF0 then 0x90 else 0x80, if byte = 0xF4 then 0x8F else 0xBF⟩)
  else
    ([.invalid [byte]], none)

/-- A later byte carries six bits of the character. -/
def Pending.take (pending : Pending) (byte : UInt8) : List Piece × Option Pending :=
  let value := pending.value * 64 + (byte.toNat - 0x80)
  match pending.later with
  | 0 => ([.char (Char.ofNat value)], none)
  | later + 1 => ([], some ⟨pending.taken ++ [byte], value, later, 0x80, 0xBF⟩)

/-- A byte that cannot continue the character ends an invalid run and is read afresh. -/
def step : Option Pending → UInt8 → List Piece × Option Pending
  | none, byte => enter byte
  | some pending, byte =>
      if pending.low ≤ byte ∧ byte ≤ pending.high then pending.take byte
      else (.invalid pending.taken :: (enter byte).1, (enter byte).2)

def scan : Option Pending → Bytes → List Piece
  | none, [] => []
  | some pending, [] => [.invalid pending.taken]
  | state, byte :: rest => (step state byte).1 ++ scan (step state byte).2 rest

end Utf8

/-- A word is a byte string taken apart into pieces. -/
abbrev Word := List Piece

def Bytes.pieces (bytes : Bytes) : Word := Utf8.scan none bytes

namespace Word

def ofChars (characters : List Char) : Word := characters.map .char

def ofString (text : String) : Word := ofChars text.toList

def bytes (word : Word) : Bytes := word.flatMap Piece.bytes

/-- A word is text when no piece of it is invalid. -/
def text? (word : Word) : Option String := (word.mapM Piece.char?).map String.ofList

/-- This reading shows each invalid run as one replacement character. -/
def lossy (word : Word) : String := String.ofList (word.map Piece.shown)

end Word

def Bytes.text? (bytes : Bytes) : Option String := Word.text? (Bytes.pieces bytes)

def Bytes.lossy (bytes : Bytes) : String := Word.lossy (Bytes.pieces bytes)

end LingerChain
