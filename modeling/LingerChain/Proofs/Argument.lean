/-
This file tells the shapes of arguments apart by their bytes, whether these are text or not.
-/

import LingerChain.Proofs.Grammar

namespace LingerChain

namespace Bytes

def dash : UInt8 := 0x2D

def equals : UInt8 := 0x3D

/-- Bytes are text if they encode it. -/
def IsText (bytes : Bytes) : Prop := ∃ text, bytes = encode text

/-- Bytes are a duration if they encode a text that denotes one. -/
def IsDuration (bytes : Bytes) : Prop := ∃ text millis, bytes = encode text ∧ Denotes text millis

/-- Two dashes and more are a long argument: a name, and a value behind the first equals sign. -/
structure Named (argument name : Bytes) (value : Option Bytes) : Prop where
  spelt : argument = dash :: dash :: (name ++ attachment equals value)
  noEquals : equals ∉ name
  longer : name ++ attachment equals value ≠ []

/-- One dash and more are a short argument, if no second dash follows. -/
structure Lettered (argument letters : Bytes) : Prop where
  spelt : argument = dash :: letters
  given : letters ≠ []
  single : letters.head? ≠ some dash

/-- An argument that is no escape is long, short, a lone dash, or begins with no dash. -/
theorem argument_cases (argument : Bytes) :
    argument = encode "--" ∨ (∃ name value, Named argument name value) ∨
      (∃ letters, Lettered argument letters) ∨ argument = encode "-" ∨
      argument.head? ≠ some dash := by
  rcases argument with _ | ⟨first, rest⟩
  · simp
  by_cases dashed : first = dash
  · subst dashed
    rcases rest with _ | ⟨second, body⟩
    · exact .inr (.inr (.inr (.inl rfl)))
    by_cases twice : second = dash
    · subst twice
      rcases body with _ | ⟨third, body⟩
      · exact .inl rfl
      obtain ⟨name, value, noEquals, split⟩ := exists_attachment equals (third :: body)
      exact .inr (.inl ⟨name, value, by rw [split], noEquals, by simp [← split]⟩)
    · exact .inr (.inr (.inl ⟨_, rfl, by simp, by simpa using twice⟩))
  · exact .inr (.inr (.inr (.inr (by simpa using dashed))))

theorem pieces_text {bytes : Bytes} {text : String} :
    pieces bytes = Word.ofString text ↔ bytes = encode text := by
  constructor
  · intro read
    rw [← bytesPieces bytes, read, bytesOfString]
  · rintro rfl
    exact piecesEncode text

theorem text?_pieces_none {bytes : Bytes} : (pieces bytes).text? = none ↔ ¬ IsText bytes := by
  simp only [Option.eq_none_iff_forall_ne_some, ne_eq, Request.text?_some, pieces_text, IsText,
    not_exists]

theorem encode_injective {first second : String} (same : encode first = encode second) :
    first = second := by
  have read := textEncode first
  rw [same, textEncode] at read
  exact (Option.some.inj read).symm

theorem pieces_nil {bytes : Bytes} : pieces bytes = [] ↔ bytes = [] := by
  constructor
  · intro read
    rw [← bytesPieces bytes, read]
    rfl
  · rintro rfl
    rfl

/-- A word begins with the character that its bytes begin with. -/
theorem pieces_char {bytes : Bytes} {letter : Char} {others : Word} :
    pieces bytes = .char letter :: others ↔
      ∃ rest, bytes = String.utf8EncodeChar letter ++ rest ∧ pieces rest = others := by
  constructor
  · intro read
    have whole := bytesPieces bytes
    rw [read] at whole
    have same := Utf8.scanChar letter (Word.bytes others)
    refine ⟨Word.bytes others, whole.symm, ?_⟩
    have again : pieces bytes = .char letter :: pieces (Word.bytes others) := by
      rw [← whole]
      exact same
    rw [read] at again
    exact (List.cons.inj again).2.symm
  · rintro ⟨rest, rfl, rfl⟩
    exact Utf8.scanChar letter rest

theorem pieces_dashed (bytes : Bytes) : pieces (dash :: bytes) = .char '-' :: pieces bytes :=
  pieces_char.2 ⟨bytes, rfl, rfl⟩

theorem pieces_attachment (name : Bytes) (value : Option Bytes) :
    pieces (name ++ attachment equals value) =
      pieces name ++ attachment (.char '=') (value.map pieces) := by
  cases value with
  | none => simp [attachment]
  | some value => exact @Utf8.scanAppendOne none 61 (by decide) trivial name value

theorem pieces_noEquals {name : Bytes} (noEquals : equals ∉ name) :
    Piece.char '=' ∉ pieces name := by
  intro member
  have bytes : equals ∈ Word.bytes (pieces name) :=
    List.mem_flatMap.2 ⟨_, member, List.mem_singleton_self _⟩
  rw [bytesPieces] at bytes
  exact noEquals bytes

theorem Named.shape {argument name : Bytes} {value : Option Bytes}
    (named : Named argument name value) :
    Shape.ofWord (pieces argument) = .long (pieces name) (value.map pieces) := by
  rw [named.spelt, pieces_dashed, pieces_dashed, pieces_attachment,
    Shape.ofWord_named (pieces_noEquals named.noEquals)]
  rw [← pieces_attachment, ne_eq, pieces_nil]
  exact named.longer

theorem Lettered.shape {argument letters : Bytes} (lettered : Lettered argument letters) :
    ∃ first others, pieces letters = first :: others ∧
      pieces argument = .char '-' :: first :: others ∧
      Shape.ofWord (pieces argument) = .short first others := by
  obtain ⟨first, others, read⟩ :=
    List.exists_cons_of_ne_nil (mt pieces_nil.1 lettered.given)
  have different : first ≠ .char '-' := by
    rintro rfl
    obtain ⟨rest, rfl, _⟩ := pieces_char.1 read
    exact lettered.single rfl
  have split : pieces argument = .char '-' :: first :: others := by
    rw [lettered.spelt, pieces_dashed, read]
  exact ⟨first, others, read, split, by rw [split, Shape.ofWord_letters _ different]⟩

theorem shape_undashed {argument : Bytes} (undashed : argument.head? ≠ some dash) :
    Shape.ofWord (pieces argument) = .value := by
  rcases read : pieces argument with _ | ⟨first, others⟩
  · rfl
  · apply Shape.ofWord_undashed
    rintro rfl
    obtain ⟨rest, rfl, _⟩ := pieces_char.1 read
    exact undashed rfl

end Bytes

end LingerChain
