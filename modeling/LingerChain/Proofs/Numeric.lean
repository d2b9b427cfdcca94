/-
This file says what looks like a number: digits, perhaps a fraction, perhaps an exponent.
-/

import LingerChain.CommandLine.Shape

namespace LingerChain

/-- Letters are decimal if all of them are digits. -/
def Decimal (letters : List Char) : Prop := ∀ letter ∈ letters, letter.isDigit = true

/-- A fraction is missing, or it is a point with digits behind it. -/
def Fraction (letters : List Char) : Prop :=
  letters = [] ∨ ∃ digits, letters = '.' :: digits ∧ Decimal digits

/-- An exponent is missing, or it is a mark with at least one digit behind it. -/
def Exponent (letters : List Char) : Prop :=
  letters = [] ∨ ∃ mark digits, letters = mark :: digits ∧ (mark = 'e' ∨ mark = 'E') ∧
    digits ≠ [] ∧ Decimal digits

/-- Letters look like a number if digits stand before a fraction and an exponent. -/
def Numeric (letters : List Char) : Prop :=
  ∃ whole fraction exponent, letters = whole ++ fraction ++ exponent ∧ whole ≠ [] ∧
    Decimal whole ∧ Fraction fraction ∧ Exponent exponent

/-- What looks like a number begins with a digit, and so with no dash. -/
theorem Numeric.undashed {letters : List Char} (numeric : Numeric letters) :
    ∃ first others, letters = first :: others ∧ first ≠ '-' := by
  obtain ⟨whole, fraction, exponent, rfl, given, decimal, _⟩ := numeric
  obtain ⟨first, others, rfl⟩ := List.exists_cons_of_ne_nil given
  refine ⟨first, others ++ fraction ++ exponent, rfl, ?_⟩
  rintro rfl
  exact absurd (decimal '-' List.mem_cons_self) (by decide)

namespace Word

variable {point exponent : Bool}

theorem numberRest_skip {digits : List Char} (decimal : Decimal digits) (rest : Word) :
    numberRest point exponent (ofChars digits ++ rest) = numberRest point exponent rest := by
  induction digits with
  | nil => rfl
  | cons digit others ih =>
      obtain ⟨first, decimal⟩ := List.forall_mem_cons.1 decimal
      change numberRest point exponent (.char digit :: (ofChars others ++ rest)) = _
      rw [numberRest, Piece.isDigit, if_pos first]
      exact ih decimal

/-- Every word is digits and a rest that begins with no digit. -/
theorem exists_digits (word : Word) :
    ∃ digits rest, word = ofChars digits ++ rest ∧ Decimal digits ∧
      ∀ piece ∈ rest.head?, piece.isDigit = false := by
  induction word with
  | nil => exact ⟨[], [], rfl, by simp [Decimal], by simp⟩
  | cons piece others ih =>
      cases digit : piece.isDigit with
      | false => exact ⟨[], piece :: others, rfl, by simp [Decimal], by simp [digit]⟩
      | true =>
          obtain ⟨digits, rest, rfl, decimal, stops⟩ := ih
          cases piece with
          | invalid bytes => contradiction
          | char letter =>
              exact ⟨letter :: digits, rest, rfl, List.forall_mem_cons.2 ⟨digit, decimal⟩, stops⟩

/-- Behind the digits a number ends, or goes on with a point or with the mark of an exponent. -/
theorem numberRest_stop {rest : Word} (stops : ∀ piece ∈ rest.head?, piece.isDigit = false)
    (number : numberRest point exponent rest = true) :
    rest = [] ∨
    (∃ others, rest = .char '.' :: others ∧ point = false ∧ exponent = false ∧
      numberRest true false others = true) ∨
    ∃ mark others, rest = .char mark :: others ∧ (mark = 'e' ∨ mark = 'E') ∧ exponent = false ∧
      others ≠ [] ∧ numberRest point true others = true := by
  cases rest with
  | nil => exact .inl rfl
  | cons piece others =>
      have odd : piece.isDigit = false := stops piece rfl
      rw [numberRest, odd] at number
      simp only [Bool.false_eq_true, if_false] at number
      split at number
      · rename_i isPoint
        simp only [Bool.and_eq_true, Bool.not_eq_true'] at number
        obtain ⟨⟨noPoint, rfl⟩, number⟩ := number
        exact .inr (.inl ⟨others, by rw [isPoint], noPoint, rfl, number⟩)
      · split at number
        · rename_i isMark
          simp only [Bool.and_eq_true, Bool.not_eq_true', List.isEmpty_eq_false_iff] at number
          obtain ⟨⟨noExponent, more⟩, number⟩ := number
          simp only [Piece.isExponent, Bool.or_eq_true, decide_eq_true_eq] at isMark
          rcases isMark with rfl | rfl
          · exact .inr (.inr ⟨'e', others, rfl, .inl rfl, noExponent, more, number⟩)
          · exact .inr (.inr ⟨'E', others, rfl, .inr rfl, noExponent, more, number⟩)
        · contradiction

/-- Behind the mark of an exponent stand digits only. -/
theorem numberRest_exponent {word : Word} :
    numberRest point true word = true ↔ ∃ digits, word = ofChars digits ∧ Decimal digits := by
  constructor
  · intro number
    obtain ⟨digits, rest, rfl, decimal, stops⟩ := exists_digits word
    rw [numberRest_skip decimal] at number
    rcases numberRest_stop stops number with rfl | ⟨_, _, _, impossible, _⟩ |
      ⟨_, _, _, _, impossible, _⟩
    · exact ⟨digits, List.append_nil _, decimal⟩
    · contradiction
    · contradiction
  · rintro ⟨digits, rfl, decimal⟩
    have skipped := @numberRest_skip point true digits decimal []
    rwa [List.append_nil] at skipped

theorem numberRest_mark {mark : Char} (isMark : mark = 'e' ∨ mark = 'E') {others : Word}
    (more : others ≠ []) (number : numberRest point true others = true) :
    numberRest point false (.char mark :: others) = true := by
  rcases isMark with rfl | rfl <;>
    simpa [numberRest, Piece.isDigit, Piece.isExponent, more] using number

theorem numberRest_end {ending : List Char} (exponent : Exponent ending) :
    numberRest point false (ofChars ending) = true := by
  rcases exponent with rfl | ⟨mark, digits, rfl, isMark, given, decimal⟩
  · rfl
  · exact numberRest_mark isMark (by simpa [ofChars] using given)
      (numberRest_exponent.2 ⟨digits, rfl, decimal⟩)

/-- Behind a point stand digits, and then perhaps an exponent. -/
theorem numberRest_fraction {word : Word} :
    numberRest true false word = true ↔
      ∃ digits exponent, word = ofChars (digits ++ exponent) ∧ Decimal digits ∧
        Exponent exponent := by
  constructor
  · intro number
    obtain ⟨digits, rest, rfl, decimal, stops⟩ := exists_digits word
    rw [numberRest_skip decimal] at number
    rcases numberRest_stop stops number with rfl | ⟨_, _, impossible, _⟩ |
      ⟨mark, others, rfl, isMark, _, more, number⟩
    · exact ⟨digits, [], by simp [ofChars], decimal, .inl rfl⟩
    · contradiction
    · obtain ⟨tail, rfl, tail_decimal⟩ := numberRest_exponent.1 number
      exact ⟨digits, mark :: tail, by simp [ofChars], decimal,
        .inr ⟨mark, tail, rfl, isMark, by simpa [ofChars] using more, tail_decimal⟩⟩
  · rintro ⟨digits, exponent, rfl, decimal, ending⟩
    rw [ofChars, List.map_append]
    exact (numberRest_skip decimal _).trans (numberRest_end ending)

/-- Behind the first digits stands a fraction, and then an exponent. -/
theorem numberRest_whole {word : Word} :
    numberRest false false word = true ↔
      ∃ digits fraction exponent, word = ofChars (digits ++ fraction ++ exponent) ∧
        Decimal digits ∧ Fraction fraction ∧ Exponent exponent := by
  constructor
  · intro number
    obtain ⟨digits, rest, rfl, decimal, stops⟩ := exists_digits word
    rw [numberRest_skip decimal] at number
    rcases numberRest_stop stops number with rfl | ⟨others, rfl, _, _, number⟩ |
      ⟨mark, others, rfl, isMark, _, more, number⟩
    · exact ⟨digits, [], [], by simp [ofChars], decimal, .inl rfl, .inl rfl⟩
    · obtain ⟨places, exponent, rfl, places_decimal, ending⟩ := numberRest_fraction.1 number
      exact ⟨digits, '.' :: places, exponent, by simp [ofChars], decimal,
        .inr ⟨places, rfl, places_decimal⟩, ending⟩
    · obtain ⟨tail, rfl, tail_decimal⟩ := numberRest_exponent.1 number
      exact ⟨digits, [], mark :: tail, by simp [ofChars], decimal, .inl rfl,
        .inr ⟨mark, tail, rfl, isMark, by simpa [ofChars] using more, tail_decimal⟩⟩
  · rintro ⟨digits, fraction, exponent, rfl, decimal, places, ending⟩
    rw [List.append_assoc, ofChars, List.map_append]
    refine (numberRest_skip decimal _).trans ?_
    rcases places with rfl | ⟨places, rfl, places_decimal⟩
    · exact numberRest_end ending
    · have behind := numberRest_fraction.2 ⟨places, exponent, rfl, places_decimal, ending⟩
      simpa [numberRest, Piece.isDigit, ofChars] using behind

/-- A word looks like a number exactly if it is text that does. -/
theorem looksNumeric_iff {word : Word} :
    word.looksNumeric = true ↔ ∃ letters, word = ofChars letters ∧ Numeric letters := by
  constructor
  · intro number
    obtain _ | ⟨piece, rest⟩ := word
    · contradiction
    rw [looksNumeric, Bool.and_eq_true] at number
    obtain ⟨digit, number⟩ := number
    obtain ⟨digits, fraction, exponent, rfl, decimal, given⟩ := numberRest_whole.1 number
    cases piece with
    | invalid bytes => contradiction
    | char letter =>
        exact ⟨_, rfl, letter :: digits, fraction, exponent, rfl, List.cons_ne_nil _ _,
          List.forall_mem_cons.2 ⟨digit, decimal⟩, given⟩
  · rintro ⟨_, rfl, whole, fraction, exponent, rfl, given, decimal, behind⟩
    obtain ⟨digit, digits, rfl⟩ := List.exists_cons_of_ne_nil given
    obtain ⟨first, decimal⟩ := List.forall_mem_cons.1 decimal
    have number := numberRest_whole.2 ⟨digits, fraction, exponent, rfl, decimal, behind⟩
    exact Bool.and_eq_true_iff.2 ⟨first, number⟩

end Word

end LingerChain
