/-
This file gives decimals with a point their exact value and shows that the text of a span of time is
such a decimal, so that no two spans share a text.
-/

import LingerChain.Proofs.Numeric
import LingerChain.Span
import Mathlib.Data.List.DropRight
import Mathlib.Data.Rat.Floor
import Mathlib.Tactic.FieldSimp
import Mathlib.Tactic.Linarith
import Mathlib.Tactic.Positivity

namespace LingerChain

/-- A text has one front of letters of a class that ends before a letter outside of the class. -/
theorem front_unique {inside : Char → Bool} {front other rest others : List Char}
    (left : ∀ letter ∈ front, inside letter = true) (right : ∀ letter ∈ other, inside letter = true)
    (stop : ∀ letter ∈ rest.head?, inside letter = false)
    (ends : ∀ letter ∈ others.head?, inside letter = false)
    (same : front ++ rest = other ++ others) : front = other ∧ rest = others := by
  have stopped {letters : List Char} (outside : ∀ letter ∈ letters.head?, inside letter = false) :
      letters.takeWhile inside = [] := by
    cases letters with
    | nil => rfl
    | cons first later => simp [outside first rfl]
  have fronts := congrArg (List.takeWhile inside) same
  rw [List.takeWhile_append_of_pos left, List.takeWhile_append_of_pos right, stopped stop,
    stopped ends, List.append_nil, List.append_nil] at fronts
  subst fronts
  exact ⟨rfl, List.append_cancel_left same⟩

/-- A digit stands for a number below ten, and no other digit stands for the same. -/
theorem digit_value {digit : Char} (decimal : digit.isDigit = true) :
    ∃ value, value < 10 ∧ digit = Char.ofNat (48 + value) ∧ digit.toNat - '0'.toNat = value := by
  have bounds : 48 ≤ digit.toNat ∧ digit.toNat ≤ 57 := by
    simpa [Char.isDigit, UInt32.le_iff_toNat_le] using decimal
  have zero : '0'.toNat = 48 := rfl
  refine ⟨digit.toNat - '0'.toNat, by omega, ?_, rfl⟩
  rw [zero, Nat.add_sub_cancel' bounds.1, Char.ofNat_toNat]

theorem toDigits_injective {first second : Nat}
    (same : Nat.toDigits 10 first = Nat.toDigits 10 second) : first = second := by
  have counted := congrArg (Nat.ofDigitChars 10 · 0) same
  simpa [Nat.ofDigitChars_ten_toDigits] using counted

theorem ofDigitChars_last (front : List Char) (last : Char) :
    Nat.ofDigitChars 10 (front ++ [last]) 0 =
      10 * Nat.ofDigitChars 10 front 0 + (last.toNat - '0'.toNat) := by
  rw [Nat.ofDigitChars_append, Nat.ofDigitChars_cons, Nat.ofDigitChars_nil]

theorem ofDigitChars_less {digits : List Char} (decimal : Decimal digits) :
    Nat.ofDigitChars 10 digits 0 < 10 ^ digits.length := by
  induction digits using List.reverseRecOn with
  | nil => decide
  | append_singleton front last ih =>
      obtain ⟨front_decimal, last_decimal⟩ := List.forall_mem_append.1 decimal
      obtain ⟨value, small, -, known⟩ :=
        digit_value (last_decimal last (List.mem_singleton_self last))
      have less := ih front_decimal
      rw [ofDigitChars_last, known, List.length_append, List.length_singleton, Nat.pow_succ]
      omega

/-- Among rows of digits of one length each has a number of its own. -/
theorem ofDigitChars_injective {first second : List Char} (left : Decimal first)
    (right : Decimal second) (long : first.length = second.length)
    (same : Nat.ofDigitChars 10 first 0 = Nat.ofDigitChars 10 second 0) : first = second := by
  induction first using List.reverseRecOn generalizing second with
  | nil => exact (List.eq_nil_of_length_eq_zero long.symm).symm
  | append_singleton front last ih =>
      rcases List.eq_nil_or_concat' second with rfl | ⟨others, final, rfl⟩
      · simp at long
      obtain ⟨front_decimal, last_decimal⟩ := List.forall_mem_append.1 left
      obtain ⟨others_decimal, final_decimal⟩ := List.forall_mem_append.1 right
      obtain ⟨value, small, last_named, last_known⟩ :=
        digit_value (last_decimal last (List.mem_singleton_self last))
      obtain ⟨other, less, final_named, final_known⟩ :=
        digit_value (final_decimal final (List.mem_singleton_self final))
      rw [ofDigitChars_last, ofDigitChars_last, last_known, final_known] at same
      obtain rfl : value = other := by omega
      rw [last_named, final_named, ih front_decimal others_decimal (by simpa using long) (by omega)]

/-- A numeral is a whole number with decimal places behind it, and no zero ends these places. -/
@[ext]
structure Numeral where
  whole : Nat
  places : List Char
  decimal : Decimal places
  short : places.getLast? ≠ some '0'

namespace Numeral

def value (numeral : Numeral) : ℚ :=
  numeral.whole + Nat.ofDigitChars 10 numeral.places 0 / 10 ^ numeral.places.length

/-- The point is written only before places. -/
def text (numeral : Numeral) : String :=
  toString numeral.whole ++
    if numeral.places = [] then "" else "." ++ String.ofList numeral.places

/-- The places never make up a whole. -/
theorem floor_value (numeral : Numeral) : ⌊numeral.value⌋ = numeral.whole := by
  have least : (0 : ℚ) ≤ Nat.ofDigitChars 10 numeral.places 0 / 10 ^ numeral.places.length := by
    positivity
  have less : (Nat.ofDigitChars 10 numeral.places 0 / 10 ^ numeral.places.length : ℚ) < 1 := by
    rw [div_lt_one (by positivity)]
    exact_mod_cast ofDigitChars_less numeral.decimal
  rw [Int.floor_eq_iff, value, Int.cast_natCast]
  constructor <;> linarith

/-- Zeros behind the places do not change the value. -/
theorem ofDigitChars_zeros (digits : List Char) (zeros : Nat) :
    (Nat.ofDigitChars 10 (digits ++ List.replicate zeros '0') 0 : ℚ) /
        10 ^ (digits ++ List.replicate zeros '0').length =
      Nat.ofDigitChars 10 digits 0 / 10 ^ digits.length := by
  rw [Nat.ofDigitChars_append, Nat.ofDigitChars_replicate_zero, List.length_append,
    List.length_replicate, pow_add]
  push_cast
  field_simp

/-- Of two rows of places with one value the longer is the shorter with zeros behind it. -/
theorem places_zeros {first second : List Char} (left : Decimal first) (right : Decimal second)
    (longer : first.length ≤ second.length)
    (same : (Nat.ofDigitChars 10 first 0 : ℚ) / 10 ^ first.length =
      Nat.ofDigitChars 10 second 0 / 10 ^ second.length) :
    second = first ++ List.replicate (second.length - first.length) '0' := by
  have long : second.length =
      (first ++ List.replicate (second.length - first.length) '0').length := by
    rw [List.length_append, List.length_replicate, Nat.add_sub_cancel' longer]
  have padded : Decimal (first ++ List.replicate (second.length - first.length) '0') := by
    refine List.forall_mem_append.2 ⟨left, fun digit member => ?_⟩
    rw [List.eq_of_mem_replicate member]
    rfl
  apply ofDigitChars_injective right padded long
  rw [← ofDigitChars_zeros first (second.length - first.length), ← long,
    div_left_inj' (by positivity)] at same
  exact_mod_cast same.symm

/-- Places that no zero ends are not the longer of two rows with one value. -/
theorem places_longer {first second : Numeral}
    (longer : first.places.length ≤ second.places.length)
    (same : (Nat.ofDigitChars 10 first.places 0 : ℚ) / 10 ^ first.places.length =
      Nat.ofDigitChars 10 second.places 0 / 10 ^ second.places.length) :
    first.places = second.places := by
  have zeros := places_zeros first.decimal second.decimal longer same
  cases more : second.places.length - first.places.length with
  | zero => simpa [more] using zeros.symm
  | succ count =>
      rw [more, List.replicate_succ', ← List.append_assoc] at zeros
      refine absurd ?_ second.short
      rw [zeros, List.getLast?_concat]

/-- No other numeral has the same value. -/
theorem value_injective {first second : Numeral} (same : first.value = second.value) :
    first = second := by
  have whole : first.whole = second.whole := by
    have floors := congrArg Int.floor same
    rw [floor_value, floor_value] at floors
    exact_mod_cast floors
  have parts : (Nat.ofDigitChars 10 first.places 0 : ℚ) / 10 ^ first.places.length =
      Nat.ofDigitChars 10 second.places 0 / 10 ^ second.places.length := by
    simpa [value, whole] using same
  have places : first.places = second.places := by
    rcases Nat.le_total first.places.length second.places.length with longer | longer
    · exact places_longer longer parts
    · exact (places_longer longer parts.symm).symm
  exact Numeral.ext whole places

theorem toList_text (numeral : Numeral) :
    numeral.text.toList = Nat.toDigits 10 numeral.whole ++
      if numeral.places = [] then [] else '.' :: numeral.places := by
  rw [text, String.toList_append, Nat.toString_eq_ofList_toDigits]
  split <;> simp

/-- A numeral is written with digits and a point. -/
theorem text_letters (numeral : Numeral) :
    ∀ letter ∈ numeral.text.toList, (letter.isDigit || letter = '.') = true := by
  intro letter member
  rw [toList_text] at member
  rcases List.mem_append.1 member with whole | rest
  · simp [Nat.isDigit_of_mem_toDigits (by decide) (by decide) whole]
  · split at rest
    · simp at rest
    · rcases List.mem_cons.1 rest with rfl | place
      · rfl
      · simp [numeral.decimal letter place]

theorem text_injective {first second : Numeral} (same : first.text = second.text) :
    first = second := by
  have written := congrArg String.toList same
  rw [toList_text, toList_text] at written
  have digits (numeral : Numeral) :
      ∀ letter ∈ Nat.toDigits 10 numeral.whole, letter.isDigit = true :=
    fun letter member => Nat.isDigit_of_mem_toDigits (by decide) (by decide) member
  have point (numeral : Numeral) :
      ∀ letter ∈ (if numeral.places = [] then [] else '.' :: numeral.places).head?,
        letter.isDigit = false := by
    split <;> simp
  obtain ⟨whole, rest⟩ :=
    front_unique (digits first) (digits second) (point first) (point second) written
  apply Numeral.ext
  · exact toDigits_injective whole
  · split at rest <;> split at rest <;> simp_all

end Numeral

namespace Span

/-- A fraction leaves out zeros at the end of its padded digits and nothing else. -/
theorem fraction_zeros (places part : Nat) :
    ∃ zeros, List.replicate (places - (Nat.toDigits 10 part).length) '0' ++ Nat.toDigits 10 part =
      fraction places part ++ List.replicate zeros '0' := by
  generalize padded : List.replicate (places - (Nat.toDigits 10 part).length) '0' ++
    Nat.toDigits 10 part = digits
  have shown : fraction places part = digits.rdropWhile (· = '0') := by
    rw [← padded]
    rfl
  refine ⟨(digits.rtakeWhile (· = '0')).length, ?_⟩
  rw [shown, ← List.eq_replicate_of_mem, List.rdropWhile_append_rtakeWhile]
  exact fun digit member => by simpa using List.mem_rtakeWhile_imp member

theorem fraction_decimal (places part : Nat) : Decimal (fraction places part) := by
  obtain ⟨zeros, padded⟩ := fraction_zeros places part
  intro digit member
  have inside := List.mem_append_left (List.replicate zeros '0') member
  rw [← padded] at inside
  rcases List.mem_append.1 inside with zero | shown
  · rw [List.eq_of_mem_replicate zero]
    rfl
  · exact Nat.isDigit_of_mem_toDigits (by decide) (by decide) shown

theorem fraction_short (places part : Nat) : (fraction places part).getLast? ≠ some '0' := by
  intro zero
  obtain ⟨front, ended⟩ := List.getLast?_eq_some_iff.1 zero
  have given : fraction places part ≠ [] := by simp [ended]
  have last := List.rdropWhile_last_not (· = '0') _ given
  have same : (fraction places part).getLast given = '0' := by simp [ended]
  exact last (decide_eq_true same)

theorem fraction_value {places part : Nat} (less : part < 10 ^ places) :
    (Nat.ofDigitChars 10 (fraction places part) 0 : ℚ) / 10 ^ (fraction places part).length =
      part / 10 ^ places := by
  obtain ⟨zeros, padded⟩ := fraction_zeros places part
  rw [← Numeral.ofDigitChars_zeros _ zeros, ← padded, Nat.ofDigitChars_append,
    Nat.ofDigitChars_replicate_zero, Nat.mul_zero, Nat.ofDigitChars_ten_toDigits]
  rcases Nat.eq_zero_or_pos places with rfl | given
  · obtain rfl : part = 0 := by simpa using less
    simp
  · have long := (Nat.length_toDigits_le_iff (by decide) given).2 less
    rw [List.length_append, List.length_replicate, Nat.sub_add_cancel long]

/-- A measure is a power of ten of nanoseconds. -/
inductive Measure where
  | seconds
  | millis
  | micros
  | nanos
  deriving DecidableEq, Repr

namespace Measure

def name : Measure → String
  | seconds => "s"
  | millis => "ms"
  | micros => "µs"
  | nanos => "ns"

def places : Measure → Nat
  | seconds => 9
  | millis => 6
  | micros => 3
  | nanos => 0

def length (measure : Measure) : Nat := 10 ^ measure.places

theorem name_injective {first second : Measure} (same : first.name = second.name) :
    first = second := by
  cases first <;> cases second <;> simp_all [name]

/-- The name of a measure goes on where a numeral ends. -/
theorem name_letters (measure : Measure) :
    ∀ letter ∈ measure.name.toList.head?, (letter.isDigit || letter = '.') = false := by
  cases measure <;> simp [name]

end Measure

/-- The exact length of a span in nanoseconds. -/
def length (span : Span) : Nat := span.seconds * Measure.seconds.length + span.nanos

theorem length_injective {first second : Span} (same : first.length = second.length) :
    first = second := by
  obtain ⟨seconds, nanos, within⟩ := first
  obtain ⟨others, rest, less⟩ := second
  simp only [length, Measure.length, Measure.places] at same
  obtain ⟨rfl, rfl⟩ : seconds = others ∧ nanos = rest := by omega
  rfl

/-- A whole number of measures with a part of one is written by the numeral of its exact value. -/
theorem decimal_numeral (measure : Measure) (whole : Nat) {part : Nat}
    (less : part < measure.length) :
    ∃ numeral : Numeral,
      decimal whole measure.places part measure.name = numeral.text ++ measure.name ∧
        numeral.value * measure.length = (whole * measure.length + part : Nat) := by
  refine ⟨⟨whole, fraction measure.places part, fraction_decimal _ _, fraction_short _ _⟩, ?_, ?_⟩
  · simp [decimal, Numeral.text]
  · rw [Numeral.value, fraction_value less, Measure.length]
    push_cast
    field_simp

/-- The text of a span is a numeral with a measure, and their product is the exact length. -/
theorem text_measured (span : Span) :
    ∃ (numeral : Numeral) (measure : Measure), span.text = numeral.text ++ measure.name ∧
      numeral.value * measure.length = span.length := by
  obtain ⟨seconds, nanos, within⟩ := span
  have measured (measure : Measure) (whole part : Nat) (less : part < measure.length)
      (exact : whole * measure.length + part = seconds * Measure.seconds.length + nanos) :
      ∃ (numeral : Numeral) (other : Measure),
        decimal whole measure.places part measure.name = numeral.text ++ other.name ∧
          numeral.value * other.length = (length ⟨seconds, nanos, within⟩ : Nat) := by
    obtain ⟨numeral, written, value⟩ := decimal_numeral measure whole less
    exact ⟨numeral, measure, written, by rw [value, exact]; rfl⟩
  have less (divisor : Nat) (positive : 0 < divisor) : nanos % divisor < divisor :=
    Nat.mod_lt nanos positive
  rw [text]
  dsimp only
  split
  · exact measured .seconds seconds nanos within rfl
  -- A span of no seconds is its nanoseconds, counted in the measure that divides them.
  obtain rfl : seconds = 0 := by omega
  have parts (divisor : Nat) : nanos / divisor * divisor + nanos % divisor = 0 + nanos := by
    rw [Nat.zero_add, Nat.div_add_mod']
  split
  · exact measured .millis _ _ (less _ (by decide)) (parts _)
  · split
    · exact measured .micros _ _ (less _ (by decide)) (parts _)
    · exact measured .nanos nanos 0 (by decide) (by simp [Measure.length, Measure.places])

/-- No other span has the same text. -/
theorem text_injective {first second : Span} (same : first.text = second.text) :
    first = second := by
  obtain ⟨numeral, measure, written, exact⟩ := text_measured first
  obtain ⟨other, another, others, equal⟩ := text_measured second
  rw [written, others, ← String.toList_inj, String.toList_append, String.toList_append] at same
  obtain ⟨numerals, names⟩ := front_unique numeral.text_letters other.text_letters
    measure.name_letters another.name_letters same
  rw [String.toList_inj] at numerals names
  apply length_injective
  rw [Numeral.text_injective numerals, Measure.name_injective names, equal] at exact
  exact_mod_cast exact.symm

end Span

end LingerChain
