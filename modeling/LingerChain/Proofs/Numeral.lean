/-
This file says which texts denote a duration and shows that reading accepts exactly those.
-/

import LingerChain.Millis

namespace LingerChain

/-- A numeral may begin with a sign. -/
inductive Sign where
  | none
  | plus
  | minus
  deriving DecidableEq, Repr

namespace Sign

def text : Sign → List Char
  | none => []
  | plus => ['+']
  | minus => ['-']

def apply : Sign → Nat → Int
  | none, magnitude | plus, magnitude => magnitude
  | minus, magnitude => -magnitude

end Sign

/-- A text denotes a duration by an optional sign and at least one decimal digit. -/
def Denotes (text : String) (millis : Millis) : Prop :=
  ∃ sign digits, text.toList = Sign.text sign ++ digits ∧ digits ≠ [] ∧
    (∀ digit ∈ digits, digit.isDigit = true) ∧
    millis.value = sign.apply (Nat.ofDigitChars 10 digits 0)

namespace Millis

/-- The way of a number from zero is counted up or down. -/
def directed (negative : Bool) (magnitude : Nat) : Int :=
  if negative then -magnitude else magnitude

theorem shift_directed (negative : Bool) (magnitude digit : Nat) :
    shift negative (directed negative magnitude) digit =
      directed negative (10 * magnitude + digit) := by
  unfold shift directed
  cases negative <;> simp <;> omega

theorem value_ofInt? {value : Int} {millis : Millis} (made : ofInt? value = some millis) :
    millis.value = value := by
  unfold ofInt? at made
  split at made
  · injection made with same
    subst same
    rfl
  · contradiction

theorem value_injective {first second : Millis} (same : first.value = second.value) :
    first = second := by
  cases first
  cases second
  simp_all

/-- Further digits never bring a number back towards zero. -/
theorem ofDigitChars_le (digits : List Char) (start : Nat) :
    start ≤ Nat.ofDigitChars 10 digits start := by
  rw [Nat.ofDigitChars_eq_ofDigitChars_zero]
  have grown : start ≤ 10 ^ digits.length * start :=
    Nat.le_mul_of_pos_left start (Nat.pow_pos (by decide))
  exact Nat.le_add_right_of_le grown

/-- A number that has left the range stays outside. -/
theorem ofInt?_none {negative : Bool} {magnitude : Nat} {millis : Millis}
    (left : ofInt? (directed negative magnitude) = none) (digits : List Char) :
    millis.value ≠ directed negative (Nat.ofDigitChars 10 digits magnitude) := by
  intro same
  have grown := ofDigitChars_le digits magnitude
  have lower := millis.lower
  have upper := millis.upper
  unfold ofInt? at left
  split at left
  · contradiction
  · rename_i outside
    apply outside
    unfold directed at *
    cases negative <;> simp at * <;> omega

/-- Digits are read exactly when they are digits and their number stays in range. -/
theorem readDigits_ok {negative : Bool} {sofar millis : Millis} {magnitude : Nat}
    {digits : List Char} (counted : sofar.value = directed negative magnitude) :
    readDigits negative sofar digits = .ok millis ↔
      (∀ digit ∈ digits, digit.isDigit = true) ∧
        millis.value = directed negative (Nat.ofDigitChars 10 digits magnitude) := by
  induction digits generalizing sofar magnitude with
  | nil =>
      simp only [readDigits, Except.ok.injEq, List.not_mem_nil, false_implies, implies_true,
        true_and, Nat.ofDigitChars_nil, ← counted]
      exact ⟨fun same => by rw [same], fun same => (value_injective same).symm⟩
  | cons digit rest ih =>
      have shifted := shift_directed negative magnitude (digit.toNat - '0'.toNat)
      rw [← counted] at shifted
      rw [readDigits, Nat.ofDigitChars_cons, List.forall_mem_cons]
      by_cases decimal : digit.isDigit = true
      · simp only [digit?, decimal, if_true, shifted, true_and]
        cases made : ofInt? (directed negative (10 * magnitude + (digit.toNat - '0'.toNat))) with
        | none =>
            -- The magnitude only grows from here on, so later digits cannot mend the overflow.
            have outside := @ofInt?_none negative _ millis made rest
            constructor
            · intro read
              cases negative <;> contradiction
            · intro given
              exact absurd given.2 outside
        | some next => exact ih (value_ofInt? made)
      · simp [digit?, decimal]

theorem readUnsigned_ok {negative : Bool} {millis : Millis} {digits : List Char} :
    readUnsigned negative digits = .ok millis ↔
      digits ≠ [] ∧ (∀ digit ∈ digits, digit.isDigit = true) ∧
        millis.value = directed negative (Nat.ofDigitChars 10 digits 0) := by
  cases digits with
  | nil => simp [readUnsigned]
  | cons digit rest =>
      have counted : zero.value = directed negative 0 := by cases negative <;> rfl
      have read := @readDigits_ok negative zero millis 0 (digit :: rest) counted
      exact read.trans ⟨fun given => ⟨List.cons_ne_nil digit rest, given⟩, And.right⟩

/-- A text that begins with no sign is all digits or not read. -/
theorem read_unsigned {first : Char} {rest : List Char} (plus : first ≠ '+') (minus : first ≠ '-') :
    read (first :: rest) = readUnsigned false (first :: rest) := by
  unfold read
  split
  · contradiction
  · rename_i same
    exact absurd (List.cons.inj same).1 minus
  · rename_i same
    exact absurd (List.cons.inj same).1 plus
  · rfl

theorem digit_unsigned {digit : Char} (decimal : digit.isDigit = true) :
    digit ≠ '+' ∧ digit ≠ '-' := by
  constructor <;>
  · rintro rfl
    exact absurd decimal (by decide)

/-- The texts that are read are those that denote a duration, each as what it denotes. -/
theorem read_ok {text : String} {millis : Millis} :
    read text.toList = .ok millis ↔ Denotes text millis := by
  unfold Denotes
  constructor
  · intro given
    unfold read at given
    split at given
    · contradiction
    · rename_i rest spelt
      exact ⟨.minus, rest, spelt, readUnsigned_ok.1 given⟩
    · rename_i rest spelt
      exact ⟨.plus, rest, spelt, readUnsigned_ok.1 given⟩
    · exact ⟨.none, text.toList, rfl, readUnsigned_ok.1 given⟩
  · rintro ⟨sign, digits, spelt, given⟩
    rw [spelt]
    cases sign with
    | none =>
        obtain ⟨digit, rest, rfl⟩ := List.exists_cons_of_ne_nil given.1
        obtain ⟨plus, minus⟩ := digit_unsigned (given.2.1 digit List.mem_cons_self)
        exact (read_unsigned plus minus).trans (readUnsigned_ok.2 given)
    | plus => exact readUnsigned_ok.2 given
    | minus => exact readUnsigned_ok.2 given

end Millis

/-- Reading decides whether a text denotes a duration. -/
instance (text : String) : Decidable (∃ millis, Denotes text millis) :=
  decidable_of_iff ((Millis.read text.toList).toOption.isSome = true) (by
    simp only [← Millis.read_ok]
    cases Millis.read text.toList <;> simp [Except.toOption])

/-- A text denotes one duration at most. -/
theorem Denotes.unique {text : String} {first second : Millis} (left : Denotes text first)
    (right : Denotes text second) : first = second := by
  rw [← Millis.read_ok] at left right
  exact Except.ok.inj (left.symm.trans right)

end LingerChain
