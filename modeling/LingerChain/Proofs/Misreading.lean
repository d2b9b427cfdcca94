/-
This file says why a text denotes no duration: the first of its characters that cannot be read is
the reason.
-/

import LingerChain.Proofs.Grammar
import Mathlib.Data.List.Induction

namespace LingerChain

namespace Sign

def negative : Sign → Bool
  | minus => true
  | none | plus => false

/-- The sign says at which end a number leaves the range. -/
def overflow : Sign → Millis.Fault
  | minus => .tooSmall
  | none | plus => .tooLarge

theorem apply_directed (sign : Sign) (magnitude : Nat) :
    sign.apply magnitude = Millis.directed sign.negative magnitude := by
  cases sign <;> rfl

end Sign

/-- A number fits if 64 bits hold it with its sign. -/
def Fits (value : Int) : Prop := -9223372036854775808 ≤ value ∧ value ≤ 9223372036854775807

/-- A text begins with a sign if it can, and the body of its number stands behind. -/
structure Signed (text : String) (sign : Sign) (body : List Char) : Prop where
  spelt : text.toList = sign.text ++ body
  unsigned : sign = .none → ∀ first ∈ body.head?, first ≠ '+' ∧ first ≠ '-'

/-- A letter stops a number if it is no digit, or if it is a digit that takes the number out of the
range. -/
inductive Stops (sign : Sign) (digits : List Char) (letter : Char) : Millis.Fault → Prop where
  | notDigit (odd : letter.isDigit = false) : Stops sign digits letter .notDigit
  | outside (digit : letter.isDigit = true)
      (outside : ¬ Fits (sign.apply (Nat.ofDigitChars 10 (digits ++ [letter]) 0))) :
      Stops sign digits letter sign.overflow

/-- A text is misread if it is empty or only a sign, or else at the first letter that stops its
number. All letters before that one are digits whose number still fits. -/
inductive Misread (text : String) : Millis.Fault → Prop where
  | empty (nothing : text = "") : Misread text .empty
  | loneSign (alone : text = "+" ∨ text = "-") : Misread text .notDigit
  | stopped {sign : Sign} {digits rest : List Char} {letter : Char} {fault : Millis.Fault}
      (signed : Signed text sign (digits ++ letter :: rest)) (decimal : Decimal digits)
      (fits : Fits (sign.apply (Nat.ofDigitChars 10 digits 0)))
      (stops : Stops sign digits letter fault) : Misread text fault

theorem exists_signed (text : String) : ∃ sign body, Signed text sign body := by
  rcases spelt : text.toList with _ | ⟨first, rest⟩
  · exact ⟨.none, [], spelt, by simp⟩
  by_cases plus : first = '+'
  · exact ⟨.plus, rest, by rw [spelt, plus]; rfl, nofun⟩
  by_cases minus : first = '-'
  · exact ⟨.minus, rest, by rw [spelt, minus]; rfl, nofun⟩
  · exact ⟨.none, first :: rest, spelt, by simp [plus, minus]⟩

/-- Letters behind a sign are digits whose number fits, or one of them is the first to stop it. -/
theorem stopped_or_fits (sign : Sign) (letters : List Char) :
    (Decimal letters ∧ Fits (sign.apply (Nat.ofDigitChars 10 letters 0))) ∨
      ∃ digits letter rest fault, letters = digits ++ letter :: rest ∧ Decimal digits ∧
        Fits (sign.apply (Nat.ofDigitChars 10 digits 0)) ∧ Stops sign digits letter fault := by
  induction letters using List.reverseRecOn with
  | nil => exact .inl ⟨by simp [Decimal], by cases sign <;> simp [Fits, Sign.apply]⟩
  | append_singleton front last ih =>
      rcases ih with ⟨decimal, fits⟩ | ⟨digits, letter, rest, fault, rfl, given⟩
      · cases digit : last.isDigit with
        | false => exact .inr ⟨front, last, [], _, rfl, decimal, fits, .notDigit digit⟩
        | true =>
            by_cases inside : Fits (sign.apply (Nat.ofDigitChars 10 (front ++ [last]) 0))
            · refine .inl ⟨?_, inside⟩
              exact List.forall_mem_append.2 ⟨decimal, by simpa using digit⟩
            · exact .inr ⟨front, last, [], _, rfl, decimal, fits, .outside digit inside⟩
      · exact .inr ⟨digits, letter, rest ++ [last], fault, by simp, given⟩

/-- A number that is nearer to zero fits as well. -/
theorem Fits.less {sign : Sign} {magnitude less : Nat} (fits : Fits (sign.apply magnitude))
    (nearer : less ≤ magnitude) : Fits (sign.apply less) := by
  unfold Fits at *
  cases sign <;> simp only [Sign.apply] at * <;> omega

namespace Millis

theorem ofInt?_fits {value : Int} (fits : Fits value) :
    ∃ millis, ofInt? value = some millis ∧ millis.value = value :=
  ⟨⟨value, fits.1, fits.2⟩, dif_pos fits, rfl⟩

theorem ofInt?_outside {value : Int} (outside : ¬ Fits value) : ofInt? value = none :=
  dif_neg outside

variable {sign : Sign} {sofar : Millis} {digits rest : List Char} {letter : Char}

/-- A digit moves the number on, or out of the range. -/
theorem readDigits_digit (digit : letter.isDigit = true)
    (counted : sofar.value = sign.apply (Nat.ofDigitChars 10 digits 0)) :
    readDigits sign.negative sofar (letter :: rest) =
      match ofInt? (sign.apply (Nat.ofDigitChars 10 (digits ++ [letter]) 0)) with
      | none => .error sign.overflow
      | some next => readDigits sign.negative next rest := by
  rw [Sign.apply_directed] at counted
  rw [readDigits, digit?, if_pos digit, counted]
  dsimp only
  rw [shift_directed, ← Sign.apply_directed, Nat.ofDigitChars_append, Nat.ofDigitChars_cons,
    Nat.ofDigitChars_nil]
  cases sign <;> rfl

theorem readDigits_stops {fault : Fault} (stops : Stops sign digits letter fault)
    (counted : sofar.value = sign.apply (Nat.ofDigitChars 10 digits 0)) :
    readDigits sign.negative sofar (letter :: rest) = .error fault := by
  cases stops with
  | notDigit odd => rw [readDigits, digit?, if_neg (by simp [odd])]
  | outside digit outside => rw [readDigits_digit digit counted, ofInt?_outside outside]

/-- Digits whose number fits are read before anything that stands behind them. -/
theorem readDigits_front (decimal : Decimal digits)
    (fits : Fits (sign.apply (Nat.ofDigitChars 10 digits 0))) :
    ∃ next : Millis, next.value = sign.apply (Nat.ofDigitChars 10 digits 0) ∧
      readDigits sign.negative zero (digits ++ rest) = readDigits sign.negative next rest := by
  induction digits using List.reverseRecOn generalizing rest with
  | nil => exact ⟨zero, by cases sign <;> rfl, rfl⟩
  | append_singleton front last ih =>
      obtain ⟨front_decimal, last_decimal⟩ := List.forall_mem_append.1 decimal
      have digit : last.isDigit = true := last_decimal last (List.mem_singleton_self last)
      have nearer : Nat.ofDigitChars 10 front 0 ≤ Nat.ofDigitChars 10 (front ++ [last]) 0 := by
        rw [Nat.ofDigitChars_append]
        exact ofDigitChars_le _ _
      obtain ⟨sofar, counted, read⟩ := @ih (last :: rest) front_decimal (fits.less nearer)
      obtain ⟨next, made, value⟩ := ofInt?_fits fits
      refine ⟨next, value, ?_⟩
      rw [List.append_assoc, List.singleton_append, read, readDigits_digit digit counted, made]

/-- A text is read behind its sign. -/
theorem read_signed {text : String} {body : List Char} (signed : Signed text sign body)
    (given : text ≠ "") : read text.toList = readUnsigned sign.negative body := by
  rw [signed.spelt]
  cases sign with
  | plus | minus => rfl
  | none =>
      rcases body with _ | ⟨first, rest⟩
      · exact absurd (String.toList_inj.1 signed.spelt) given
      · obtain ⟨plus, minus⟩ := signed.unsigned rfl first rfl
        exact read_unsigned plus minus

/-- A text with a body has the fault of the letter that stops its number. -/
theorem read_stopped {text : String} {fault : Fault}
    (signed : Signed text sign (digits ++ letter :: rest)) (decimal : Decimal digits)
    (fits : Fits (sign.apply (Nat.ofDigitChars 10 digits 0)))
    (stops : Stops sign digits letter fault) : read text.toList = .error fault := by
  have given : text ≠ "" := by
    rintro rfl
    simpa using signed.spelt
  obtain ⟨next, counted, read⟩ := @readDigits_front sign digits (letter :: rest) decimal fits
  have whole : readUnsigned sign.negative (digits ++ letter :: rest) =
      readDigits sign.negative zero (digits ++ letter :: rest) := by
    cases digits <;> rfl
  rw [read_signed signed given, whole, read, readDigits_stops stops counted]

theorem read_misread {text : String} {fault : Fault} (misread : Misread text fault) :
    read text.toList = .error fault := by
  cases misread with
  | empty nothing =>
      rw [nothing]
      rfl
  | loneSign alone => rcases alone with rfl | rfl <;> rfl
  | stopped signed decimal fits stops => exact read_stopped signed decimal fits stops

/-- A text denotes a duration or is misread. -/
theorem denotes_or_misread (text : String) :
    (∃ millis, Denotes text millis) ∨ ∃ fault, Misread text fault := by
  by_cases given : text = ""
  · exact .inr ⟨_, .empty given⟩
  obtain ⟨sign, body, signed⟩ := exists_signed text
  by_cases nothing : body = []
  · refine .inr ⟨_, .loneSign ?_⟩
    subst nothing
    have spelt := signed.spelt
    cases sign with
    | none => exact absurd (String.toList_inj.1 spelt) given
    | plus => exact .inl (String.toList_inj.1 spelt)
    | minus => exact .inr (String.toList_inj.1 spelt)
  rcases stopped_or_fits sign body with ⟨decimal, fits⟩ |
    ⟨digits, letter, rest, fault, rfl, decimal, fits, stops⟩
  · exact .inl ⟨⟨_, fits.1, fits.2⟩, sign, body, signed.spelt, nothing, decimal, rfl⟩
  · exact .inr ⟨fault, .stopped signed decimal fits stops⟩

/-- Reading fails for the reason for which the text is misread. -/
theorem read_error {text : String} {fault : Fault} :
    read text.toList = .error fault ↔ Misread text fault := by
  refine ⟨fun failed => ?_, read_misread⟩
  rcases denotes_or_misread text with ⟨millis, denotes⟩ | ⟨other, misread⟩
  · rw [read_ok.2 denotes] at failed
    contradiction
  · rw [read_misread misread] at failed
    rwa [← Except.error.inj failed]

end Millis

/-- Reading decides for which reason a text is misread. -/
instance (text : String) (fault : Millis.Fault) : Decidable (Misread text fault) :=
  decidable_of_iff (Millis.read text.toList = .error fault) Millis.read_error

example : Misread "9x99999999999999999999" .notDigit := by decide

/-- A text is looked at as the head behind the escape, and alone if it stands for a head. -/
inductive LookedAt (text : String) : List String → Prop where
  | escaped : LookedAt text ["--", text]
  | alone (heads : Heads text) : LookedAt text [text]

namespace Queue

/-- The head that is looked at decides the answer. -/
theorem ofArguments_lookedAt {text : String} {words : List String} (looked : LookedAt text words)
    (program : Option Bytes) :
    ofArguments program (words.map encode) =
      match Millis.read text.toList with
      | .ok millis => .ok ⟨millis, []⟩
      | .error fault => .error (.replied (commandName program) (.badHead text fault)) := by
  have requested : Request.ofWords (words.map Word.ofString) =
      .queue (Word.ofString text) [] := by
    cases looked with
    | escaped => rfl
    | alone heads => exact Request.ofWords_heads heads []
  rw [ofArguments_firstWords, pieces_texts.2 rfl, requested]
  simp only [Request.settle, Request.readHead, textOfString]
  cases Millis.read text.toList <;> rfl

/-- A head that is looked at is read exactly if it denotes a duration, and as what it denotes. Every
other head is answered with the reason for which it is misread. -/
theorem ofCommandLine_head {text : String} {words : List String} (looked : LookedAt text words)
    (program : Bytes) :
    (∀ queue, ofCommandLine (program :: words.map encode) = .ok queue ↔
      ∃ millis, Denotes text millis ∧ queue = ⟨millis, []⟩) ∧
    (∀ failure, ofCommandLine (program :: words.map encode) = .error failure ↔
      ∃ fault, Misread text fault ∧
        failure = .replied (commandName (some program)) (.badHead text fault)) ∧
    ∀ name fault, (Reply.badHead text fault).kind = .valueValidation ∧
      (Failure.replied name (.badHead text fault)).exitCode = 2 ∧
      (Failure.replied name (.badHead text fault)).cause? = some fault.message := by
  have answer : ofCommandLine (program :: words.map encode) = _ :=
    ofArguments_lookedAt looked (some program)
  simp only [← Millis.read_ok, ← Millis.read_error]
  refine ⟨fun queue => ?_, fun failure => ?_, fun _ _ => ⟨rfl, rfl, rfl⟩⟩
  all_goals
    rw [answer]
    cases Millis.read text.toList <;> simp [eq_comm]

/-- A digit that leaves the range comes before a later letter that is no digit. A number with a
fraction stands for a head, but it is misread at the point. -/
theorem ofCommandLine_head_first :
    ofCommandLine (["linger", "--", "-9223372036854775809x"].map encode) =
      .error (.replied (commandName (some (encode "linger")))
        (.badHead "-9223372036854775809x" .tooSmall)) ∧
    ofCommandLine (["linger", "-1.5"].map encode) =
      .error (.replied (commandName (some (encode "linger"))) (.badHead "-1.5" .notDigit)) := by
  constructor
  · have misread : Misread "-9223372036854775809x" .tooSmall := by decide
    exact ((ofCommandLine_head .escaped (encode "linger")).2.1 _).2 ⟨_, misread, rfl⟩
  · have misread : Misread "-1.5" .notDigit := by decide
    have numeric : Numeric ['1', '.', '5'] :=
      ⟨['1'], ['.', '5'], [], rfl, by decide, by simp [Decimal],
        .inr ⟨['5'], rfl, by simp [Decimal]⟩, .inl rfl⟩
    have heads : Heads "-1.5" := .dashed rfl (.inr numeric)
    exact ((ofCommandLine_head (.alone heads) (encode "linger")).2.1 _).2 ⟨_, misread, rfl⟩

end Queue

end LingerChain
