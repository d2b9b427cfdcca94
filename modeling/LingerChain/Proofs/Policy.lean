/-
This file shows that the policy of a node keeps its duration exactly, and that the log tells every
policy apart.
-/

import LingerChain.Log.Note
import LingerChain.Proofs.Fraction
import LingerChain.Proofs.Numeral

namespace LingerChain

namespace Span

/-- Less than a second is written as a whole number of milliseconds. -/
theorem ofMillis_short {millis : Nat} (given : 0 < millis) (short : millis < 1000) :
    (ofMillis millis).text = toString millis ++ "ms" := by
  have seconds : millis / 1000 = 0 := Nat.div_eq_of_lt short
  have nothing : fraction 6 0 = [] := rfl
  rw [text, ofMillis]
  simp only [seconds, Nat.mod_eq_of_lt short]
  rw [if_neg (by decide), if_pos (by omega), Nat.mul_div_cancel _ (by decide), Nat.mul_mod_left]
  simp [decimal, nothing]

/-- A second and more is written as a numeral of the exact number of seconds. -/
theorem ofMillis_long {millis : Nat} (long : 1000 ≤ millis) :
    ∃ numeral : Numeral, (ofMillis millis).text = numeral.text ++ "s" ∧
      numeral.value = millis / 1000 := by
  obtain ⟨numeral, written, exact⟩ :=
    decimal_numeral .seconds (millis / 1000) (ofMillis millis).within
  refine ⟨numeral, ?_, ?_⟩
  · have seconds : 0 < (ofMillis millis).seconds := Nat.div_pos long (by decide)
    rw [text, if_pos seconds]
    exact written
  · have total : millis / 1000 * Measure.seconds.length + (ofMillis millis).nanos =
        millis * 1000000 := by
      change millis / 1000 * 1000000000 + millis % 1000 * 1000000 = millis * 1000000
      omega
    have length : (Measure.seconds.length : ℚ) = 1000000000 := by
      norm_num [Measure.length, Measure.places]
    rw [total, length] at exact
    push_cast at exact
    linarith

end Span

namespace Wait

/-- What the log tells of a duration: it has none, or no end, or its milliseconds, or from one
second on its exact seconds. -/
inductive Told (millis : Int) : String → Prop where
  | exit (zero : millis = 0) : Told millis "Exit"
  | forever (negative : millis < 0) : Told millis "Forever"
  | short (positive : 0 < millis) (less : millis < 1000) :
      Told millis ("Sleep(" ++ toString millis ++ "ms)")
  | long {numeral : Numeral} (more : 1000 ≤ millis) (exact : numeral.value = millis / 1000) :
      Told millis ("Sleep(" ++ numeral.text ++ "s)")

/-- There is one thing to tell of a duration. -/
theorem Told.unique {millis : Int} {first second : String} (left : Told millis first)
    (right : Told millis second) : first = second := by
  cases left with
  | exit zero =>
      cases right with
      | exit => rfl
      | forever | short | long => omega
  | forever negative =>
      cases right with
      | forever => rfl
      | exit | short | long => omega
  | short positive less =>
      cases right with
      | short => rfl
      | exit | forever | long => omega
  | @long numeral more exact =>
      cases right with
      | @long other _ equal => rw [Numeral.value_injective (exact.trans equal.symm)]
      | exit | forever | short => omega

theorem ofMillis_positive {millis : Millis} (positive : 0 < millis.value) :
    ofMillis millis = sleep (Span.ofMillis millis.value.toNat) := by
  rw [ofMillis, if_neg (by omega), if_pos positive]

theorem told_ofMillis (millis : Millis) : Told millis.value (ofMillis millis).text := by
  rcases Int.lt_trichotomy millis.value 0 with negative | zero | positive
  · rw [ofMillis_negative negative]
    exact .forever negative
  · rw [ofMillis, if_pos zero]
    exact .exit zero
  obtain ⟨count, value⟩ := Int.eq_ofNat_of_zero_le (Int.le_of_lt positive)
  rw [ofMillis_positive positive, text, value, Int.toNat_natCast]
  by_cases less : count < 1000
  · have told : Told count ("Sleep(" ++ toString count ++ "ms)") := .short (by omega) (by omega)
    rw [Span.ofMillis_short (by omega) less]
    simpa [String.append_assoc] using told
  · obtain ⟨numeral, written, exact⟩ := @Span.ofMillis_long count (by omega)
    have told : Told count ("Sleep(" ++ numeral.text ++ "s)") :=
      .long (by omega) (by simpa using exact)
    rw [written]
    simpa [String.append_assoc] using told

/-- A positive duration is slept for, and no part of a millisecond is added or lost. -/
theorem ofMillis_exact {millis : Millis} (positive : 0 < millis.value) :
    ∃ span, ofMillis millis = sleep span ∧
      (span.seconds * 1000 + span.nanos / 1000000 : Nat) = millis.value ∧
      1000000 ∣ span.nanos ∧ span.nanos < 1000000000 := by
  refine ⟨_, ofMillis_positive positive, ?_, ?_, (Span.ofMillis _).within⟩
  · simp only [Span.ofMillis]
    omega
  · simp only [Span.ofMillis]
    exact Nat.dvd_mul_left 1000000 _

/-- The milliseconds of a policy, if they come to an end. -/
def millis? : Wait → Option Nat
  | exit => some 0
  | sleep span => some span.toMillis
  | forever => none

theorem millis?_ofMillis (millis : Millis) :
    (ofMillis millis).millis? = if millis.value < 0 then none else some millis.value.toNat := by
  rcases Int.lt_trichotomy millis.value 0 with negative | zero | positive
  · rw [ofMillis_negative negative, if_pos negative, millis?]
  · rw [ofMillis, if_pos zero, zero]
    rfl
  · rw [ofMillis_positive positive, if_neg (by omega), millis?, Span.toMillis, Span.ofMillis,
      Nat.mul_div_cancel _ (by decide), Nat.div_add_mod']

/-- A policy keeps the duration that it is made from, unless that is negative. -/
theorem ofMillis_same {first second : Millis} :
    ofMillis first = ofMillis second ↔
      first = second ∨ first.value < 0 ∧ second.value < 0 := by
  constructor
  · intro same
    have kept := congrArg millis? same
    rw [millis?_ofMillis, millis?_ofMillis] at kept
    split at kept <;> split at kept
    · exact .inr ⟨‹_›, ‹_›⟩
    · contradiction
    · contradiction
    · have equal := Option.some.inj kept
      exact .inl (Millis.value_injective (by omega))
  · rintro (rfl | ⟨left, right⟩)
    · rfl
    · rw [ofMillis_negative left, ofMillis_negative right]

/-- The first letter tells the kinds of policies apart. -/
theorem text_first (wait : Wait) : wait.text.toList.head? =
    some (match wait with | exit => 'E' | sleep _ => 'S' | forever => 'F') := by
  cases wait <;> simp [text]

theorem text_injective {first second : Wait} (same : first.text = second.text) :
    first = second := by
  have firsts := text_first first
  rw [same, text_first] at firsts
  cases first with
  | exit =>
      cases second with
      | exit => rfl
      | sleep | forever => simp at firsts
  | sleep span =>
      cases second with
      | sleep other =>
          have spans : span.text = other.text := by simpa [text] using same
          rw [Span.text_injective spans]
      | exit | forever => simp at firsts
  | forever =>
      cases second with
      | forever => rfl
      | exit | sleep => simp at firsts

theorem message_applying (display : Display) (wait : Wait) :
    (Note.applying wait).message display = "Applying " ++ wait.text := rfl

/-- A positive duration is slept for to the millisecond. Two durations have one policy only if they
are equal or both without end, and the log tells all policies apart: it names the milliseconds of a
duration below one second, and from there on the exact seconds. -/
theorem ofMillis_told :
    (∀ millis : Millis, 0 < millis.value → ∃ span, ofMillis millis = sleep span ∧
      (span.seconds * 1000 + span.nanos / 1000000 : Nat) = millis.value ∧
      1000000 ∣ span.nanos ∧ span.nanos < 1000000000) ∧
    (∀ first second : Millis, ofMillis first = ofMillis second ↔
      first = second ∨ first.value < 0 ∧ second.value < 0) ∧
    (∀ (display : Display) (first second : Wait),
      (Note.applying first).message display = (Note.applying second).message display ↔
        first = second) ∧
    ∀ (display : Display) (millis : Millis) (text : String),
      (Note.applying (ofMillis millis)).message display = "Applying " ++ text ↔
        Told millis.value text := by
  refine ⟨fun _ => ofMillis_exact, fun _ _ => ofMillis_same, fun display first second => ?_,
    fun display millis text => ?_⟩
  · rw [message_applying, message_applying, String.append_right_inj]
    exact ⟨text_injective, congrArg Wait.text⟩
  · rw [message_applying, String.append_right_inj]
    have told := told_ofMillis millis
    exact ⟨fun same => same ▸ told, told.unique⟩

/-- The longest duration is slept for without a loss and written to its last place, and a zero
behind the point is written if another digit follows. -/
theorem ofMillis_told_longest :
    let longest : Millis := ⟨9223372036854775807, by decide, by decide⟩
    0 < longest.value ∧
      (∃ span, ofMillis longest = sleep span ∧
        (span.seconds * 1000 + span.nanos / 1000000 : Nat) = longest.value ∧
        1000000 ∣ span.nanos ∧ span.nanos < 1000000000) ∧
      (Note.applying (ofMillis longest)).message .full =
        "Applying Sleep(9223372036854775.807s)" ∧
      (Note.applying (ofMillis ⟨1050, by decide, by decide⟩)).message .full =
        "Applying Sleep(1.05s)" := by
  intro longest
  have positive : 0 < longest.value := by decide
  refine ⟨positive, ofMillis_told.1 longest positive, ?_, ?_⟩
  · let numeral : Numeral := ⟨9223372036854775, ['8', '0', '7'], by simp [Decimal], by decide⟩
    have written : "Sleep(" ++ numeral.text ++ "s)" = "Sleep(9223372036854775.807s)" := by decide
    have places : Nat.ofDigitChars 10 ['8', '0', '7'] 0 = 807 := by decide
    have exact : numeral.value = longest.value / 1000 := by
      norm_num [numeral, longest, Numeral.value, places]
    have told := @Told.long longest.value numeral (by decide) exact
    rw [written] at told
    exact (ofMillis_told.2.2.2 .full longest _).2 told
  · let numeral : Numeral := ⟨1, ['0', '5'], by simp [Decimal], by decide⟩
    have written : "Sleep(" ++ numeral.text ++ "s)" = "Sleep(1.05s)" := by decide
    have places : Nat.ofDigitChars 10 ['0', '5'] 0 = 5 := by decide
    have exact : numeral.value = (1050 : Int) / 1000 := by
      norm_num [numeral, Numeral.value, places]
    have told := @Told.long 1050 numeral (by decide) exact
    rw [written] at told
    exact (ofMillis_told.2.2.2 .full ⟨1050, by decide, by decide⟩ _).2 told

end Wait

end LingerChain
