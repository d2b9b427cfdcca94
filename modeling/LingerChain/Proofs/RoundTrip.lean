/-
This file writes queues out as command lines and shows which of these are read back.
-/

import LingerChain.Proofs.Grammar

namespace LingerChain

/-- A sign and the decimal digits of a magnitude denote a duration. -/
theorem denotes_digits {text : String} {millis : Millis} {sign : Sign} {magnitude : Nat}
    (spelt : text.toList = sign.text ++ Nat.toDigits 10 magnitude)
    (value : millis.value = sign.apply magnitude) : Denotes text millis := by
  refine ⟨sign, _, spelt, Nat.toDigits_ne_nil, fun digit member => ?_, ?_⟩
  · exact Nat.isDigit_of_mem_toDigits (by decide) (by decide) member
  · rw [value, Nat.ofDigitChars_ten_toDigits]

/-- The decimal form of a duration denotes it. -/
theorem Millis.text_denotes (millis : Millis) : Denotes millis.text millis := by
  have spelt : millis.text = millis.value.repr := Int.toString_eq_repr
  rw [Int.repr_eq_if] at spelt
  split at spelt
  · rename_i positive
    apply @denotes_digits _ _ .none millis.value.toNat
    · rw [spelt, Nat.toList_repr]
      rfl
    · exact (Int.toNat_of_nonneg positive).symm
  · apply @denotes_digits _ _ .minus (-millis.value).toNat
    · rw [spelt, String.toList_append, Nat.toList_repr]
      rfl
    · rw [Sign.apply]
      omega

namespace Queue

/-- A queue is written as its head in decimal form, with its tail behind it. -/
def words (queue : Queue) : List String := queue.head.text :: queue.tail

/-- The escape in front makes values of all the words of a queue. -/
def escaped (queue : Queue) : List String := "--" :: queue.words

theorem ofCommandLine_escaped (program : Bytes) (queue : Queue) :
    ofCommandLine (program :: queue.escaped.map encode) = .ok queue :=
  ofArguments_spells (.escapeFirst queue.head.text_denotes queue.tail)

/-- Without the escape in front a tail is read back exactly if it is empty or begins with a plain
text. -/
theorem ofCommandLine_words (program : Bytes) (queue : Queue) :
    ofCommandLine (program :: queue.words.map encode) = .ok queue ↔
      queue.tail = [] ∨ ∃ next rest, queue.tail = next :: rest ∧ Plain next := by
  obtain ⟨head, tail⟩ := queue
  have denotes := head.text_denotes
  change ofArguments (some program) ((head.text :: tail).map encode) = .ok _ ↔ _
  constructor
  · intro read
    rcases tail with _ | ⟨next, rest⟩
    · exact .inl rfl
    refine .inr ⟨next, rest, rfl, ?_⟩
    rcases token_cases next with rfl | ⟨flag, asks⟩ | ⟨value, flag, attaches⟩ | plain
    · -- The escape can be read, but then it is no part of the tail.
      rw [ofArguments_spells (.escapeSecond denotes rest)] at read
      simp at read
    · rw [ofArguments_asks denotes asks] at read
      contradiction
    · rw [ofArguments_attaches denotes attaches] at read
      contradiction
    · exact plain
  · rintro (rfl | ⟨next, rest, rfl, plain⟩)
    · exact ofArguments_spells (.headAlone denotes)
    · exact ofArguments_spells (.plainSecond denotes plain rest)

/-- A queue that is written behind the escape is read back. Without the escape it is read back if
and only if its tail is empty or begins with a plain text. Whatever has been read can be written
behind the escape and is read again. -/
theorem ofCommandLine_written :
    (∀ (program : Bytes) (queue : Queue),
      ofCommandLine (program :: queue.escaped.map encode) = .ok queue) ∧
    (∀ (program : Bytes) (queue : Queue),
      ofCommandLine (program :: queue.words.map encode) = .ok queue ↔
        queue.tail = [] ∨ ∃ next rest, queue.tail = next :: rest ∧ Plain next) ∧
    ∀ (commandLine : List Bytes) (queue : Queue), ofCommandLine commandLine = .ok queue →
      ∀ program, ofCommandLine (program :: queue.escaped.map encode) = .ok queue :=
  ⟨ofCommandLine_escaped, ofCommandLine_words,
    fun _ queue _ program => ofCommandLine_escaped program queue⟩

/-- A tail that begins with a flag comes from behind an escape and goes back there. -/
theorem ofCommandLine_written_flag :
    let queue : Queue := ⟨⟨-7, by decide, by decide⟩, ["--help", "--"]⟩
    ofCommandLine (["linger", "-007", "--", "--help", "--"].map encode) = .ok queue ∧
      ofCommandLine (["linger", "--", "-7", "--help", "--"].map encode) = .ok queue ∧
      ofCommandLine (["linger", "-7", "--help", "--"].map encode) ≠ .ok queue := by
  intro queue
  have read : ofCommandLine (["linger", "-007", "--", "--help", "--"].map encode) = .ok queue := rfl
  have asks : Asks "--help" .help := .inl rfl
  refine ⟨read, ofCommandLine_written.2.2 _ queue read (encode "linger"), fun again => ?_⟩
  rcases (ofCommandLine_written.2.1 (encode "linger") queue).1 again with none | ⟨_, _, same, plain⟩
  · contradiction
  · obtain ⟨rfl, _⟩ := List.cons.inj same
    exact plain.notAsked .help asks

end Queue

end LingerChain
