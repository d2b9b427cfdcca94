/-
This file tells what a text does to a command line when it stands behind the head.
-/

import LingerChain.Proofs.FirstWords
import LingerChain.Text.Encoding
import Mathlib.Data.List.TakeDrop

namespace LingerChain

/-- A text asks for a flag by its name, or by a group of flag letters that begins with its own. -/
def Asks (text : String) : Flag → Prop
  | .help => text = "--help" ∨ ∃ others, text.toList = '-' :: 'h' :: others ∧
      ∀ letter ∈ others, letter = 'h' ∨ letter = 'V'
  | .version => text = "--version" ∨ ∃ others, text.toList = '-' :: 'V' :: others ∧
      ∀ letter ∈ others, letter = 'h' ∨ letter = 'V'

/-- A text attaches a value to a flag behind an equals sign. -/
def Attaches (text value : String) : Flag → Prop
  | .help => text = "--help=" ++ value
  | .version => text = "--version=" ++ value

/-- A plain text is neither the escape nor a flag, so it stays where it stands. -/
structure Plain (text : String) : Prop where
  notEscape : text ≠ "--"
  notAsked : ∀ flag, ¬ Asks text flag
  notAttached : ∀ value flag, ¬ Attaches text value flag

/-- What stands behind the head is the escape, asks for a flag, attaches a value to one, or is
plain. -/
theorem token_cases (text : String) :
    text = "--" ∨ (∃ flag, Asks text flag) ∨ (∃ value flag, Attaches text value flag) ∨
      Plain text := by
  by_cases escape : text = "--"
  · exact .inl escape
  by_cases asks : ∃ flag, Asks text flag
  · exact .inr (.inl asks)
  by_cases attaches : ∃ value flag, Attaches text value flag
  · exact .inr (.inr (.inl attaches))
  · exact .inr (.inr (.inr ⟨escape, not_exists.1 asks, fun value flag given =>
      attaches ⟨value, flag, given⟩⟩))

namespace Flag

theorem ofName?_some {name : String} {flag : Flag} :
    ofName? name = some flag ↔ name = flag.name := by
  cases flag <;> simp [ofName?, all, List.find?, Flag.name] <;> grind

theorem ofLetter?_some {letter : Char} {flag : Flag} :
    ofLetter? letter = some flag ↔ letter = flag.letter := by
  cases flag <;> simp [ofLetter?, all, List.find?, Flag.letter] <;> grind

theorem name_noEquals (flag : Flag) : '=' ∉ flag.name.toList := by
  cases flag <;> decide

theorem isFlagLetter {letter : Char} :
    (ofLetter? letter).isSome = true ↔ letter = 'h' ∨ letter = 'V' := by
  simp only [Option.isSome_iff_exists, ofLetter?_some]
  constructor
  · rintro ⟨flag, rfl⟩
    cases flag
    · exact .inl rfl
    · exact .inr rfl
  · rintro (rfl | rfl)
    · exact ⟨.help, rfl⟩
    · exact ⟨.version, rfl⟩

end Flag

theorem asks_spelt {text : String} {flag : Flag} :
    Asks text flag ↔ text.toList = '-' :: '-' :: flag.name.toList ∨
      ∃ others, text.toList = '-' :: flag.letter :: others ∧
        ∀ letter ∈ others, letter = 'h' ∨ letter = 'V' := by
  cases flag <;> simp only [Asks, ← String.toList_inj] <;> rfl

theorem attaches_spelt {text value : String} {flag : Flag} :
    Attaches text value flag ↔
      text.toList = '-' :: '-' :: flag.name.toList ++ '=' :: value.toList := by
  cases flag <;> simp only [Attaches, ← String.toList_inj, String.toList_append] <;> rfl

/-- A text that begins with no dash is plain. -/
theorem plain_undashed {text : String} {first : Char} {others : List Char}
    (spelt : text.toList = first :: others) (different : first ≠ '-') : Plain text where
  notEscape := by
    rintro rfl
    injection spelt with dash
    exact different dash.symm
  notAsked flag asks := by
    rcases asks_spelt.1 asks with given | ⟨_, given, _⟩ <;>
    · rw [spelt] at given
      injection given with dash
      exact different dash
  notAttached value flag attaches := by
    have given := attaches_spelt.1 attaches
    rw [spelt] at given
    injection given with dash
    exact different dash

/-- What follows the name of a long flag. -/
def attachment {A : Type} (mark : A) : Option (List A) → List A
  | none => []
  | some value => mark :: value

/-- Whatever stands behind two dashes is a name with an attachment. -/
theorem exists_attachment {A : Type} (mark : A) (body : List A) :
    ∃ name value, mark ∉ name ∧ body = name ++ attachment mark value := by
  induction body with
  | nil => exact ⟨[], none, by simp, rfl⟩
  | cons letter rest ih =>
      by_cases equals : letter = mark
      · exact ⟨[], some rest, by simp, by rw [equals]; rfl⟩
      · obtain ⟨name, value, unmarked, rfl⟩ := ih
        exact ⟨letter :: name, value, by simp [unmarked, Ne.symm equals], rfl⟩

theorem attachment_map {A B : Type} (read : A → B) (mark : A) (value : Option (List A)) :
    (attachment mark value).map read = attachment (read mark) (value.map (List.map read)) := by
  cases value <;> rfl

namespace Shape

theorem ofLong_named {name : Word} (noEquals : .char '=' ∉ name) (value : Option Word) :
    ofLong (name ++ attachment (.char '=') value) = long name value := by
  have named : ∀ piece ∈ name, decide (piece ≠ .char '=') = true := by
    intro piece member
    exact decide_eq_true fun equals => noEquals (equals ▸ member)
  unfold ofLong
  rw [List.span_eq_takeWhile_dropWhile, List.takeWhile_append_of_pos named,
    List.dropWhile_append_of_pos named]
  cases value <;> simp [attachment]

theorem ofWord_named {name : Word} (noEquals : .char '=' ∉ name) (value : Option Word)
    (given : name ++ attachment (.char '=') value ≠ []) :
    ofWord (.char '-' :: .char '-' :: (name ++ attachment (.char '=') value)) =
      long name value := by
  rw [← ofLong_named noEquals value]
  obtain ⟨first, others, spelt⟩ := List.exists_cons_of_ne_nil given
  rw [spelt]
  rfl

theorem ofWord_letters {first : Piece} (others : Word) (different : first ≠ .char '-') :
    ofWord (.char '-' :: first :: others) = short first others := by
  unfold ofWord
  split <;> simp_all

theorem ofWord_undashed {first : Piece} (others : Word) (different : first ≠ .char '-') :
    ofWord (first :: others) = value := by
  unfold ofWord
  split <;> simp_all

end Shape

/-- A letter that is no dash is no dash as a piece. -/
theorem piece_undashed {letter : Char} (different : letter ≠ '-') : Piece.char letter ≠ .char '-' :=
  fun same => different (Piece.char.inj same)

theorem textOfChars (characters : List Char) :
    (Word.ofChars characters).text? = some (String.ofList characters) := by
  rw [Word.text?, charsOfChars, Option.map_some]

theorem lossyOfChars (characters : List Char) :
    Word.lossy (Word.ofChars characters) = String.ofList characters := by
  simp [Word.lossy, Word.ofChars, Function.comp_def, Piece.shown]

namespace Request

variable (head : Word) (rest : List Word)

theorem afterHead_escape : afterHead head (Word.ofString "--" :: rest) = queue head rest := rfl

/-- A long word is a flag by its name alone. -/
theorem afterHead_named {name : List Char} (noEquals : '=' ∉ name) (value : Option (List Char))
    (given : name ++ attachment '=' value ≠ []) :
    afterHead head (Word.ofChars ('-' :: '-' :: (name ++ attachment '=' value)) :: rest) =
      match Flag.ofName? (String.ofList name), value with
      | none, _ => queue head (Word.ofChars ('-' :: '-' :: (name ++ attachment '=' value)) :: rest)
      | some flag, none => headThen head (.requested flag)
      | some flag, some value => answered (.attachedValue flag (String.ofList value)) := by
  have spelt : Word.ofChars ('-' :: '-' :: (name ++ attachment '=' value)) =
      .char '-' :: .char '-' ::
        (Word.ofChars name ++ attachment (.char '=') (value.map Word.ofChars)) := by
    simp only [Word.ofChars, List.map_cons, List.map_append, attachment_map]
    rfl
  have unmarked : Piece.char '=' ∉ Word.ofChars name := by simpa [Word.ofChars] using noEquals
  have longer : Word.ofChars name ++ attachment (.char '=') (value.map Word.ofChars) ≠ [] := by
    cases value <;> simp_all [attachment, Word.ofChars]
  simp only [afterHead, spelt, Shape.ofWord_named unmarked _ longer, textOfChars]
  cases Flag.ofName? (String.ofList name) <;> cases value <;> simp [ofFlag, lossyOfChars]

/-- A group of letters is a flag only if all of them are flag letters. -/
theorem afterHead_letters {first : Char} (others : List Char) (different : first ≠ '-') :
    afterHead head (Word.ofChars ('-' :: first :: others) :: rest) =
      match Flag.ofLetter? first with
      | some flag =>
          if others.all fun letter => (Flag.ofLetter? letter).isSome then
            headThen head (.requested flag)
          else queue head (Word.ofChars ('-' :: first :: others) :: rest)
      | none => queue head (Word.ofChars ('-' :: first :: others) :: rest) := by
  have all : ((Word.ofChars others).all fun piece => (ofLetter? piece).isSome) =
      others.all fun letter => (Flag.ofLetter? letter).isSome := by
    rw [Word.ofChars, List.all_map]
    rfl
  simp only [afterHead, Word.ofChars, List.map_cons,
    Shape.ofWord_letters _ (piece_undashed different)]
  rw [← Word.ofChars, all]
  rfl

theorem afterHead_asks {text : String} {flag : Flag} (asks : Asks text flag) :
    afterHead head (Word.ofString text :: rest) = headThen head (.requested flag) := by
  unfold Word.ofString
  rcases asks_spelt.1 asks with spelt | ⟨others, spelt, letters⟩
  · have named := afterHead_named head rest flag.name_noEquals none (by cases flag <;> decide)
    rw [String.ofList_toList, Flag.ofName?_some.2 rfl] at named
    rw [spelt]
    simpa [attachment] using named
  · rw [spelt, afterHead_letters head rest others (by cases flag <;> decide),
      Flag.ofLetter?_some.2 rfl]
    exact if_pos (List.all_eq_true.2 fun letter member =>
      Flag.isFlagLetter.2 (letters letter member))

theorem afterHead_attaches {text value : String} {flag : Flag}
    (attaches : Attaches text value flag) :
    afterHead head (Word.ofString text :: rest) = answered (.attachedValue flag value) := by
  have named := afterHead_named head rest flag.name_noEquals (some value.toList)
    (by simp [attachment])
  rw [String.ofList_toList, Flag.ofName?_some.2 rfl] at named
  unfold Word.ofString
  rw [attaches_spelt.1 attaches]
  simpa [attachment] using named

theorem afterHead_plainNamed {text : String} (plain : Plain text) {body : List Char}
    (spelt : text.toList = '-' :: '-' :: body) :
    afterHead head (Word.ofString text :: rest) = queue head (Word.ofString text :: rest) := by
  obtain ⟨name, value, noEquals, rfl⟩ := exists_attachment '=' body
  have given : name ++ attachment '=' value ≠ [] := by
    intro nothing
    rw [nothing] at spelt
    exact plain.notEscape (String.toList_inj.1 spelt)
  rw [Word.ofString, spelt, afterHead_named head rest noEquals value given]
  cases found : Flag.ofName? (String.ofList name) with
  | none => rfl
  | some flag =>
      have named : name = flag.name.toList := by
        rw [← Flag.ofName?_some.1 found, String.toList_ofList]
      subst named
      cases value with
      | none =>
          refine absurd (asks_spelt.2 (.inl ?_)) (plain.notAsked flag)
          simpa [attachment] using spelt
      | some value =>
          refine absurd (attaches_spelt.2 ?_) (plain.notAttached (String.ofList value) flag)
          simpa [attachment] using spelt

theorem afterHead_plainLetters {text : String} (plain : Plain text) {first : Char}
    {others : List Char} (different : first ≠ '-') (spelt : text.toList = '-' :: first :: others) :
    afterHead head (Word.ofString text :: rest) = queue head (Word.ofString text :: rest) := by
  rw [Word.ofString, spelt, afterHead_letters head rest others different]
  cases found : Flag.ofLetter? first with
  | none => rfl
  | some flag =>
      simp only
      rw [if_neg]
      intro letters
      refine plain.notAsked flag (asks_spelt.2 (.inr ⟨others, ?_, ?_⟩))
      · rw [spelt, Flag.ofLetter?_some.1 found]
      · intro letter member
        exact Flag.isFlagLetter.1 (List.all_eq_true.1 letters letter member)

/-- A plain text begins the tail. -/
theorem afterHead_plain {text : String} (plain : Plain text) :
    afterHead head (Word.ofString text :: rest) = queue head (Word.ofString text :: rest) := by
  rcases spelt : text.toList with _ | ⟨first, others⟩
  · rw [Word.ofString, spelt]
    rfl
  by_cases dash : first = '-'
  · subst dash
    rcases others with _ | ⟨second, others⟩
    · rw [Word.ofString, spelt]
      rfl
    by_cases twice : second = '-'
    · subst twice
      exact afterHead_plainNamed head rest plain spelt
    · exact afterHead_plainLetters head rest plain twice spelt
  · rw [Word.ofString, spelt, Word.ofChars, List.map_cons, afterHead,
      Shape.ofWord_undashed _ (piece_undashed dash)]

/-- Only a plain text begins the tail. -/
theorem plain_afterHead {text : String}
    (kept : afterHead head (Word.ofString text :: rest) = queue head (Word.ofString text :: rest)) :
    Plain text := by
  rcases token_cases text with rfl | ⟨flag, asks⟩ | ⟨value, flag, attaches⟩ | plain
  · rw [afterHead_escape] at kept
    injection kept with _ shorter
    exact absurd (congrArg List.length shorter) (by simp)
  · rw [afterHead_asks _ _ asks] at kept
    contradiction
  · rw [afterHead_attaches _ _ attaches] at kept
    contradiction
  · exact plain

end Request

end LingerChain
