/-
This file says which part of a path names the program, and shows that the program takes that name
and keeps it.
-/

import LingerChain.Proofs.Argument
import LingerChain.Proofs.Repair

namespace LingerChain

open Bytes

namespace Path

/-- The parts of a path stand between its separators. -/
structure Parts (path : Bytes) (parts : List Bytes) : Prop where
  given : parts ≠ []
  apart : ∀ part ∈ parts, separator ∉ part
  joined : [separator].intercalate parts = path

/-- An idle part is empty or stays in the same place. -/
def Idle (part : Bytes) : Prop := part = [] ∨ part = here
  deriving Decidable

/-- The last part of a path that is not idle has only idle parts behind it. -/
def Last (path name : Bytes) : Prop :=
  ∃ before after, Parts path (before ++ name :: after) ∧ ¬ Idle name ∧ ∀ part ∈ after, Idle part

theorem not_mem_splitOn {path part : Bytes} (member : part ∈ path.splitOn separator) :
    separator ∉ part := by
  induction path generalizing part with
  | nil => simp_all [List.splitOn_nil]
  | cons byte rest ih =>
      rw [List.splitOn, List.splitOnP_cons_eq_if_modifyHead] at member
      split at member
      · rcases List.mem_cons.1 member with rfl | later
        · exact List.not_mem_nil
        · exact ih later
      · rename_i different
        obtain ⟨first, others, split⟩ :=
          List.exists_cons_of_ne_nil (List.splitOn_ne_nil separator rest)
        rw [← List.splitOn, split, List.modifyHead_cons] at member
        rw [split] at ih
        rcases List.mem_cons.1 member with rfl | later
        · intro inside
          rcases List.mem_cons.1 inside with rfl | inside
          · exact different BEq.rfl
          · exact ih List.mem_cons_self inside
        · exact ih (List.mem_cons_of_mem _ later)

theorem parts_iff {path : Bytes} {parts : List Bytes} :
    Parts path parts ↔ parts = path.splitOn separator := by
  constructor
  · rintro ⟨given, apart, rfl⟩
    exact (List.splitOn_intercalate separator apart given).symm
  · rintro rfl
    exact ⟨List.splitOn_ne_nil _ _, fun _ => not_mem_splitOn, List.intercalate_splitOn separator⟩

/-- What is not idle names something. -/
theorem idle_iff (part : Bytes) : Idle part ↔ ¬ (part ≠ [] ∧ part ≠ here) := by
  rw [Idle, not_and_or, not_not, not_not]

theorem segments_last {path name : Bytes} :
    (segments path).getLast? = some name ↔ Last path name := by
  simp only [segments, Last, List.getLast?_filter, List.find?_eq_some_iff_append, parts_iff,
    idle_iff, not_not, Bool.not_eq_eq_eq_not, Bool.not_true, decide_eq_true_eq,
    decide_eq_false_iff_not]
  constructor
  · rintro ⟨names, after, before, reversed, idle⟩
    have split := congrArg List.reverse reversed
    simp only [List.reverse_reverse, List.reverse_append, List.reverse_cons, List.append_assoc,
      List.singleton_append] at split
    exact ⟨before.reverse, after.reverse, split.symm, names,
      fun part member => idle part (List.mem_reverse.1 member)⟩
  · rintro ⟨before, after, split, names, idle⟩
    refine ⟨names, after.reverse, before.reverse, ?_,
      fun part member => idle part (List.mem_reverse.1 member)⟩
    rw [← split]
    simp

theorem segments_none {path : Bytes} :
    (segments path).getLast? = none ↔ ∃ parts, Parts path parts ∧ ∀ part ∈ parts, Idle part := by
  simp only [segments, List.getLast?_eq_none_iff, List.filter_eq_nil_iff, parts_iff, exists_eq_left,
    idle_iff, decide_eq_true_eq]

/-- A path has a file name if its last part that is not idle does not lead above. -/
theorem fileName?_some {path name : Bytes} :
    fileName? path = some name ↔ Last path name ∧ name ≠ above := by
  rw [fileName?, Option.filter_eq_some_iff, segments_last, decide_eq_true_eq]

theorem fileName?_none {path : Bytes} :
    fileName? path = none ↔
      Last path above ∨ ∃ parts, Parts path parts ∧ ∀ part ∈ parts, Idle part := by
  rw [fileName?, Option.filter_eq_none_iff, ← segments_none, ← segments_last]
  cases (segments path).getLast? <;> simp

/-- A file name is one part of a path. -/
theorem Last.part {path name : Bytes} (last : Last path name) :
    separator ∉ name ∧ name ≠ [] ∧ name ≠ here := by
  obtain ⟨before, after, parts, names, _⟩ := last
  exact ⟨parts.apart name (by simp), fun nothing => names (.inl nothing),
    fun same => names (.inr same)⟩

/-- A part by itself is a path that names it. -/
theorem last_alone {name : Bytes} (apart : separator ∉ name) (names : ¬ Idle name) :
    Last name name :=
  ⟨[], [], ⟨by simp, by simpa using apart, by simp⟩, names, by simp⟩

end Path

open LingerChain.Path

/-- The separator of a path is a character of its own and part of no other. -/
theorem separator_mem {bytes : Bytes} : separator ∈ bytes ↔ Piece.char '/' ∈ pieces bytes := by
  constructor
  · intro member
    obtain ⟨front, back, rfl⟩ := List.append_of_mem member
    have read : pieces (front ++ separator :: back) = _ :=
      @Utf8.scanAppendOne none 47 (by decide) trivial front back
    rw [read]
    exact List.mem_append_right _ List.mem_cons_self
  · intro member
    have inside : separator ∈ Word.bytes (pieces bytes) :=
      List.mem_flatMap.2 ⟨_, member, List.mem_singleton_self _⟩
    rwa [bytesPieces] at inside

/-- A broken run is shown by the replacement character and never by another. -/
theorem shown_eq {piece : Piece} {letter : Char} (sound : letter ≠ '\ufffd')
    (shown : piece.shown = letter) : piece = .char letter := by
  cases piece with
  | char value => rw [← shown, Piece.shown]
  | invalid bytes => exact absurd shown.symm sound

theorem lossy_encode (text : String) : Bytes.lossy (encode text) = text := by
  rw [Bytes.lossy, piecesEncode, Word.ofString, lossyOfChars, String.ofList_toList]

/-- Bytes that are shown without the replacement character are the text that is shown. -/
theorem lossy_sound {bytes : Bytes} {text : String} (sound : '\ufffd' ∉ text.toList)
    (shown : Bytes.lossy bytes = text) : bytes = encode text := by
  rw [← pieces_text, Word.ofString]
  have letters : (pieces bytes).map Piece.shown = text.toList := by
    rw [← shown, Bytes.lossy, Word.lossy, String.toList_ofList]
  generalize pieces bytes = word at letters
  generalize text.toList = all at sound letters
  subst letters
  induction word with
  | nil => rfl
  | cons piece rest ih =>
      simp only [List.map_cons, List.mem_cons, not_or] at sound
      rw [List.map_cons, Word.ofChars, List.map_cons, ← shown_eq (Ne.symm sound.1) rfl]
      exact congrArg _ (ih sound.2)

/-- A path names a program after its last part that is not idle, and broken runs of bytes are
replaced. Without such a part, or if that leads above, the program has the name of its package. -/
inductive Names : Option Bytes → String → Prop where
  | absent : Names none packageName
  | idle {path : Bytes} {parts : List Bytes} (split : Parts path parts)
      (idle : ∀ part ∈ parts, Idle part) : Names (some path) packageName
  | above {path : Bytes} (last : Last path above) : Names (some path) packageName
  | last {path name : Bytes} {word : Word} (last : Last path name) (below : name ≠ above)
      (reads : Reads name word) : Names (some path) (String.ofList (word.map Piece.shown))

theorem programName_names (path : Option Bytes) : Names path (programName path) := by
  cases path with
  | none => exact .absent
  | some path =>
      cases named : fileName? path with
      | none =>
          have fallback : programName (some path) = packageName := by simp [programName, named]
          rw [fallback]
          rcases fileName?_none.1 named with last | ⟨parts, split, idle⟩
          · exact .above last
          · exact .idle split idle
      | some name =>
          have shown : programName (some path) = Bytes.lossy name := by simp [programName, named]
          obtain ⟨last, below⟩ := fileName?_some.1 named
          rw [shown]
          exact .last last below (reads_pieces name)

theorem Names.unique {path : Option Bytes} {name : String} (names : Names path name) :
    programName path = name := by
  cases names with
  | absent => rfl
  | @idle path parts split idle =>
      rw [programName, Option.bind_some, fileName?_none.2 (.inr ⟨parts, split, idle⟩)]
      rfl
  | @above path last =>
      rw [programName, Option.bind_some, fileName?_none.2 (.inl last)]
      rfl
  | @last path name word last below reads =>
      rw [programName, Option.bind_some, fileName?_some.2 ⟨last, below⟩, reads.unique]
      rfl

/-- A text that is neither empty nor a way through directories, and has no separator, is kept as a
name. -/
theorem programName_encode {text : String} (given : text ≠ "") (apart : '/' ∉ text.toList)
    (moves : text ≠ ".") (leaves : text ≠ "..") : programName (some (encode text)) = text := by
  have alone : separator ∉ encode text := by
    rw [separator_mem, piecesEncode, Word.ofString, Word.ofChars]
    simpa using apart
  have names : ¬ Idle (encode text) := by
    rintro (nothing | same)
    · exact given (@encode_injective text "" nothing)
    · exact moves (@encode_injective text "." same)
  have below : encode text ≠ above := fun same => leaves (@encode_injective text ".." same)
  have named := (Names.last (last_alone alone names) below (reads_pieces (encode text))).unique
  exact named.trans (lossy_encode text)

/-- A program that is started by its name alone keeps it. -/
theorem programName_kept (path : Option Bytes) :
    programName path ≠ "" ∧ '/' ∉ (programName path).toList ∧
      programName (some (encode (programName path))) = programName path := by
  have kept {text : String} (given : text ≠ "") (apart : '/' ∉ text.toList) (moves : text ≠ ".")
      (leaves : text ≠ "..") : text ≠ "" ∧ '/' ∉ text.toList ∧
        programName (some (encode text)) = text :=
    ⟨given, apart, programName_encode given apart moves leaves⟩
  have package := @kept packageName (by decide) (by decide) (by decide) (by decide)
  have named := programName_names path
  generalize programName path = text at named ⊢
  cases named with
  | absent | idle | above => exact package
  | @last path name word last below reads =>
      rw [reads.unique]
      obtain ⟨apart, given, moves⟩ := last.part
      have sound {other : String} (plain : '\ufffd' ∉ other.toList)
          (different : name ≠ encode other) : Bytes.lossy name ≠ other :=
        fun shown => different (lossy_sound plain shown)
      refine kept (sound (by simp) given) ?_ (sound (by simp) moves) (sound (by simp) below)
      intro member
      rw [String.toList_ofList] at member
      obtain ⟨piece, inside, shown⟩ := List.mem_map.1 member
      rw [shown_eq (by decide) shown] at inside
      exact apart (separator_mem.2 inside)

/-- The program has the name that its path gives it, by the last part that is not idle. If that part
is a text, it is the name as it stands. The name is never empty, has no separator, and is its own
name. -/
theorem programName_lastPart :
    (∀ path name, programName path = name ↔ Names path name) ∧
    (∀ path text, Last path (encode text) → text ≠ ".." → programName (some path) = text) ∧
    ∀ path, programName path ≠ "" ∧ '/' ∉ (programName path).toList ∧
      programName (some (encode (programName path))) = programName path := by
  refine ⟨fun path name => ⟨?_, Names.unique⟩, fun path text last leaves => ?_, programName_kept⟩
  · rintro rfl
    exact programName_names path
  · have below : encode text ≠ above := fun same => leaves (@encode_injective text ".." same)
    exact (Names.last last below (reads_pieces _)).unique.trans (lossy_encode text)

/-- Empty parts and parts that stay in place are passed over on both sides of the name. -/
theorem programName_lastPart_between :
    let path := encode "/usr/..//./ré/.//"
    Last path (encode "ré") ∧ "ré" ≠ ".." ∧ programName (some path) = "ré" := by
  intro path
  have last : Last path (encode "ré") :=
    ⟨["", "usr", "..", "", "."].map encode, [".", "", ""].map encode,
      ⟨by decide, by decide, by decide⟩, by decide, by decide⟩
  exact ⟨last, by decide, programName_lastPart.2.1 path "ré" last (by decide)⟩

end LingerChain
