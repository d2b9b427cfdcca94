/-
This file says why a command line yields no queue, and which reason comes first if there are
several.
-/

import LingerChain.Proofs.Argument
import Mathlib.Data.Set.List

namespace LingerChain

/-- A flag is answered with its own text. -/
def Flag.answer : Flag → ReplyKind
  | .help => .displayHelp
  | .version => .displayVersion

namespace Bytes

/-- A head cannot be read if it is no text, or if it is a text that denotes no duration. -/
inductive BadHead (head : Bytes) : ReplyKind → Prop where
  | notText (broken : ¬ IsText head) : BadHead head .invalidUtf8
  | notDuration (text : IsText head) (other : ¬ IsDuration head) : BadHead head .valueValidation

/-- An argument in first place stands for a head if it begins with no dash, is a lone dash, or looks
like a number behind the dash. -/
inductive Candidate (argument : Bytes) : Prop where
  | undashed (first : argument.head? ≠ some dash)
  | alone (same : argument = encode "-")
  | number (letters : List Char) (lettered : Lettered argument (encodeChars letters))
      (numeric : Numeric letters)

/-- An argument behind a head may be refused whatever the head is. -/
inductive Spoils (argument : Bytes) : ReplyKind → Prop where
  | name {name : Bytes} {value : Option Bytes} (named : Named argument name value)
      (broken : ¬ IsText name) : Spoils argument .unknownArgument
  | value {flag : Flag} {value : Bytes} (named : Named argument (encode flag.name) (some value)) :
      Spoils argument .tooManyValues

/-- An argument calls for a flag if it is a text that asks for it. -/
def Calls (argument : Bytes) (flag : Flag) : Prop := ∃ text, argument = encode text ∧ Asks text flag

end Bytes

open Bytes

/-- The reasons why arguments yield no queue. Of a head and of what follows it, an argument that
spoils comes first, then a bad head, then a flag, and last a tail that is no text. -/
inductive Refuses : List Bytes → ReplyKind → Prop where
  | flag {argument : Bytes} {flag : Flag} (named : Named argument (encode flag.name) none)
      (rest : List Bytes) : Refuses (argument :: rest) flag.answer
  | flagValue {argument value : Bytes} {flag : Flag}
      (named : Named argument (encode flag.name) (some value)) (rest : List Bytes) :
      Refuses (argument :: rest) .tooManyValues
  | unknownName {argument name : Bytes} {value : Option Bytes} (named : Named argument name value)
      (other : ∀ flag : Flag, name ≠ encode flag.name) (rest : List Bytes) :
      Refuses (argument :: rest) .unknownArgument
  | letter {argument others : Bytes} {flag : Flag}
      (lettered : Lettered argument (String.utf8EncodeChar flag.letter ++ others))
      (rest : List Bytes) : Refuses (argument :: rest) flag.answer
  | unknownLetter {argument letters : Bytes} (lettered : Lettered argument letters)
      (odd : ∀ number, Numeric number → letters ≠ encodeChars number)
      (other : ∀ (flag : Flag) (others : Bytes),
        letters ≠ String.utf8EncodeChar flag.letter ++ others)
      (rest : List Bytes) : Refuses (argument :: rest) .unknownArgument
  | spoilt {head second : Bytes} {kind : ReplyKind} (candidate : Candidate head)
      (spoils : Spoils second kind) (rest : List Bytes) : Refuses (head :: second :: rest) kind
  | badHead {head : Bytes} {rest : List Bytes} {kind : ReplyKind} (candidate : Candidate head)
      (unspoilt : ∀ second ∈ rest.head?, ∀ kind, ¬ Spoils second kind) (bad : BadHead head kind) :
      Refuses (head :: rest) kind
  | called {head second : Bytes} {flag : Flag} (candidate : Candidate head)
      (duration : IsDuration head) (calls : Calls second flag) (rest : List Bytes) :
      Refuses (head :: second :: rest) flag.answer
  | badTail {head : Bytes} {rest : List Bytes} (candidate : Candidate head)
      (duration : IsDuration head) (unspoilt : ∀ second ∈ rest.head?, ∀ kind, ¬ Spoils second kind)
      (uncalled : ∀ second ∈ rest.head?, ∀ flag, ¬ Calls second flag)
      (broken : ∃ argument ∈ rest, ¬ IsText argument) : Refuses (head :: rest) .invalidUtf8
  | escapedHead {head : Bytes} {kind : ReplyKind} (bad : BadHead head kind) (tail : List Bytes) :
      Refuses (encode "--" :: head :: tail) kind
  | escapedTail {head : Bytes} {tail : List Bytes} (duration : IsDuration head)
      (broken : ∃ argument ∈ tail, ¬ IsText argument) :
      Refuses (encode "--" :: head :: tail) .invalidUtf8

namespace Bytes

theorem isText_encode (text : String) : IsText (encode text) := ⟨text, rfl⟩

theorem isDuration_or_badHead (head : Bytes) : IsDuration head ∨ ∃ kind, BadHead head kind := by
  by_cases duration : IsDuration head
  · exact .inl duration
  by_cases text : IsText head
  · exact .inr ⟨_, .notDuration text duration⟩
  · exact .inr ⟨_, .notText text⟩

/-- A text that attaches a value to a flag is refused behind every head. -/
theorem spoils_attaches {text value : String} {flag : Flag} (attaches : Attaches text value flag) :
    Spoils (encode text) .tooManyValues := by
  have named : Named (encode text) (encode flag.name) (some (encode value)) := by
    refine ⟨?_, by cases flag <;> decide, by simp [attachment]⟩
    rw [encode, attaches_spelt.1 attaches]
    simp only [encodeChars, encode, List.flatMap_append, List.flatMap_cons, attachment]
    rfl
  exact .value named

theorem exists_texts {arguments : List Bytes} (texts : ∀ argument ∈ arguments, IsText argument) :
    ∃ read : List String, arguments = read.map encode := by
  have inside : arguments ∈ Set.range (List.map encode) := by
    rw [Set.range_list_map]
    intro argument member
    obtain ⟨text, same⟩ := texts argument member
    exact ⟨text, same.symm⟩
  obtain ⟨read, same⟩ := inside
  exact ⟨read, same.symm⟩

end Bytes

namespace Request

theorem readHead_bad {head : Bytes} {kind : ReplyKind} (bad : BadHead head kind) :
    ∃ reply, reply.kind = kind ∧ readHead (pieces head) = .error reply := by
  cases bad with
  | notText broken => exact ⟨.notText, rfl, by rw [readHead, text?_pieces_none.2 broken]⟩
  | notDuration text other =>
      obtain ⟨text, rfl⟩ := text
      cases read : Millis.read text.toList with
      | ok millis => exact absurd ⟨text, millis, rfl, Millis.read_ok.1 read⟩ other
      | error fault =>
          refine ⟨.badHead text fault, rfl, ?_⟩
          simp only [readHead, piecesEncode, textOfString, read]

theorem readHead_duration {head : Bytes} (duration : IsDuration head) :
    ∃ millis, readHead (pieces head) = .ok millis := by
  obtain ⟨text, millis, rfl, denotes⟩ := duration
  exact ⟨millis, readHead_ok.2 ⟨text, piecesEncode text, denotes⟩⟩

theorem readTail_bad {tail : List Bytes} (broken : ∃ argument ∈ tail, ¬ IsText argument) :
    readTail (tail.map pieces) = .error .notText := by
  obtain ⟨argument, member, broken⟩ := broken
  cases read : readTail (tail.map pieces) with
  | ok texts =>
      have same := pieces_texts.1 (readTail_ok.1 read)
      rw [same] at member
      obtain ⟨text, _, rfl⟩ := List.mem_map.1 member
      exact absurd (isText_encode text) broken
  | error reply => rw [readTail_error read]

/-- A head that cannot be read is the fault, whatever else is wrong. -/
theorem settle_bad {head : Bytes} {kind : ReplyKind} (bad : BadHead head kind)
    (program : Option Bytes) :
    ∃ reply, reply.kind = kind ∧
      (∀ tail, (queue (pieces head) tail).settle program =
        .error (.replied (commandName program) reply)) ∧
      ∀ other, (headThen (pieces head) other).settle program =
        .error (.replied (commandName program) reply) := by
  obtain ⟨reply, same, read⟩ := readHead_bad bad
  refine ⟨reply, same, fun tail => ?_, fun other => ?_⟩ <;> simp only [settle, read]

theorem settle_called {head : Bytes} (duration : IsDuration head) (reply : Reply)
    (program : Option Bytes) :
    (headThen (pieces head) reply).settle program =
      .error (.replied (commandName program) reply) := by
  obtain ⟨millis, read⟩ := readHead_duration duration
  simp only [settle, read]

theorem settle_broken {head : Bytes} {tail : List Bytes} (duration : IsDuration head)
    (broken : ∃ argument ∈ tail, ¬ IsText argument) (program : Option Bytes) :
    (queue (pieces head) (tail.map pieces)).settle program =
      .error (.replied (commandName program) .notText) := by
  obtain ⟨millis, read⟩ := readHead_duration duration
  simp only [settle, read, readTail_bad broken]

/-- A flag in first place is answered at once. -/
theorem ofWords_flag {argument : Bytes} {flag : Flag} {value : Option Bytes}
    (named : Named argument (encode flag.name) value) (rest : List Word) :
    ofWords (pieces argument :: rest) = answered (ofFlag flag (value.map pieces)) := by
  have known : Flag.ofName? flag.name = some flag := Flag.ofName?_some.2 rfl
  simp only [ofWords, named.shape, piecesEncode, textOfString, Option.bind_some, known]

theorem ofWords_unknownName {argument name : Bytes} {value : Option Bytes}
    (named : Named argument name value) (other : ∀ flag : Flag, name ≠ encode flag.name)
    (rest : List Word) :
    ofWords (pieces argument :: rest) = answered (unknownLong (pieces name) false) := by
  have unknown : (pieces name).text?.bind Flag.ofName? = none := by
    rw [Option.eq_none_iff_forall_ne_some]
    intro flag known
    obtain ⟨text, read, named⟩ := Option.bind_eq_some_iff.1 known
    obtain rfl := Flag.ofName?_some.1 named
    exact other flag (pieces_text.1 (text?_some.1 read))
  simp only [ofWords, named.shape, unknown]

/-- No number begins with the letter of a flag. -/
theorem ofWords_letter {argument others : Bytes} {flag : Flag}
    (lettered : Lettered argument (String.utf8EncodeChar flag.letter ++ others))
    (rest : List Word) : ofWords (pieces argument :: rest) = answered (.requested flag) := by
  obtain ⟨first, tail, read, _, shape⟩ := lettered.shape
  rw [pieces_char.2 ⟨others, rfl, rfl⟩] at read
  obtain ⟨rfl, rfl⟩ := List.cons.inj read
  have odd : Word.looksNumeric (.char flag.letter :: pieces others) = false := by
    cases flag <;> rfl
  have known : ofLetter? (.char flag.letter) = some flag := Flag.ofLetter?_some.2 rfl
  simp only [ofWords, shape, odd, known]
  rfl

theorem ofWords_unknownLetter {argument letters : Bytes} (lettered : Lettered argument letters)
    (odd : ∀ number, Numeric number → letters ≠ encodeChars number)
    (other : ∀ (flag : Flag) (others : Bytes),
      letters ≠ String.utf8EncodeChar flag.letter ++ others) (rest : List Word) :
    ∃ reply, reply.kind = .unknownArgument ∧
      ofWords (pieces argument :: rest) = answered reply := by
  obtain ⟨first, tail, read, _, shape⟩ := lettered.shape
  have looks : Word.looksNumeric (first :: tail) = false := by
    rw [Bool.eq_false_iff, ← read, ne_eq, Word.looksNumeric_iff]
    rintro ⟨number, same, numeric⟩
    refine odd number numeric ?_
    rw [← bytesPieces letters, same, wordBytesOfChars]
  have unknown : ofLetter? first = none := by
    rw [Option.eq_none_iff_forall_ne_some]
    intro flag known
    obtain ⟨letter, char, named⟩ := Option.bind_eq_some_iff.1 known
    obtain rfl := Flag.ofLetter?_some.1 named
    cases first with
    | invalid bytes => contradiction
    | char letter =>
        obtain rfl := Option.some.inj char
        obtain ⟨others, same, _⟩ := pieces_char.1 read
        exact other flag others same
  refine ⟨unknownShort first tail, by cases first <;> rfl, ?_⟩
  simp only [ofWords, shape, looks, unknown]
  rfl

theorem ofWords_candidate {head : Bytes} (candidate : Candidate head) (rest : List Word) :
    ofWords (pieces head :: rest) = afterHead (pieces head) rest := by
  cases candidate with
  | undashed first => simp only [ofWords, shape_undashed first]
  | alone same =>
      rw [same, piecesEncode]
      rfl
  | number letters lettered numeric =>
      obtain ⟨first, others, read, _, shape⟩ := lettered.shape
      have looks : Word.looksNumeric (first :: others) = true := by
        rw [← read, ← Word.looksNumeric_iff.2 ⟨letters, rfl, numeric⟩]
        exact congrArg _ (Utf8.scanEncodeChars letters)
      simp only [ofWords, shape, looks, if_true]

theorem afterHead_spoilt {second : Bytes} {kind : ReplyKind} (spoils : Spoils second kind) :
    ∃ reply, reply.kind = kind ∧
      ∀ head rest, afterHead head (pieces second :: rest) = answered reply := by
  cases spoils with
  | @name name _ named broken =>
      refine ⟨unknownLong (pieces name) true, rfl, fun head rest => ?_⟩
      simp only [afterHead, named.shape, text?_pieces_none.2 broken]
  | @value flag value named =>
      refine ⟨.attachedValue flag (pieces value).lossy, rfl, fun head rest => ?_⟩
      have known : Flag.ofName? flag.name = some flag := Flag.ofName?_some.2 rfl
      simp only [afterHead, named.shape, piecesEncode, textOfString, known, Option.map_some]
      rfl

theorem afterHead_called {second : Bytes} {flag : Flag} (calls : Calls second flag) (head : Word)
    (rest : List Word) :
    afterHead head (pieces second :: rest) = headThen head (.requested flag) := by
  obtain ⟨text, rfl, asks⟩ := calls
  rw [piecesEncode]
  exact afterHead_asks head rest asks

theorem char?_letter {piece : Piece} (letter : (ofLetter? piece).isSome = true) :
    piece.char?.isSome = true := by
  cases piece with
  | char value => rfl
  | invalid bytes => exact letter

/-- Pieces that are all characters make up a text. -/
theorem text?_chars {word : Word} (chars : ∀ piece ∈ word, piece.char?.isSome = true) :
    word.text? ≠ none := by
  have read : ∃ letters, word.mapM Piece.char? = some letters := by
    induction word with
    | nil => exact ⟨[], rfl⟩
    | cons piece rest ih =>
        obtain ⟨first, chars⟩ := List.forall_mem_cons.1 chars
        obtain ⟨letter, first⟩ := Option.isSome_iff_exists.1 first
        obtain ⟨letters, read⟩ := ih chars
        exact ⟨letter :: letters, by simp [first, read]⟩
  obtain ⟨letters, read⟩ := read
  simp [Word.text?, read]

/-- An argument that is no text begins the tail unless it spoils. -/
theorem afterHead_broken {second : Bytes} (broken : ¬ IsText second)
    (unspoilt : ∀ kind, ¬ Spoils second kind) (head : Word) (rest : List Word) :
    afterHead head (pieces second :: rest) = queue head (pieces second :: rest) := by
  rcases argument_cases second with escape | ⟨name, value, named⟩ | ⟨letters, lettered⟩ | alone |
    undashed
  · exact absurd ⟨_, escape⟩ broken
  · simp only [afterHead, named.shape]
    by_cases text : IsText name
    · obtain ⟨text, rfl⟩ := text
      rw [piecesEncode, textOfString]
      cases known : Flag.ofName? text with
      | none => simp only [known]
      | some flag =>
          obtain rfl := Flag.ofName?_some.1 known
          cases value with
          | none =>
              refine absurd ⟨flag.long, ?_⟩ broken
              rw [named.spelt]
              cases flag <;> rfl
          | some value => exact absurd (.value named) (unspoilt _)
    · exact absurd (.name named text) (unspoilt _)
  · obtain ⟨first, others, read, split, shape⟩ := lettered.shape
    simp only [afterHead, shape]
    cases known : ofLetter? first with
    | none => rfl
    | some flag =>
        refine if_neg fun flags => ?_
        -- A dash with nothing but flag letters behind it would be a text.
        have chars : ∀ piece ∈ pieces second, piece.char?.isSome = true := by
          rw [split, List.forall_mem_cons, List.forall_mem_cons]
          refine ⟨rfl, char?_letter (known ▸ rfl), fun piece member => ?_⟩
          exact char?_letter (List.all_eq_true.1 flags piece member)
        exact text?_chars chars (text?_pieces_none.2 broken)
  · exact absurd ⟨_, alone⟩ broken
  · simp only [afterHead, shape_undashed undashed]

/-- An argument that neither spoils nor calls for a flag leaves the head and the tail to be read. -/
theorem afterHead_quiet {rest : List Bytes}
    (unspoilt : ∀ second ∈ rest.head?, ∀ kind, ¬ Spoils second kind)
    (uncalled : ∀ second ∈ rest.head?, ∀ flag, ¬ Calls second flag) (head : Word) :
    ∃ tail, afterHead head (rest.map pieces) = queue head (tail.map pieces) ∧
      (rest = tail ∨ rest = encode "--" :: tail) := by
  rcases rest with _ | ⟨second, rest⟩
  · exact ⟨[], rfl, .inl rfl⟩
  have unspoilt := unspoilt second rfl
  have uncalled := uncalled second rfl
  by_cases text : IsText second
  · obtain ⟨text, rfl⟩ := text
    rw [List.map_cons, piecesEncode]
    rcases token_cases text with rfl | ⟨flag, asks⟩ | ⟨value, flag, attaches⟩ | plain
    · exact ⟨rest, afterHead_escape head _, .inr rfl⟩
    · exact absurd ⟨text, rfl, asks⟩ (uncalled flag)
    · exact absurd (spoils_attaches attaches) (unspoilt _)
    · exact ⟨encode text :: rest, by rw [afterHead_plain _ _ plain, List.map_cons, piecesEncode],
        .inl rfl⟩
  · exact ⟨second :: rest, afterHead_broken text unspoilt head _, .inl rfl⟩

end Request

namespace Queue

variable {program : Option Bytes}

/-- Arguments are settled by their words. -/
theorem ofArguments_answered {arguments : List Bytes} {reply : Reply}
    (settled : Request.ofWords (arguments.map pieces) = .answered reply) :
    ofArguments program arguments = .error (.replied (commandName program) reply) := by
  rw [ofArguments_firstWords, settled]
  rfl

/-- Everything behind the escape is a value. -/
theorem ofArguments_escaped (head : Bytes) (tail : List Bytes) :
    ofArguments program (encode "--" :: head :: tail) =
      (Request.queue (pieces head) (tail.map pieces)).settle program := by
  rw [ofArguments_firstWords]
  rfl

/-- The first reason to refuse the arguments is the one that is given. -/
theorem ofArguments_refuses {arguments : List Bytes} {kind : ReplyKind}
    (refuses : Refuses arguments kind) (program : Option Bytes) :
    ∃ reply, reply.kind = kind ∧
      ofArguments program arguments = .error (.replied (commandName program) reply) := by
  cases refuses with
  | @flag argument flag named rest =>
      exact ⟨.requested flag, by cases flag <;> rfl,
        ofArguments_answered (Request.ofWords_flag named _)⟩
  | @flagValue argument value flag named rest =>
      exact ⟨.attachedValue flag _, rfl, ofArguments_answered (Request.ofWords_flag named _)⟩
  | unknownName named other rest =>
      exact ⟨_, rfl, ofArguments_answered (Request.ofWords_unknownName named other _)⟩
  | @letter argument others flag lettered rest =>
      exact ⟨.requested flag, by cases flag <;> rfl,
        ofArguments_answered (Request.ofWords_letter lettered _)⟩
  | unknownLetter lettered odd other rest =>
      obtain ⟨reply, same, answers⟩ :=
        Request.ofWords_unknownLetter lettered odd other (rest.map pieces)
      exact ⟨reply, same, ofArguments_answered answers⟩
  | spoilt candidate spoils rest =>
      obtain ⟨reply, same, answers⟩ := Request.afterHead_spoilt spoils
      refine ⟨reply, same, ofArguments_answered ?_⟩
      rw [List.map_cons, List.map_cons, Request.ofWords_candidate candidate, answers]
  | @badHead head rest kind candidate unspoilt bad =>
      obtain ⟨reply, same, queues, calls⟩ := Request.settle_bad bad program
      refine ⟨reply, same, ?_⟩
      rw [ofArguments_firstWords, List.map_cons, Request.ofWords_candidate candidate]
      -- The fault of the head also comes before a flag behind it.
      by_cases called : ∃ second ∈ rest.head?, ∃ flag, Calls second flag
      · obtain ⟨second, first, flag, called⟩ := called
        obtain ⟨others, rfl⟩ := List.head?_eq_some_iff.1 first
        rw [List.map_cons, Request.afterHead_called called]
        exact calls _
      · have uncalled : ∀ second ∈ rest.head?, ∀ flag, ¬ Calls second flag :=
          fun second first flag call => called ⟨second, first, flag, call⟩
        obtain ⟨tail, quiet, _⟩ := Request.afterHead_quiet unspoilt uncalled (pieces head)
        rw [quiet]
        exact queues _
  | @called head second flag candidate duration calls rest =>
      refine ⟨.requested flag, by cases flag <;> rfl, ?_⟩
      rw [ofArguments_firstWords, List.map_cons, List.map_cons, Request.ofWords_candidate candidate,
        Request.afterHead_called calls, Request.settle_called duration]
  | @badTail head rest candidate duration unspoilt uncalled broken =>
      refine ⟨.notText, rfl, ?_⟩
      obtain ⟨tail, quiet, split⟩ := Request.afterHead_quiet unspoilt uncalled (pieces head)
      have broken : ∃ argument ∈ tail, ¬ IsText argument := by
        rcases split with rfl | rfl
        · exact broken
        · simpa [isText_encode] using broken
      rw [ofArguments_firstWords, List.map_cons, Request.ofWords_candidate candidate, quiet,
        Request.settle_broken duration broken]
  | @escapedHead head kind bad tail =>
      obtain ⟨reply, same, queues, _⟩ := Request.settle_bad bad program
      exact ⟨reply, same, by rw [ofArguments_escaped, queues]⟩
  | @escapedTail head tail duration broken =>
      exact ⟨.notText, rfl, by rw [ofArguments_escaped, Request.settle_broken duration broken]⟩

/-- Behind a candidate either everything can be read or there is a reason to refuse. -/
theorem candidate_total {head : Bytes} (candidate : Candidate head) (rest : List Bytes) :
    (∃ queue, ofArguments program (head :: rest) = .ok queue) ∨
      ∃ kind, Refuses (head :: rest) kind := by
  by_cases spoilt : ∃ second ∈ rest.head?, ∃ kind, Spoils second kind
  · obtain ⟨second, first, kind, spoils⟩ := spoilt
    obtain ⟨others, rfl⟩ := List.head?_eq_some_iff.1 first
    exact .inr ⟨kind, .spoilt candidate spoils others⟩
  have unspoilt : ∀ second ∈ rest.head?, ∀ kind, ¬ Spoils second kind :=
    fun second first kind spoils => spoilt ⟨second, first, kind, spoils⟩
  rcases isDuration_or_badHead head with duration | ⟨kind, bad⟩
  swap
  · exact .inr ⟨kind, .badHead candidate unspoilt bad⟩
  by_cases called : ∃ second ∈ rest.head?, ∃ flag, Calls second flag
  · obtain ⟨second, first, flag, calls⟩ := called
    obtain ⟨others, rfl⟩ := List.head?_eq_some_iff.1 first
    exact .inr ⟨_, .called candidate duration calls others⟩
  have uncalled : ∀ second ∈ rest.head?, ∀ flag, ¬ Calls second flag :=
    fun second first flag calls => called ⟨second, first, flag, calls⟩
  by_cases broken : ∃ argument ∈ rest, ¬ IsText argument
  · exact .inr ⟨_, .badTail candidate duration unspoilt uncalled broken⟩
  simp only [not_exists, not_and, not_not] at broken
  obtain ⟨texts, rfl⟩ := exists_texts broken
  obtain ⟨text, millis, rfl, denotes⟩ := duration
  left
  cases texts with
  | nil => exact ⟨_, ofArguments_spells (.headAlone denotes)⟩
  | cons next others =>
      rcases token_cases next with rfl | ⟨flag, asks⟩ | ⟨value, flag, attaches⟩ | plain
      · exact ⟨_, ofArguments_spells (.escapeSecond denotes others)⟩
      · exact absurd ⟨next, rfl, asks⟩ (uncalled _ rfl flag)
      · exact absurd (spoils_attaches attaches) (unspoilt _ rfl _)
      · exact ⟨_, ofArguments_spells (.plainSecond denotes plain others)⟩

/-- Arguments are missing, or they can be read, or there is a reason to refuse them. -/
theorem ofArguments_total (arguments : List Bytes) :
    arguments = [] ∨ arguments = [encode "--"] ∨
      (∃ queue, ofArguments program arguments = .ok queue) ∨ ∃ kind, Refuses arguments kind := by
  rcases arguments with _ | ⟨first, rest⟩
  · exact .inl rfl
  right
  rcases argument_cases first with rfl | ⟨name, value, named⟩ | ⟨letters, lettered⟩ | alone |
    undashed
  · rcases rest with _ | ⟨head, tail⟩
    · exact .inl rfl
    right
    rcases isDuration_or_badHead head with ⟨text, millis, rfl, denotes⟩ | ⟨kind, bad⟩
    · by_cases broken : ∃ argument ∈ tail, ¬ IsText argument
      · exact .inr ⟨_, .escapedTail ⟨text, millis, rfl, denotes⟩ broken⟩
      · simp only [not_exists, not_and, not_not] at broken
        obtain ⟨texts, rfl⟩ := exists_texts broken
        exact .inl ⟨_, ofArguments_spells (.escapeFirst denotes texts)⟩
    · exact .inr ⟨kind, .escapedHead bad tail⟩
  · refine .inr (.inr ?_)
    by_cases known : ∃ flag : Flag, name = encode flag.name
    · obtain ⟨flag, rfl⟩ := known
      cases value with
      | none => exact ⟨_, .flag named rest⟩
      | some value => exact ⟨_, .flagValue named rest⟩
    · exact ⟨_, .unknownName named (not_exists.1 known) rest⟩
  · by_cases numeric : ∃ number, Numeric number ∧ letters = encodeChars number
    · obtain ⟨number, numeric, rfl⟩ := numeric
      exact .inr (candidate_total (.number number lettered numeric) rest)
    by_cases known : ∃ (flag : Flag) (others : Bytes),
        letters = String.utf8EncodeChar flag.letter ++ others
    · obtain ⟨flag, others, rfl⟩ := known
      exact .inr (.inr ⟨_, .letter lettered rest⟩)
    · refine .inr (.inr ⟨_, .unknownLetter lettered ?_ ?_ rest⟩)
      · exact fun number looks same => numeric ⟨number, looks, same⟩
      · exact fun flag others same => known ⟨flag, others, same⟩
  · exact .inr (candidate_total (.alone alone) rest)
  · exact .inr (candidate_total (.undashed undashed) rest)

theorem ofArguments_nothing {arguments : List Bytes}
    (nothing : arguments = [] ∨ arguments = [encode "--"]) (program : Option Bytes) :
    ofArguments program arguments = .error (.blocked (.noDurations (programName program))) := by
  rcases nothing with rfl | rfl
  · rfl
  · rw [ofArguments_firstWords, List.map_singleton, piecesEncode]
    rfl

/-- Arguments fail because there are none, or with a reply to the first reason. -/
theorem ofArguments_error {arguments : List Bytes} {failure : Failure}
    (failed : ofArguments program arguments = .error failure) :
    ((arguments = [] ∨ arguments = [encode "--"]) ∧
      failure = .blocked (.noDurations (programName program))) ∨
    ∃ reply, failure = .replied (commandName program) reply ∧ Refuses arguments reply.kind := by
  rcases @ofArguments_total program arguments with nothing | escape | ⟨queue, read⟩ |
    ⟨kind, refuses⟩
  · rw [ofArguments_nothing (.inl nothing)] at failed
    exact .inl ⟨.inl nothing, (Except.error.inj failed).symm⟩
  · rw [ofArguments_nothing (.inr escape)] at failed
    exact .inl ⟨.inr escape, (Except.error.inj failed).symm⟩
  · rw [read] at failed
    contradiction
  · obtain ⟨reply, rfl, given⟩ := ofArguments_refuses refuses program
    rw [given] at failed
    exact .inr ⟨reply, (Except.error.inj failed).symm, refuses⟩

theorem ofArguments_noDurations {arguments : List Bytes} :
    ofArguments program arguments = .error (.blocked (.noDurations (programName program))) ↔
      arguments = [] ∨ arguments = [encode "--"] := by
  refine ⟨fun failed => ?_, fun nothing => ofArguments_nothing nothing program⟩
  rcases ofArguments_error failed with ⟨nothing, _⟩ | ⟨reply, impossible, _⟩
  · exact nothing
  · contradiction

theorem ofArguments_kind {arguments : List Bytes} {kind : ReplyKind} :
    (∃ reply, reply.kind = kind ∧
      ofArguments program arguments = .error (.replied (commandName program) reply)) ↔
      Refuses arguments kind := by
  refine ⟨?_, fun refuses => ofArguments_refuses refuses program⟩
  rintro ⟨reply, rfl, failed⟩
  rcases ofArguments_error failed with ⟨_, impossible⟩ | ⟨other, same, refuses⟩
  · contradiction
  · injection same with _ same
    rwa [same]

/-- A command line without durations has no arguments or only the escape. Every other command line
that fails is answered with a reply, and its kind is that of the first reason to refuse the
arguments. -/
theorem ofCommandLine_reason :
    (∀ commandLine, ofCommandLine commandLine =
        .error (.blocked (.noDurations (programName commandLine.head?))) ↔
      commandLine.tail = [] ∨ commandLine.tail = [encode "--"]) ∧
    (∀ commandLine kind, (∃ reply, reply.kind = kind ∧ ofCommandLine commandLine =
        .error (.replied (commandName commandLine.head?) reply)) ↔
      Refuses commandLine.tail kind) ∧
    ∀ commandLine failure, ofCommandLine commandLine = .error failure →
      failure = .blocked (.noDurations (programName commandLine.head?)) ∨
        ∃ reply, failure = .replied (commandName commandLine.head?) reply := by
  have split (commandLine : List Bytes) :
      ofCommandLine commandLine = ofArguments commandLine.head? commandLine.tail := by
    cases commandLine <;> rfl
  refine ⟨fun commandLine => ?_, fun commandLine kind => ?_, fun commandLine failure failed => ?_⟩
  · rw [split]
    exact ofArguments_noDurations
  · rw [split]
    exact ofArguments_kind
  · rw [split] at failed
    rcases ofArguments_error failed with ⟨_, same⟩ | ⟨reply, same, _⟩
    · exact .inl same
    · exact .inr ⟨reply, same⟩

/-- A value attached to a flag comes before a bad head, and a bad head before a tail that is no
text. -/
theorem ofCommandLine_reason_order :
    (∃ reply, reply.kind = .tooManyValues ∧
      ofCommandLine (["linger", "abc", "--help=x"].map encode) =
        .error (.replied (commandName (some (encode "linger"))) reply)) ∧
    ∃ reply, reply.kind = .valueValidation ∧
      ofCommandLine [encode "linger", encode "--", encode "abc", [0xFF]] =
        .error (.replied (commandName (some (encode "linger"))) reply) := by
  constructor
  · have named : Named (encode "--help=x") (encode Flag.help.name) (some (encode "x")) :=
      ⟨by decide, by decide, by decide⟩
    have candidate : Candidate (encode "abc") := .undashed (by decide)
    exact (ofCommandLine_reason.2.1 _ _).2 (.spoilt candidate (.value named) [])
  · have other : ¬ IsDuration (encode "abc") := by
      rintro ⟨text, millis, same, denotes⟩
      obtain rfl := encode_injective same
      have read := Millis.read_ok.2 denotes
      contradiction
    have bad : BadHead (encode "abc") .valueValidation := .notDuration (isText_encode _) other
    exact (ofCommandLine_reason.2.1 _ _).2 (.escapedHead bad _)

end Queue

end LingerChain
