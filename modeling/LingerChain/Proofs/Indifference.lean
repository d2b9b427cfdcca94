/-
This file shows what an answer does not depend on: arguments behind the first two only lengthen the
tail, and the name of the program only stands in messages.
-/

import LingerChain.Proofs.Argument

namespace LingerChain

namespace Request

/-- Further words lengthen the tail of a queue and change no other request. -/
def lengthen (rest : List Word) : Request → Request
  | queue head tail => queue head (tail ++ rest)
  | request => request

/-- Behind a head the next word is looked at, and no word after it. -/
theorem afterHead_lengthen (head second : Word) (rest : List Word) :
    afterHead head (second :: rest) = (afterHead head [second]).lengthen rest := by
  cases shape : Shape.ofWord second with
  | escape | value =>
      simp only [afterHead, shape]
      rfl
  | long name attached =>
      simp only [afterHead, shape]
      split
      · rfl
      · rename_i text _
        cases Flag.ofName? text <;> cases attached <;> rfl
  | short first others =>
      simp only [afterHead, shape]
      split
      · split <;> rfl
      · rfl

/-- The first two words decide what is requested. -/
theorem ofWords_lengthen (first second : Word) (rest : List Word) :
    ofWords (first :: second :: rest) = (ofWords [first, second]).lengthen rest := by
  cases shape : Shape.ofWord first with
  | escape =>
      simp only [ofWords, shape]
      rfl
  | value =>
      simp only [ofWords, shape]
      exact afterHead_lengthen first second rest
  | long name attached =>
      simp only [ofWords, shape]
      split <;> rfl
  | short letter others =>
      simp only [ofWords, shape]
      split
      · exact afterHead_lengthen first second rest
      · split <;> rfl

/-- An escape among two words leaves nothing for the tail, and otherwise the second one is left. -/
theorem ofWords_two {first second head : Word} {tail : List Word}
    (settled : ofWords [first, second] = queue head tail) :
    tail = if first = Word.ofString "--" ∨ second = Word.ofString "--" then [] else [second] := by
  by_cases escape : first = Word.ofString "--"
  · subst escape
    injection settled with _ same
    rw [if_pos (.inl rfl), same]
  rcases ofWords_queue settled with impossible | ⟨rest, same, following⟩
  · exact absurd (List.cons.inj impossible).1 escape
  obtain ⟨rfl, rfl⟩ := List.cons.inj same
  by_cases second_escape : second = Word.ofString "--"
  · subst second_escape
    rw [afterHead_escape] at following
    injection following with _ same
    rw [if_pos (.inr rfl), same]
  · rw [if_neg (by simp [escape, second_escape])]
    rcases (afterHead_queue following).2 with impossible | same
    · exact absurd (List.cons.inj impossible).1 second_escape
    · exact same.symm

theorem readTail_lengthen (words : List Word) (rest : List String) :
    readTail (words ++ rest.map Word.ofString) = (readTail words).map (· ++ rest) := by
  cases read : readTail words with
  | ok texts =>
      rw [readTail_ok] at read
      rw [read, ← List.map_append]
      exact readTail_ok.2 rfl
  | error reply =>
      cases longer : readTail (words ++ rest.map Word.ofString) with
      | ok texts =>
          -- The words in front of the rest are texts too, so they could have been read.
          obtain ⟨front, _, _, same, _⟩ := List.append_eq_map_iff.1 (readTail_ok.1 longer)
          rw [← same, readTail_ok.2 rfl] at read
          contradiction
      | error other =>
          rw [readTail_error read, readTail_error longer]
          rfl

end Request

/-- Further arguments lengthen the tail of a queue. -/
def Queue.lengthen (rest : List String) (queue : Queue) : Queue :=
  ⟨queue.head, queue.tail ++ rest⟩

theorem Request.settle_lengthen (request : Request) (rest : List String)
    (program : Option Bytes) :
    (request.lengthen (rest.map Word.ofString)).settle program =
      (request.settle program).map (Queue.lengthen rest) := by
  cases request with
  | nothing | answered reply => rfl
  | headThen head reply =>
      simp only [lengthen, settle]
      split <;> rfl
  | queue head tail =>
      simp only [lengthen, settle, readTail_lengthen]
      cases readHead head with
      | error reply => rfl
      | ok millis => cases readTail tail <;> rfl

namespace Queue

/-- The answer to many arguments is that to the first two, with a longer tail. -/
theorem ofArguments_lengthen (program : Option Bytes) (first second : Bytes) (rest : List String) :
    ofArguments program (first :: second :: rest.map encode) =
      (ofArguments program [first, second]).map (lengthen rest) := by
  have texts : (rest.map encode).map Bytes.pieces = rest.map Word.ofString := pieces_texts.2 rfl
  rw [ofArguments_firstWords, ofArguments_firstWords, List.map_cons, List.map_cons, texts,
    Request.ofWords_lengthen]
  exact Request.settle_lengthen _ rest program

/-- Of two arguments that are read the second one is the tail, unless one of them is the escape. -/
theorem ofArguments_two {program : Option Bytes} {first second : Bytes} {queue : Queue}
    (parsed : ofArguments program [first, second] = .ok queue) :
    queue.tail.map encode =
      if first = encode "--" ∨ second = encode "--" then [] else [second] := by
  rw [ofArguments_firstWords] at parsed
  obtain ⟨head, tail, settled, _, read⟩ := Request.settle_ok.1 parsed
  have left := Request.ofWords_two settled
  rw [Request.readTail_ok.1 read] at left
  simp only [Bytes.pieces_text] at left
  split
  · rename_i escape
    rw [if_pos escape] at left
    rw [List.map_eq_nil_iff.1 left]
    rfl
  · rename_i noEscape
    rw [if_neg noEscape] at left
    exact ((@pieces_texts [second] _).1 left.symm).symm

end Queue

namespace Failure

/-- The name of its program that a failure shows. A reply shows it as a terminal prints it. -/
def shownName (program : Option Bytes) : Failure → String
  | replied .. => Terminal.strip (commandName program)
  | blocked _ => programName program

/-- Two programs fail in the same way if they answer the same reply or miss their durations, and if
nothing can be told apart but the name that each of them shows in its message. -/
structure Renamed (program other : Option Bytes) (failure another : Failure) : Prop where
  form : (∃ reply, failure = .replied (commandName program) reply ∧
      another = .replied (commandName other) reply) ∨
    failure = .blocked (.noDurations (programName program)) ∧
      another = .blocked (.noDurations (programName other))
  exitCode : failure.exitCode = another.exitCode
  cause : failure.cause? = another.cause?
  message (display : Display) : failure.message display = another.message display ∨
    ∃ before after, failure.message display = before ++ failure.shownName program ++ after ∧
      another.message display = before ++ another.shownName other ++ after

end Failure

namespace Reply

/-- Of the runs of a reply one at most is the name of the program. -/
theorem runs_named (reply : Reply) :
    (∃ runs, ∀ program, reply.runs program = runs) ∨
      ∃ before after, ∀ program, reply.runs program = before ++ program :: after := by
  have refusal : (∃ runs, ∀ program, refusalRuns program reply = runs) ∨
      ∃ before after, ∀ program, refusalRuns program reply = before ++ program :: after := by
    unfold refusalRuns
    cases reply.usage? with
    | none => exact .inl ⟨"error:" :: reply.reasonRuns ++ [] ++ hintRuns, fun _ => rfl⟩
    | some usage =>
        refine .inr ⟨"error:" :: reply.reasonRuns ++ ["Usage:", " "],
          [" " ++ Command.chain.pattern usage, paragraph] ++ hintRuns, fun program => ?_⟩
        simp [usageRuns]
  cases reply with
  | requested flag =>
      cases flag with
      | help => exact .inr ⟨[_, _, _], [_], fun _ => rfl⟩
      | version => exact .inl ⟨_, fun _ => rfl⟩
  | unknownArgument | attachedValue | notText | badHead | stated => exact refusal

/-- A reply shows the name of the program at one place at most, and the same text around it. -/
theorem text_named (reply : Reply) :
    (∃ text, ∀ program, reply.text program = text) ∨
      ∃ before after, ∀ program,
        reply.text program = before ++ Terminal.strip program ++ after := by
  rcases runs_named reply with ⟨runs, same⟩ | ⟨before, after, around⟩
  · exact .inl ⟨_, fun program => by rw [text, same]⟩
  · refine .inr ⟨String.join (before.map Terminal.strip), String.join (after.map Terminal.strip),
      fun program => ?_⟩
    rw [text, around, List.map_append, List.map_cons, String.join_append, String.join_cons,
      String.append_assoc]

end Reply

namespace Failure

variable (program other : Option Bytes)

theorem renamed_reply (reply : Reply) :
    Renamed program other (.replied (commandName program) reply)
      (.replied (commandName other) reply) where
  form := .inl ⟨reply, rfl, rfl⟩
  exitCode := rfl
  cause := rfl
  message display := by
    rcases reply.text_named with ⟨text, same⟩ | ⟨before, after, around⟩
    · exact .inl ((same _).trans (same _).symm)
    · exact .inr ⟨before, after, around _, around _⟩

theorem renamed_noDurations :
    Renamed program other (.blocked (.noDurations (programName program)))
      (.blocked (.noDurations (programName other))) where
  form := .inr ⟨rfl, rfl⟩
  exitCode := rfl
  cause := rfl
  message _ := .inr ⟨"Usage: ", " <sleep_duration> [additional_args...]", rfl, rfl⟩

end Failure

/-- Another name of the program changes no queue, and a failure only by that name. -/
theorem Request.settle_renamed (request : Request) (program other : Option Bytes) :
    (∃ queue, request.settle program = .ok queue ∧ request.settle other = .ok queue) ∨
      ∃ failure another, request.settle program = .error failure ∧
        request.settle other = .error another ∧ failure.Renamed program other another := by
  have replied (reply : Reply) := Failure.renamed_reply program other reply
  cases request with
  | nothing => exact .inr ⟨_, _, rfl, rfl, Failure.renamed_noDurations program other⟩
  | answered reply => exact .inr ⟨_, _, rfl, rfl, replied reply⟩
  | headThen head reply =>
      simp only [settle]
      cases readHead head with
      | error fault => exact .inr ⟨_, _, rfl, rfl, replied fault⟩
      | ok millis => exact .inr ⟨_, _, rfl, rfl, replied reply⟩
  | queue head tail =>
      simp only [settle]
      cases readHead head with
      | error fault => exact .inr ⟨_, _, rfl, rfl, replied fault⟩
      | ok millis =>
          cases readTail tail with
          | error fault => exact .inr ⟨_, _, rfl, rfl, replied fault⟩
          | ok texts => exact .inl ⟨_, rfl, rfl⟩

namespace Queue

/-- The first two arguments decide. Either they are refused with one failure, whatever texts stand
behind them, or they give a head and a text or none, and the texts behind them are the rest of the
tail. Another name of the program changes no queue, and a failure only where its message shows the
name. -/
theorem ofCommandLine_firstTwo :
    (∀ program first second : Bytes,
      (∃ failure, ∀ rest : List String,
        ofCommandLine (program :: first :: second :: rest.map encode) = .error failure) ∨
      ∃ head kept,
        kept.map encode =
          (if first = encode "--" ∨ second = encode "--" then [] else [second]) ∧
        ∀ rest : List String,
          ofCommandLine (program :: first :: second :: rest.map encode) =
            .ok ⟨head, kept ++ rest⟩) ∧
    ∀ (program other : Bytes) (arguments : List Bytes),
      (∃ queue, ofCommandLine (program :: arguments) = .ok queue ∧
        ofCommandLine (other :: arguments) = .ok queue) ∨
      ∃ failure another, ofCommandLine (program :: arguments) = .error failure ∧
        ofCommandLine (other :: arguments) = .error another ∧
        failure.Renamed (some program) (some other) another := by
  constructor
  · intro program first second
    have longer (rest : List String) :
        ofCommandLine (program :: first :: second :: rest.map encode) =
          (ofArguments (some program) [first, second]).map (lengthen rest) :=
      ofArguments_lengthen (some program) first second rest
    cases parsed : ofArguments (some program) [first, second] with
    | error failure =>
        exact .inl ⟨failure, fun rest => by rw [longer, parsed]; rfl⟩
    | ok queue =>
        exact .inr ⟨queue.head, queue.tail, ofArguments_two parsed,
          fun rest => by rw [longer, parsed]; rfl⟩
  · intro program other arguments
    exact Request.settle_renamed _ (some program) (some other)

end Queue

end LingerChain
