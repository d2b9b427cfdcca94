/-
This file gives the message of every failure of a command line and shows by which name the usage
line in it calls the program.
-/

import LingerChain.Proofs.Indifference
import LingerChain.Proofs.Naming

namespace LingerChain

/-- A control is a letter that a terminal carries out and does not show. -/
def Control (letter : Char) : Prop :=
  letter.toNat < 0x20 ∨ 0x7F ≤ letter.toNat ∧ letter.toNat < 0xA0
  deriving Decidable

namespace Terminal

/-- A text is kept if a terminal prints every letter of it. -/
def Kept (text : String) : Prop :=
  ∀ letter ∈ text.toList, Mode.plain.read letter = (true, .plain)

instance (text : String) : Decidable (Kept text) := List.decidableBAll _ text.toList

theorem strip_kept {text : String} (kept : Kept text) : strip text = text := by
  have printed {letters : List Char}
      (kept : ∀ letter ∈ letters, Mode.plain.read letter = (true, .plain)) :
      printable .plain letters = letters := by
    induction letters with
    | nil => rfl
    | cons first rest ih =>
        obtain ⟨sound, kept⟩ := List.forall_mem_cons.1 kept
        simp [printable, sound, ih kept]
  rw [strip, printed kept, String.ofList_toList]

theorem kept_clear {text : String} (clear : ∀ letter ∈ text.toList, ¬ Control letter) :
    Kept text := by
  intro letter member
  have bounds := clear letter member
  unfold Control at bounds
  simp only [Mode.read, between]
  split
  · rw [if_pos]
    simp
    omega
  · simp

theorem kept_append {first second : String} (left : Kept first) (right : Kept second) :
    Kept (first ++ second) := by
  rw [Kept, String.toList_append]
  exact List.forall_mem_append.2 ⟨left, right⟩

theorem kept_join {texts : List String} (kept : ∀ text ∈ texts, Kept text) :
    Kept (String.join texts) := by
  induction texts with
  | nil => exact List.forall_mem_nil _
  | cons first rest ih =>
      obtain ⟨left, right⟩ := List.forall_mem_cons.1 kept
      rw [String.join_cons]
      exact kept_append left (ih right)

end Terminal

open Bytes Terminal

namespace Command

theorem kept_shortLine (column : Nat) {parameter : Parameter} (label : Kept parameter.label)
    (summary : Kept parameter.summary) : Kept (shortLine column parameter) := by
  have blanks : Kept (String.ofList (List.replicate (column - parameter.label.length) ' ')) := by
    intro letter member
    rw [String.toList_ofList] at member
    rw [List.eq_of_mem_replicate member]
    rfl
  unfold shortLine
  refine kept_append (kept_append (kept_append (kept_append (kept_append ?_ label) blanks) ?_)
    summary) ?_
  all_goals decide

theorem kept_shortSection {parameters : List Parameter}
    (kept : ∀ parameter ∈ parameters, Kept parameter.label ∧ Kept parameter.summary) :
    Kept (shortSection parameters) := by
  refine kept_join fun line member => ?_
  obtain ⟨parameter, given, rfl⟩ := List.mem_map.1 member
  exact kept_shortLine _ (kept parameter given).1 (kept parameter given).2

theorem kept_pattern (usage : Usage) : Kept (chain.pattern usage) := by
  have tail : Kept (chain.tail.shown false) := by decide
  have head (present : Bool) : Kept (chain.head.shown present) := by
    cases present <;> decide
  refine kept_append (kept_append (kept_append ?_ (head usage.headGiven)) (by decide)) tail
  split
  · rename_i flag _
    cases flag <;> decide
  · decide

theorem kept_helpAfter : Kept (chain.helpAfter shortSection) := by
  have positionals : Kept (shortSection chain.positionals) := kept_shortSection (by decide)
  have options : Kept (shortSection flags) := kept_shortSection (by decide)
  refine kept_append (kept_append (kept_append (kept_append (kept_append ?_
    (kept_pattern .fresh)) ?_) positionals) ?_) options
  all_goals decide

end Command

namespace Reply

/-- A stated reply comes from elsewhere and never from the words of a command line. -/
def Answers : Reply → Prop
  | stated .. => False
  | _ => True

/-- The reason of a reply, as a terminal prints it. -/
def reason (reply : Reply) : String := String.join (reply.reasonRuns.map strip)

/-- This line ends every refusal. -/
def hint : String := "For more information, try '--help'.\n"

theorem strip_hintRuns : String.join (hintRuns.map strip) = hint := by decide

theorem strip_error : strip "error:" = "error:" := by decide

theorem strip_title : strip "Usage:" = "Usage:" := by decide

theorem strip_blank : strip " " = " " := by decide

/-- A reason is a paragraph if its last run is printed as it stands and ends one. -/
theorem reason_last {reply : Reply} (runs : Runs) (last : String)
    (ends : reply.reasonRuns = runs ++ [last ++ paragraph]) (kept : Kept (last ++ paragraph)) :
    ∃ front, reply.reason = front ++ paragraph := by
  refine ⟨String.join (runs.map strip) ++ last, ?_⟩
  rw [reason, ends, List.map_append, String.join_append, List.map_singleton, strip_kept kept]
  simp [String.append_assoc]

/-- The reason of a refusal is a paragraph. -/
theorem reason_paragraph {reply : Reply} (answers : reply.Answers)
    (refuses : ∀ flag, reply ≠ .requested flag) : ∃ front, reply.reason = front ++ paragraph := by
  cases reply with
  | requested flag => exact absurd rfl (refuses flag)
  | unknownArgument argument suggestion headGiven =>
      cases suggestion with
      | none => exact reason_last [_, _, _, _, _, _, _, _, _] "'" rfl (by decide)
      | some flag => exact reason_last [_, _, _, _, _, _, _] "'" rfl (by decide)
  | attachedValue flag value => exact reason_last [_, _, _, _] _ rfl (by decide)
  | notText => exact reason_last [] _ rfl (by decide)
  | badHead value fault =>
      refine reason_last [_, _, _, _] _ rfl ?_
      cases fault <;> decide
  | stated kind message => exact answers.elim

/-- A refusal with a usage section has it between the reason and the hint. -/
theorem text_refusal {reply : Reply} {usage : Command.Usage} {program : String}
    (asked : reply.usage? = some usage) (refuses : reply.runs program = refusalRuns program reply) :
    reply.text program = "error:" ++ reply.reason ++ "Usage: " ++ strip program ++ " " ++
      Command.chain.pattern usage ++ paragraph ++ hint := by
  have empty : strip paragraph = paragraph := by decide
  have pattern : strip (" " ++ Command.chain.pattern usage) = " " ++ Command.chain.pattern usage :=
    strip_kept (kept_append (by decide) (Command.kept_pattern usage))
  have whole : "Usage: " = "Usage:" ++ " " := by decide
  rw [text, refuses, refusalRuns, asked, whole]
  simp only [usageRuns, List.map_append, List.map_cons, List.map_nil, List.cons_append,
    List.nil_append, String.join_append, String.join_cons, String.join_nil, String.append_empty,
    strip_hintRuns, strip_error, strip_title, strip_blank, empty, pattern, reason,
    String.append_assoc]

theorem text_help (program : String) :
    (requested .help).text program = Command.chain.helpBefore ++ "Usage: " ++ strip program ++
      Command.chain.helpAfter Command.shortSection := by
  have whole : "Usage: " = "Usage:" ++ " " := by decide
  have before : strip Command.chain.helpBefore = Command.chain.helpBefore :=
    strip_kept (kept_append (by decide) (by decide))
  rw [text, runs, helpRuns, whole]
  simp only [List.map_cons, List.map_nil, String.join_cons, String.join_nil, String.append_empty,
    strip_title, strip_blank, before, strip_kept Command.kept_helpAfter, String.append_assoc]

theorem text_version (program : String) :
    (requested .version).text program = Command.chain.versionText := by
  have kept : strip Command.chain.versionText = Command.chain.versionText := by decide
  rw [text, runs]
  simp only [List.map_cons, List.map_nil, String.join_cons, String.join_nil, String.append_empty,
    kept]

/-- A bad head is refused with its value and its fault, and without a usage section. -/
theorem text_badHead (program value : String) (fault : Millis.Fault) :
    (badHead value fault).text program = "error: invalid value '" ++ strip value ++ "' for '" ++
      Command.chain.head.optional ++ "': " ++ fault.message ++ paragraph ++ hint := by
  have before : strip " invalid value '" = " invalid value '" := by decide
  have between : strip "' for '" = "' for '" := by decide
  have parameter : strip Command.chain.head.optional = Command.chain.head.optional := by decide
  have last : strip ("': " ++ fault.message ++ paragraph) =
      "': " ++ fault.message ++ paragraph := by
    cases fault <;> decide
  have whole : "error: invalid value '" = "error:" ++ " invalid value '" := by decide
  have refuses : (badHead value fault).runs program = ["error:", " invalid value '", value,
      "' for '", Command.chain.head.optional, "': " ++ fault.message ++ paragraph] ++ hintRuns :=
    rfl
  rw [text, refuses, whole]
  simp only [List.map_append, List.map_cons, List.map_nil, String.join_append, String.join_cons,
    String.join_nil, String.append_empty, strip_hintRuns, strip_error, before, between, parameter,
    last]
  simp only [String.append_assoc]

end Reply

namespace Request

/-- A request answers if every reply that it holds does. -/
def Answers : Request → Prop
  | answered reply | headThen _ reply => reply.Answers
  | nothing | queue .. => True

theorem ofFlag_answers (flag : Flag) (value : Option Word) : (ofFlag flag value).Answers := by
  cases value <;> exact True.intro

theorem unknownShort_answers (first : Piece) (others : Word) :
    (unknownShort first others).Answers := by
  cases first <;> exact True.intro

theorem afterHead_answers (head : Word) (words : List Word) : (afterHead head words).Answers := by
  unfold afterHead
  repeat' split
  all_goals exact True.intro

theorem ofWords_answers (words : List Word) : (ofWords words).Answers := by
  cases words with
  | nil => exact True.intro
  | cons word rest =>
      cases shape : Shape.ofWord word with
      | escape =>
          simp only [ofWords, shape]
          cases rest <;> exact True.intro
      | long name attached =>
          simp only [ofWords, shape]
          split
          · exact ofFlag_answers _ attached
          · exact True.intro
      | short first others =>
          simp only [ofWords, shape]
          split
          · exact afterHead_answers word rest
          · split
            · exact True.intro
            · exact unknownShort_answers first others
      | value =>
          simp only [ofWords, shape]
          exact afterHead_answers word rest

theorem readHead_answers {head : Word} {reply : Reply} (failed : readHead head = .error reply) :
    reply.Answers := by
  unfold readHead at failed
  split at failed
  · obtain rfl := Except.error.inj failed
    exact True.intro
  · split at failed
    · contradiction
    · obtain rfl := Except.error.inj failed
      exact True.intro

/-- What a command line replies is no stated reply. -/
theorem settle_answers {request : Request} (answers : request.Answers) {program : Option Bytes}
    {failure : Failure} (failed : request.settle program = .error failure) :
    failure = .blocked (.noDurations (programName program)) ∨
      ∃ reply, failure = .replied (commandName program) reply ∧ reply.Answers := by
  cases request with
  | nothing => exact .inl (Except.error.inj failed).symm
  | answered reply => exact .inr ⟨reply, (Except.error.inj failed).symm, answers⟩
  | headThen head reply =>
      simp only [settle] at failed
      split at failed
      · rename_i fault read
        exact .inr ⟨fault, (Except.error.inj failed).symm, readHead_answers read⟩
      · exact .inr ⟨reply, (Except.error.inj failed).symm, answers⟩
  | queue head tail =>
      simp only [settle] at failed
      split at failed
      · rename_i fault read
        exact .inr ⟨fault, (Except.error.inj failed).symm, readHead_answers read⟩
      · split at failed
        · rename_i fault read
          obtain rfl := readTail_error read
          exact .inr ⟨.notText, (Except.error.inj failed).symm, True.intro⟩
        · contradiction

end Request

/-- The message of a failure with its usage line, which stands first or behind an empty line. If
durations are missing, the line has the name `own` behind its title, and in a reply the name
`command`. A version and a bad head come without it. -/
inductive Worded (own command : String) : Failure → String → Prop where
  | noDurations {program : String} : Worded own command (.blocked (.noDurations program))
      ("Usage: " ++ own ++ " <sleep_duration> [additional_args...]")
  | help {program : String} : Worded own command (.replied program (.requested .help))
      (Command.chain.helpBefore ++ "Usage: " ++ command ++
        Command.chain.helpAfter Command.shortSection)
  | version {program : String} : Worded own command (.replied program (.requested .version))
      Command.chain.versionText
  | badHead {program value : String} {fault : Millis.Fault} :
      Worded own command (.replied program (.badHead value fault))
        ("error: invalid value '" ++ strip value ++ "' for '" ++ Command.chain.head.optional ++
          "': " ++ fault.message ++ Reply.paragraph ++ Reply.hint)
  | refused {program front : String} {reply : Reply} {usage : Command.Usage}
      (asked : reply.usage? = some usage) (reason : reply.reason = front ++ Reply.paragraph) :
      Worded own command (.replied program reply)
        ("error:" ++ front ++ Reply.paragraph ++ "Usage: " ++ command ++ " " ++
          Command.chain.pattern usage ++ Reply.paragraph ++ Reply.hint)

theorem Reply.worded {reply : Reply} (answers : reply.Answers) (own program : String) :
    Worded own (strip program) (.replied program reply) (reply.text program) := by
  cases reply with
  | requested flag =>
      cases flag with
      | help =>
          rw [text_help]
          exact .help
      | version =>
          rw [text_version]
          exact .version
  | badHead value fault =>
      rw [text_badHead]
      exact .badHead
  | unknownArgument argument suggestion headGiven =>
      obtain ⟨front, reason⟩ := reason_paragraph answers nofun
      rw [text_refusal rfl rfl, reason]
      exact .refused rfl reason
  | attachedValue flag value =>
      obtain ⟨front, reason⟩ := reason_paragraph answers nofun
      rw [text_refusal rfl rfl, reason]
      exact .refused rfl reason
  | notText =>
      obtain ⟨front, reason⟩ := reason_paragraph answers nofun
      rw [text_refusal rfl rfl, reason]
      exact .refused rfl reason
  | stated kind message => exact answers.elim

theorem Queue.ofCommandLine_worded {commandLine : List Bytes} {failure : Failure}
    (failed : ofCommandLine commandLine = .error failure) (display : Display) :
    Worded (programName commandLine.head?) (strip (commandName commandLine.head?)) failure
      (failure.message display) := by
  have settled : ofArguments commandLine.head? commandLine.tail = .error failure := by
    cases commandLine <;> exact failed
  rw [ofArguments_firstWords] at settled
  rcases Request.settle_answers (Request.ofWords_answers _) settled with rfl | ⟨reply, rfl, answers⟩
  · exact .noDurations
  · exact reply.worded answers _ _

/-- A program has a clear name if its path has no file name, or one that is a text without
controls. -/
def ClearName (program : Option Bytes) : Prop :=
  ∀ name, program.bind Path.fileName? = some name →
    ∃ text, name = encode text ∧ ∀ letter ∈ text.toList, ¬ Control letter

/-- A clear name is the same for both usage lines, and a terminal prints it as it stands. -/
theorem commandName_clear {program : Option Bytes} (clear : ClearName program) :
    strip (commandName program) = programName program := by
  unfold ClearName at clear
  rw [commandName, programName]
  cases named : program.bind Path.fileName? with
  | none =>
      have kept : strip packageName = packageName := by decide
      exact kept
  | some name =>
      obtain ⟨text, rfl, clear⟩ := clear name named
      rw [Option.bind_some, textEncode, Option.map_some, lossy_encode]
      exact strip_kept (kept_clear clear)

/-- A file name that is no text is shown with a replacement, or not at all. -/
theorem commandName_broken {program : Option Bytes} {name : Bytes}
    (named : program.bind Path.fileName? = some name) (broken : ¬ IsText name) :
    programName program = Bytes.lossy name ∧ commandName program = packageName ∧
      Bytes.lossy name ≠ packageName := by
  refine ⟨?_, ?_, ?_⟩
  · rw [programName, named]
    rfl
  · have unread : Bytes.text? name = none := text?_pieces_none.2 broken
    rw [commandName, named, Option.bind_some, unread]
    rfl
  · intro same
    exact broken ⟨packageName, lossy_sound (by decide) same⟩

namespace Queue

/-- Every failure of a command line has its message, and the usage line in it calls the program by
its name if that is clear. If the file name is no text, then the usage line of missing durations
shows it with replacements, and that of a reply shows the name of the package instead. -/
theorem ofCommandLine_usageLine :
    (∀ commandLine failure display, ClearName commandLine.head? →
      ofCommandLine commandLine = .error failure →
        Worded (programName commandLine.head?) (programName commandLine.head?) failure
          (failure.message display)) ∧
    ∀ program name, program.bind Path.fileName? = some name → ¬ IsText name →
      Bytes.lossy name ≠ packageName ∧
        ∀ commandLine failure display, commandLine.head? = program →
          ofCommandLine commandLine = .error failure →
            Worded (Bytes.lossy name) packageName failure (failure.message display) := by
  constructor
  · intro commandLine failure display clear failed
    have worded := ofCommandLine_worded failed display
    rwa [commandName_clear clear] at worded
  · intro program name named broken
    obtain ⟨own, command, different⟩ := commandName_broken named broken
    refine ⟨different, fun commandLine failure display same failed => ?_⟩
    subst same
    have worded := ofCommandLine_worded failed display
    have kept : strip packageName = packageName := by decide
    rwa [own, command, kept] at worded

/-- A refused flag with a value calls a clear name by itself. A name that is no text is shown with a
replacement if durations are missing, and not shown with an unknown flag. -/
theorem ofCommandLine_usageLine_attached :
    let clear := ["/opt/ré/.", "--help=x"].map encode
    let attached : Failure := .replied "ré" (.attachedValue .help "x")
    let broken : Bytes := [0x70, 0xFF]
    let missing : Failure := .blocked (.noDurations "p\ufffd")
    let unknown : Failure := .replied packageName (.unknownArgument "--x" none false)
    ClearName clear.head? ∧ ofCommandLine clear = .error attached ∧
      Worded "ré" "ré" attached (attached.message .full) ∧
      (some broken).bind Path.fileName? = some broken ∧ ¬ IsText broken ∧
      ofCommandLine [broken] = .error missing ∧
      Worded "p\ufffd" packageName missing (missing.message .full) ∧
      ofCommandLine [broken, encode "--x"] = .error unknown ∧
      Worded "p\ufffd" packageName unknown (unknown.message .full) := by
  intro clear attached broken missing unknown
  have clearName : ClearName clear.head? := by
    intro name named
    have file : clear.head?.bind Path.fileName? = some (encode "ré") := rfl
    obtain rfl := Option.some.inj (file.symm.trans named)
    exact ⟨"ré", rfl, by simp [Control]⟩
  have refused : ofCommandLine clear = .error attached := rfl
  have file : (some broken).bind Path.fileName? = some broken := rfl
  have noText : ¬ IsText broken := text?_pieces_none.1 rfl
  have blocked : ofCommandLine [broken] = .error missing := rfl
  have unread : ofCommandLine [broken, encode "--x"] = .error unknown := by decide +kernel
  have worded := (ofCommandLine_usageLine.2 (some broken) broken file noText).2
  exact ⟨clearName, refused, ofCommandLine_usageLine.1 clear attached .full clearName refused, file,
    noText, blocked, worded [broken] missing .full rfl blocked, unread,
    worded [broken, encode "--x"] unknown .full rfl unread⟩

end Queue

end LingerChain
