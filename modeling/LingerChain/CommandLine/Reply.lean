/-
This file holds what a command line answers when it yields no queue, and the words of each answer.
-/

import LingerChain.CommandLine.Similarity
import LingerChain.Millis
import LingerChain.Text.Terminal

namespace LingerChain

inductive ReplyKind where
  | invalidValue
  | unknownArgument
  | invalidSubcommand
  | noEquals
  | valueValidation
  | tooManyValues
  | tooFewValues
  | wrongNumberOfValues
  | argumentConflict
  | missingRequiredArgument
  | missingSubcommand
  | invalidUtf8
  | displayHelp
  | displayHelpOnMissingArgumentOrSubcommand
  | displayVersion
  | io
  | format
  deriving DecidableEq, Repr

namespace ReplyKind

/-- Help and version were asked for. Every other kind is a mistake. -/
def isRequest : ReplyKind → Bool
  | displayHelp | displayVersion => true
  | _ => false

end ReplyKind

/-- A reply is a text that was asked for, or the reason why the words were refused. -/
inductive Reply where
  | requested (flag : Flag)
  | unknownArgument (argument : String) (suggestion : Option Flag) (headGiven : Bool)
  | attachedValue (flag : Flag) (value : String)
  | notText
  | badHead (value : String) (fault : Millis.Fault)
  | stated (kind : ReplyKind) (message : String)
  deriving DecidableEq, Repr

namespace Reply

def kind : Reply → ReplyKind
  | requested .help => .displayHelp
  | requested .version => .displayVersion
  | unknownArgument .. => .unknownArgument
  | attachedValue .. => .tooManyValues
  | notText => .invalidUtf8
  | badHead .. => .valueValidation
  | stated kind _ => kind

/-- The usage line takes up what the words have named so far. -/
def usage? : Reply → Option Command.Usage
  | requested .help => some .fresh
  | requested .version => none
  | unknownArgument _ suggestion headGiven => some ⟨suggestion, headGiven⟩
  | attachedValue flag _ => some ⟨some flag, false⟩
  | notText => some .fresh
  | badHead .. => none
  | stated .. => some .fresh

/-- A text is a list of runs in one style each. -/
abbrev Runs := List String

def usageRuns (program : String) (usage : Command.Usage) : Runs :=
  ["Usage:", " ", program, " " ++ Command.chain.pattern usage]

def helpRuns (program : String) : Runs :=
  [Command.chain.helpBefore, "Usage:", " ", program,
    Command.chain.helpAfter Command.shortSection]

/-- A paragraph ends with its last run. -/
def paragraph : String := "\n\n"

/-- Each tip stands on a line of its own. -/
def tipRuns (argument : String) : Option Flag → Runs
  | some flag =>
      [paragraph ++ "  ", "tip:", " a similar argument exists: '", flag.long, "'" ++ paragraph]
  | none =>
      [paragraph ++ "  ", "tip:", " to pass '", argument, "' as a value, use '",
        "-- " ++ argument, "'" ++ paragraph]

def reasonRuns : Reply → Runs
  | requested _ => []
  | unknownArgument argument suggestion _ =>
      [" unexpected argument '", argument, "' found"] ++ tipRuns argument suggestion
  | attachedValue flag value =>
      [" unexpected value '", value, "' for '", flag.long,
        "' found; no more were expected" ++ paragraph]
  | notText => [" invalid UTF-8 was detected in one or more arguments" ++ paragraph]
  | badHead value fault =>
      [" invalid value '", value, "' for '", Command.chain.head.shown false,
        "': " ++ fault.message ++ paragraph]
  | stated _ message => [" " ++ message ++ paragraph]

def hintRuns : Runs := ["For more information, try '", Flag.help.long, "'.\n"]

def refusalRuns (program : String) (reply : Reply) : Runs :=
  "error:" :: reply.reasonRuns ++
    (match reply.usage? with
      | some usage => usageRuns program usage ++ [paragraph]
      | none => []) ++
    hintRuns

def runs (program : String) : Reply → Runs
  | requested .help => helpRuns program
  | requested .version => [Command.chain.versionText]
  | reply => refusalRuns program reply

/-- A run is rid of its control sequences by itself, because a change of style cuts them short. -/
def text (program : String) (reply : Reply) : String :=
  String.join ((reply.runs program).map Terminal.strip)

/-- No parameter is left that could take this word. -/
def unexpected (word : Word) : Reply :=
  stated .unknownArgument ("unexpected argument '" ++ word.lossy ++ "' found")

def missing (parameters : List Parameter) : Reply :=
  stated .missingRequiredArgument ("the following required arguments were not provided:" ++
    String.join (parameters.map fun parameter => "\n  " ++ parameter.given))

/-- Only a bad head has a cause of its own. -/
def cause? : Reply → Option String
  | badHead _ fault => some fault.message
  | _ => none

def exitCode (reply : Reply) : Nat := if reply.kind.isRequest then 0 else 2

def usesStandardError (reply : Reply) : Bool := !reply.kind.isRequest

end Reply

end LingerChain
