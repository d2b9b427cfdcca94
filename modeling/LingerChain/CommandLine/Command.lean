/-
This file describes the command: its flags, its parameters and the help text made from them.
-/

import LingerChain.ProgramName

namespace LingerChain

inductive Flag where
  | help
  | version
  deriving DecidableEq, Repr

namespace Flag

def all : List Flag := [help, version]

def name : Flag → String
  | help => "help"
  | version => "version"

def letter : Flag → Char
  | help => 'h'
  | version => 'V'

def summary : Flag → String
  | help => "Print help"
  | version => "Print version"

def long (flag : Flag) : String := "--" ++ flag.name

end Flag

/-- A parameter takes no value, one value, or one value and any number of further ones. -/
inductive Arity where
  | none
  | one
  | many
  deriving DecidableEq, Repr

inductive Action where
  | set
  | append
  | help
  | version
  deriving DecidableEq, Repr

/-- These actions answer at once. The others keep values. -/
def Action.flag? : Action → Option Flag
  | help => some .help
  | version => some .version
  | set | append => none

structure Parameter where
  id : String
  summary : String
  /-- A parameter with a position is given by its place, any other by its flag. -/
  position : Option Nat
  letter : Option Char
  action : Action
  arity : Arity
  /-- What looks like a number may begin with a dash. -/
  negativeNumbers : Bool
  /-- Any value may begin with a dash, unless it is a flag in front of the first value. -/
  hyphenValues : Bool
  required : Bool

namespace Parameter

def ofFlag (flag : Flag) : Parameter where
  id := flag.name
  summary := flag.summary
  position := none
  letter := some flag.letter
  action := match flag with
    | .help => .help
    | .version => .version
  arity := .none
  negativeNumbers := false
  hyphenValues := false
  required := false

/-- A parameter that need not be given stands in square brackets. -/
def optional (parameter : Parameter) : String :=
  "[" ++ parameter.id ++ "]" ++ if parameter.arity = .many then "..." else ""

/-- A parameter that has been given stands in angle brackets. -/
def given (parameter : Parameter) : String :=
  "<" ++ parameter.id ++ ">" ++ if parameter.arity = .many then "..." else ""

/-- A parameter that has to be given is shown as if it had been. -/
def shown (parameter : Parameter) (present : Bool) : String :=
  if present || parameter.required then parameter.given else parameter.optional

def label (parameter : Parameter) : String :=
  match parameter.letter with
  | some letter => "-" ++ letter.toString ++ ", --" ++ parameter.id
  | none => parameter.shown false

end Parameter

structure Command where
  name : String
  version : String
  about : String
  head : Parameter
  tail : Parameter

namespace Command

def chain : Command where
  name := packageName
  version := "0.1.0"
  about := "Run a chain of processes, one per duration, each lingering for its own duration"
  head :=
    { id := "sleep_duration"
      summary :=
        "Milliseconds this process lingers: 0 exits at once, a negative value never exits"
      position := some 1
      letter := none
      action := .set
      arity := .one
      negativeNumbers := true
      hyphenValues := false
      required := false }
  tail :=
    { id := "additional_args"
      summary := "Durations of the next levels, handed over to the child as they are"
      position := some 2
      letter := none
      action := .append
      arity := .many
      negativeNumbers := false
      hyphenValues := true
      required := false }

def flags : List Parameter := Flag.all.map .ofFlag

def positionals (command : Command) : List Parameter := [command.head, command.tail]

def parameters (command : Command) : List Parameter := command.positionals ++ flags

/-- The parameter that takes its values at this place. -/
def positional? (command : Command) (place : Nat) : Option Parameter :=
  command.parameters.find? fun parameter => parameter.position = some place

/-- A parameter without a position is a flag, if its action answers. -/
def flag? (command : Command) (spelt : Parameter → Bool) : Option Flag :=
  (command.parameters.find? fun parameter => parameter.position = none ∧ spelt parameter).bind
    fun parameter => parameter.action.flag?

def named? (command : Command) (name : String) : Option Flag :=
  command.flag? fun parameter => parameter.id = name

def lettered? (command : Command) (piece : Piece) : Option Flag :=
  piece.char?.bind fun letter => command.flag? fun parameter => parameter.letter = some letter

/-- The usage line may name a flag first, and shows whether the head has been given. -/
structure Usage where
  flag : Option Flag
  headGiven : Bool

def Usage.fresh : Usage := ⟨none, false⟩

def pattern (command : Command) (usage : Usage) : String :=
  (match usage.flag with
    | some flag => flag.long ++ " "
    | none => "") ++
  command.head.shown usage.headGiven ++ " " ++ command.tail.shown false

def width (parameters : List Parameter) : Nat :=
  parameters.foldl (fun longest parameter => max longest parameter.label.length) 0

/-- The summaries of a section stand in one column. -/
def shortLine (column : Nat) (parameter : Parameter) : String :=
  "  " ++ parameter.label ++ String.ofList (List.replicate (column - parameter.label.length) ' ') ++
    "  " ++ parameter.summary ++ "\n"

def longBlock (parameter : Parameter) : String :=
  "  " ++ parameter.label ++ "\n          " ++ parameter.summary ++ "\n"

def shortSection (parameters : List Parameter) : String :=
  String.join (parameters.map (shortLine (width parameters)))

def longSection (parameters : List Parameter) : String :=
  "\n".intercalate (parameters.map longBlock)

/-- Help comes in two parts, before and after the name of the program. -/
def helpBefore (command : Command) : String := command.about ++ "\n\n"

def helpAfter (command : Command) (layOut : List Parameter → String) : String :=
  " " ++ command.pattern .fresh ++ "\n\nArguments:\n" ++ layOut command.positionals ++
    "\nOptions:\n" ++ layOut flags

def versionText (command : Command) : String := command.name ++ " " ++ command.version ++ "\n"

end Command

end LingerChain
