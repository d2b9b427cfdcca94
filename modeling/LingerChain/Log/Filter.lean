/-
This file reads a filter for the log and says which notes pass it.
-/

import LingerChain.Log.Note
import LingerChain.Pattern.Refusal

namespace LingerChain

/-- A limit lets through the notes that are no more detailed than it. -/
inductive Limit where
  | off
  | error
  | warn
  | info
  | debug
  | trace
  deriving DecidableEq, Repr

namespace Limit

def all : List Limit := [off, error, warn, info, debug, trace]

def name : Limit → String
  | off => "off"
  | error => "error"
  | warn => "warn"
  | info => "info"
  | debug => "debug"
  | trace => "trace"

/-- The case of the letters in a name is of no importance. -/
def ofName? (name : List Char) : Option Limit :=
  all.find? fun limit => limit.name.toList = name.map Char.toLower

/-- Only these two limits are detailed enough for a note. -/
def passesNotes : Limit → Bool
  | debug | trace => true
  | _ => false

end Limit

/-- A directive sets the limit of all targets, or of those that begin with its name. -/
structure Directive where
  name : Option (List Char)
  limit : Limit
  deriving DecidableEq, Repr

namespace Directive

def length (directive : Directive) : Nat := (directive.name.map List.length).getD 0

def covers (directive : Directive) (target : List Char) : Bool :=
  match directive.name with
  | none => true
  | some name => name.isPrefixOf target

/-- A later directive takes the place of an earlier one of the same name. -/
def insert (directive : Directive) : List Directive → List Directive
  | [] => [directive]
  | other :: rest =>
      if other.name = directive.name then directive :: rest else other :: insert directive rest

/-- The longer name is the nearer one, and of equal ones the later. -/
def nearer (target : List Char) (best : Option Directive) (directive : Directive) :
    Option Directive :=
  if directive.covers target then
    match best with
    | none => some directive
    | some other => if other.length ≤ directive.length then some directive else best
  else best

end Directive

structure Filter where
  directives : List Directive
  /-- If there is an expression, a message passes only if the expression occurs in it. -/
  expression : Option Pattern.Expression

namespace Filter

/-- What makes no sense in a filter is left out with a warning. -/
abbrev Warning := String

def senseless (word : List Char) : Warning :=
  "warning: invalid logging spec '" ++ String.ofList word ++ "', ignoring it"

def refused (refusal : Pattern.Refusal) : Warning :=
  "warning: invalid regex filter - " ++ refusal.message

/-- A word alone is a limit if it can be one, and the name of a target otherwise. -/
def readDirective (word : List Char) : Except Warning Directive :=
  match word.splitOn '=' with
  | [name] =>
      match Limit.ofName? name with
      | some limit => .ok ⟨none, limit⟩
      | none => .ok ⟨some name, .trace⟩
  | [name, limit] =>
      if trim limit = [] then .ok ⟨some name, .trace⟩
      else
        match Limit.ofName? (trim limit) with
        | some limit => .ok ⟨some name, limit⟩
        | none => .error (senseless (trim limit))
  | _ => .error (senseless word)

def readDirectives : List (List Char) → List Directive × List Warning
  | [] => ([], [])
  | word :: rest =>
      let (directives, warnings) := readDirectives rest
      match readDirective word with
      | .ok directive => (directive :: directives, warnings)
      | .error warning => (directives, warning :: warnings)

/-- Only the text after a slash is read as a pattern. -/
def readExpression : List (List Char) → Option Pattern.Expression × List Warning
  | [] => (none, [])
  | pattern :: _ =>
      match Pattern.Expression.ofText pattern with
      | .ok expression => (some expression, [])
      | .error refusal => (none, [refused refusal])

/-- Errors alone pass where nothing else is said. -/
def ofDirectives (directives : List Directive) (expression : Option Pattern.Expression) :
    Filter :=
  match directives.foldl (fun kept directive => directive.insert kept) [] with
  | [] => ⟨[⟨none, .error⟩], expression⟩
  | kept => ⟨kept, expression⟩

def silent : Filter := ofDirectives [] none

/-- Directives stand between commas, and after a slash a pattern for the messages. -/
def read (text : List Char) : Filter × List Warning :=
  match text.splitOn '/' with
  | names :: rest =>
      if 1 < rest.length then
        (silent, [senseless text ++ " (too many '/'s)"])
      else
        let words := ((names.splitOn ',').map trim).filter (· ≠ [])
        let (directives, warnings) := readDirectives words
        let (expression, refusals) := readExpression rest
        (ofDirectives directives expression, warnings ++ refusals)
  | [] => (silent, [])

/-- A note passes if its target is covered in enough detail. The expression is looked for in the
message as it is, also where numbers and paths are not written in full. -/
def passes (filter : Filter) (note : Note) : Bool :=
  (match filter.directives.foldl (Directive.nearer note.target.toList) none with
    | some directive => directive.limit.passesNotes
    | none => false) &&
  filter.expression.all fun expression => expression.occursIn (note.message .full).toList

end Filter

end LingerChain
