/-
This file shows a process from outside: what it writes, what it starts and how it ends.
-/

import LingerChain.Chain
import LingerChain.Launch
import LingerChain.Log.Filter

namespace LingerChain

inductive Stream where
  | output
  | error
  deriving DecidableEq, Repr

inductive Deed where
  | write (stream : Stream) (text : String)
  | spawn (arguments : List String) (child : Nat)
  | sleep (span : Span)
  deriving DecidableEq

inductive Finish where
  | exited (status : Nat)
  | endless (step : Span)
  deriving DecidableEq

structure Life where
  deeds : List Deed
  finish : Finish
  deriving DecidableEq

namespace Deed

def written? (stream : Stream) : Deed → Option String
  | write target text => if target = stream then some text else none
  | spawn .. | sleep _ => none

def spawned? : Deed → Option (List String)
  | spawn arguments _ => some arguments
  | write .. | sleep _ => none

end Deed

namespace Life

/-- The life goes on after these deeds. -/
def after (deeds : List Deed) (life : Life) : Life := ⟨deeds ++ life.deeds, life.finish⟩

def written (stream : Stream) (life : Life) : String :=
  String.join (life.deeds.filterMap (Deed.written? stream))

def spawned (life : Life) : List (List String) := life.deeds.filterMap Deed.spawned?

def status? (life : Life) : Option Nat :=
  match life.finish with
  | .exited status => some status
  | .endless _ => none

end Life

/-- A log is a filter, what was wrong with its text, and the way to write numbers and paths. -/
structure Log where
  filter : Filter
  warnings : List Filter.Warning
  display : Display

namespace Log

/-- Without a filter only errors are written, and no note is an error. -/
def ofText? (display : Display) : Option String → Log
  | none => ⟨.silent, [], display⟩
  | some text =>
      let (filter, warnings) := Filter.read text.toList
      ⟨filter, warnings, display⟩

def note (log : Log) (note : Note) : List Deed :=
  if log.filter.passes note then [.write .error (note.line log.display)] else []

def warn (log : Log) : List Deed :=
  log.warnings.map fun warning => .write .error (warning ++ "\n")

end Log

namespace Program

def deeds (log : Log) : Effect → List Deed
  | .log note => log.note note
  | .launch arguments child => (child.map (Deed.spawn arguments)).toList
  | .sleep span => [.sleep span]

/-- A reply is written as it stands. Any other failure is noted first and takes a line. -/
def fail (log : Log) (own : Nat) : Failure → Life
  | .replied program reply =>
      ⟨[.write (if reply.usesStandardError then .error else .output) (reply.text program)],
        .exited reply.exitCode⟩
  | .blocked obstacle =>
      ⟨log.note (.failed own obstacle) ++ [.write .error (obstacle.message log.display ++ "\n")],
        .exited (Failure.exitCode (.blocked obstacle))⟩

def finish (log : Log) (own : Nat) : Ending → Life
  | .returned => ⟨[], .exited 0⟩
  | .failed failure => fail log own failure
  | .endless step => ⟨[], .endless step⟩

/-- The warnings about the filter come before everything else. -/
def live (log : Log) (own : Nat) : Except Failure Trace → Life
  | .error failure => (fail log own failure).after log.warn
  | .ok trace =>
      (finish log own trace.ending).after (log.warn ++ trace.effects.flatMap (deeds log))

end Program

/-- The surroundings of a program are its own executable and the system that starts processes. -/
structure Surroundings where
  executable : Except SystemFault Bytes
  spawn : Spawner

namespace Surroundings

/-- The executable is looked for after the arguments have been read. -/
def run (surroundings : Surroundings) (own : Nat) (program : Option Bytes)
    (arguments : List Bytes) : Except Failure Trace :=
  match Queue.ofArguments program arguments with
  | .error failure => .error failure
  | .ok queue =>
      match surroundings.executable with
      | .error fault => .error (.blocked (.noExecutable fault))
      | .ok executable =>
          .ok (Node.start own (.ofExecutable surroundings.spawn executable) queue)

def live (surroundings : Surroundings) (log : Log) (own : Nat) (program : Option Bytes)
    (arguments : List Bytes) : Life :=
  Program.live log own (surroundings.run own program arguments)

/-- Every child is started by the path of the same executable. -/
def origin (surroundings : Surroundings) (executable : Bytes) : Origin :=
  ⟨some executable, fun _ => .ofExecutable surroundings.spawn executable⟩

/-- All processes of a chain live side by side. They are listed from the root down. -/
def lives (surroundings : Surroundings) (log : Log) (own : Nat) (program : Option Bytes)
    (arguments : List Bytes) : List Life :=
  match surroundings.executable with
  | .error _ => [surroundings.live log own program arguments]
  | .ok executable =>
      ((surroundings.origin executable).chain own program arguments).map fun level =>
        Program.live log level.own (level.run.map Prod.snd)

end Surroundings

end LingerChain
