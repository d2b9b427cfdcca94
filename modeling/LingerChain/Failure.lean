/-
This file holds everything that stops a node before it lingers, and what the node says about it.
-/

import LingerChain.CommandLine.Reply
import LingerChain.SystemFault

namespace LingerChain

/-- A display says how process numbers and paths are written. -/
structure Display where
  own : Nat → String
  child : Nat → String
  path : Bytes → String

def Display.full : Display := ⟨toString, toString, quoteBytes⟩

/-- An obstacle lies outside the words of the command line. -/
inductive Obstacle where
  | noDurations (program : String)
  | noExecutable (fault : SystemFault)
  | noChild (executable : Bytes) (fault : SystemFault)
  deriving DecidableEq, Repr

namespace Obstacle

def message (display : Display) : Obstacle → String
  | noDurations program => "Usage: " ++ program ++ " <sleep_duration> [additional_args...]"
  | noExecutable fault => "Could not locate own executable: " ++ fault.message
  | noChild executable fault =>
      "Could not spawn " ++ display.path executable ++ ": " ++ fault.message

/-- The record form names the parts of an obstacle. -/
def text (display : Display) : Obstacle → String
  | noDurations program => "Usage \x7b program: " ++ quote program ++ " \x7d"
  | noExecutable fault => "SelfExe(" ++ fault.text ++ ")"
  | noChild executable fault =>
      "Spawn \x7b exe: " ++ display.path executable ++ ", source: " ++ fault.text ++ " \x7d"

def fault? : Obstacle → Option SystemFault
  | noDurations _ => none
  | noExecutable fault => some fault
  | noChild _ fault => some fault

end Obstacle

inductive Failure where
  /-- The texts of a reply name the program. -/
  | replied (program : String) (reply : Reply)
  | blocked (obstacle : Obstacle)
  deriving DecidableEq, Repr

namespace Failure

def message (display : Display) : Failure → String
  | replied program reply => reply.text program
  | blocked obstacle => obstacle.message display

def cause? : Failure → Option String
  | replied _ reply => reply.cause?
  | blocked obstacle => obstacle.fault?.map SystemFault.message

def exitCode : Failure → Nat
  | replied _ reply => reply.exitCode
  | blocked _ => 1

end Failure

end LingerChain
