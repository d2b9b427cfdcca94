/-
This file reads a whole command line, program name included, into a queue.
-/

import LingerChain.CommandLine.Parser
import LingerChain.Failure
import LingerChain.Queue

namespace LingerChain

namespace Request

/-- Faults of the head come before faults of the tail. -/
def settle (program : Option Bytes) : Request → Except Failure Queue
  | nothing => .error (.blocked (.noDurations (programName program)))
  | answered reply => .error (.replied (commandName program) reply)
  | headThen head reply =>
      match readHead head with
      | .error fault => .error (.replied (commandName program) fault)
      | .ok _ => .error (.replied (commandName program) reply)
  | queue head tail =>
      match readHead head with
      | .error fault => .error (.replied (commandName program) fault)
      | .ok millis =>
          match readTail tail with
          | .error fault => .error (.replied (commandName program) fault)
          | .ok texts => .ok ⟨millis, texts⟩

end Request

namespace Queue

def ofArguments (program : Option Bytes) (arguments : List Bytes) : Except Failure Queue :=
  (Command.chain.request (arguments.map Bytes.pieces)).settle program

/-- The first word of a command line names the program. -/
def ofCommandLine : List Bytes → Except Failure Queue
  | [] => ofArguments none []
  | program :: arguments => ofArguments (some program) arguments

/-- The tail is what is left of the arguments after the head. -/
theorem tailShorter {program : Option Bytes} {arguments : List Bytes} {queue : Queue}
    (parsed : ofArguments program arguments = .ok queue) :
    queue.tail.length < arguments.length := by
  unfold ofArguments Request.settle at parsed
  split at parsed
  all_goals try (split at parsed <;> contradiction)
  all_goals try contradiction
  rename_i head tail request
  have bound := Command.chain.request_queue (by decide) request
  split at parsed
  · contradiction
  · split at parsed
    · contradiction
    · rename_i texts read
      injection parsed with same
      have equal := Request.readTailLength read
      subst same
      simpa [equal] using bound

end Queue

end LingerChain
