/-
This file runs all processes of a chain side by side, one action of one process at a time.
-/

import LingerChain.Program

namespace LingerChain

/-- A phase is how far a process has come, with the queue that it has read. -/
inductive Phase where
  | started
  | parsed (queue : Queue)
  | announced (queue : Queue)
  | launched (queue : Queue)
  | waiting (queue : Queue)
  | asleep (queue : Queue)
  | done (queue : Queue)
  /-- The process has met its failure, but it has not yet ended. -/
  | failing (failure : Failure)
  | failed (failure : Failure)
  deriving DecidableEq

/-- The parent of a process is its place in the system. The root has none. -/
structure Process where
  parent : Option Nat
  program : Option Bytes
  arguments : List Bytes
  phase : Phase
  effects : List Effect
  deriving DecidableEq

namespace Phase

def queue? : Phase → Option Queue
  | parsed queue | announced queue | launched queue | waiting queue | asleep queue
  | done queue => some queue
  | started | failing _ | failed _ => none

def read : Except Failure Queue → Phase
  | .ok queue => parsed queue
  | .error failure => failing failure

def ofAnswer (queue : Queue) (answer : Answer) : Phase :=
  match answer.child with
  | .ok _ => launched queue
  | .error failure => failing failure

def ofEnding (queue : Queue) : Ending → Phase
  | .returned => done queue
  | .failed failure => failing failure
  | .endless _ => asleep queue

end Phase

namespace Process

def fresh (parent : Option Nat) (program : Option Bytes) (arguments : List Bytes) : Process :=
  ⟨parent, program, arguments, .started, []⟩

def applying (queue : Queue) : List Effect × Phase :=
  ([.log (.applying (Wait.ofMillis queue.head))], .waiting queue)

/-- The executable is looked for before a process announces itself. -/
def announcing (own : Nat) (queue : Queue) : Option SystemFault → List Effect × Phase
  | none => ([.log (.node own queue.depth queue.head)], .announced queue)
  | some fault => ([], .failing (.blocked (.noExecutable fault)))

/-- Each action has the effects of one part of a node. -/
def next? (own : Nat) (fault : Option SystemFault) (launcher : Launcher) (process : Process) :
    Option (List Effect × Phase) :=
  match process.phase with
  | .started => some ([], .read (Queue.ofArguments process.program process.arguments))
  | .parsed queue => some (announcing own queue fault)
  | .announced queue =>
      if queue.tail = [] then some (applying queue)
      else
        let answer := launcher queue.tail
        some (Node.launching queue answer, .ofAnswer queue answer)
  | .launched queue => some (applying queue)
  | .waiting queue =>
      let rest := Node.linger (Wait.ofMillis queue.head)
      some (rest.effects, .ofEnding queue rest.ending)
  | .failing failure => some ([], .failed failure)
  | .asleep _ | .done _ | .failed _ => none

def act (process : Process) (effects : List Effect) (phase : Phase) : Process :=
  { process with phase := phase, effects := process.effects ++ effects }

def status? (process : Process) : Option Nat :=
  match process.phase with
  | .done _ => some 0
  | .failed failure => some failure.exitCode
  | _ => none

/-- A process has written the notes that pass and, if it has failed, why. -/
def deeds (log : Log) (own : Nat) (process : Process) : List Deed :=
  log.warn ++ process.effects.flatMap (Program.deeds log) ++
    match process.phase with
    | .failed failure => (Program.fail log own failure).deeds
    | _ => []

end Process

abbrev System := List Process

namespace System

def root (program : Option Bytes) (arguments : List Bytes) : System :=
  [Process.fresh none program arguments]

/-- A new process takes the next free place, unless the launch meets a fault. -/
def launcher (executable : Bytes) (system : System) : Option SystemFault → Launcher
  | none => fun arguments =>
      ⟨[.spawned executable arguments system.length], .ok system.length⟩
  | some fault => fun _ => ⟨[], .error (.blocked (.noChild executable fault))⟩

def born (executable : Bytes) (parent : Nat) (effects : List Effect) : List Process :=
  ((effects.findSome? Effect.launched?).map fun launched =>
    Process.fresh (some parent) (some executable) (launched.2.map encode)).toList

def act? (executable : Bytes) (fault : Option SystemFault) (place : Nat) (system : System) :
    Option System :=
  system[place]?.bind fun process =>
    (process.next? place fault (launcher executable system fault)).map fun move =>
      system.set place (process.act move.1 move.2) ++ born executable place move.1

/-- Any process may act next, and it may meet any fault that is allowed when it looks for its
executable or launches its child. -/
inductive Step (executable : Bytes) (allowed : SystemFault → Prop) :
    System → System → Prop where
  | act {before after : System} {place : Nat}
      (acted : before.act? executable none place = some after) :
      Step executable allowed before after
  | fault {before after : System} {place : Nat} {fault : SystemFault} (allows : allowed fault)
      (acted : before.act? executable (some fault) place = some after) :
      Step executable allowed before after

inductive Reachable (executable : Bytes) (allowed : SystemFault → Prop) (start : System) :
    System → Prop where
  | refl : Reachable executable allowed start start
  | step {before after : System} (reached : Reachable executable allowed start before)
      (next : Step executable allowed before after) : Reachable executable allowed start after

/-- In a system at rest every process has ended or is asleep for ever. -/
def AtRest (executable : Bytes) (system : System) : Prop :=
  ∀ next, ¬ Step executable (fun _ => False) system next

/-- The chain that runs level after level numbers its processes by their level. -/
def origin (executable : Bytes) : Origin where
  child := some executable
  launcher := fun depth arguments =>
    ⟨[.spawned executable arguments (depth + 1)], .ok (depth + 1)⟩

/-- The first process that can act does so, until none can or the steps are used up. -/
def run (executable : Bytes) : Nat → System → System
  | 0, system => system
  | steps + 1, system =>
      match (List.range system.length).findSome? fun place =>
          system.act? executable none place with
      | some next => run executable steps next
      | none => system

end System

end LingerChain
