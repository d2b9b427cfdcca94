/-
This file runs one node: it announces itself, launches the next node, and lingers.
-/

import LingerChain.Log.Note
import LingerChain.Queue

namespace LingerChain

/-- A launcher takes notes of its own and gives the number of the child. -/
structure Answer where
  notes : List Note
  child : Except Failure Nat

abbrev Launcher := List String → Answer

/-- A launch is without a child if it has failed. -/
inductive Effect where
  | log (note : Note)
  | launch (arguments : List String) (child : Option Nat)
  | sleep (span : Span)
  deriving DecidableEq

namespace Effect

/-- A successful launch gives the number of the child and its arguments. -/
def launched? : Effect → Option (Nat × List String)
  | launch arguments child => child.map fun child => (child, arguments)
  | log _ | sleep _ => none

end Effect

/-- A node that is endless sleeps again and again. -/
inductive Ending where
  | returned
  | failed (failure : Failure)
  | endless (step : Span)
  deriving DecidableEq

structure Trace where
  effects : List Effect
  ending : Ending
  deriving DecidableEq

namespace Trace

/-- The trace goes on after these effects. -/
def after (effects : List Effect) (trace : Trace) : Trace :=
  ⟨effects ++ trace.effects, trace.ending⟩

/-- Only a trace that has returned goes on. -/
def thenAlso (trace : Trace) (effects : List Effect) : Trace :=
  match trace.ending with
  | .returned => ⟨trace.effects ++ effects, .returned⟩
  | .failed _ | .endless _ => trace

/-- This view counts the sleeps of an endless node as effects. -/
def at? (trace : Trace) (index : Nat) : Option Effect :=
  match trace.effects[index]?, trace.ending with
  | some effect, _ => some effect
  | none, .endless step => some (.sleep step)
  | none, _ => none

def launched? (trace : Trace) : Option (Nat × List String) :=
  trace.effects.findSome? Effect.launched?

end Trace

namespace Node

def wait : Wait → Trace
  | .exit => ⟨[], .returned⟩
  | .sleep span => ⟨[.sleep span], .returned⟩
  | .forever => ⟨[.log .asleep], .endless Wait.tick⟩

def linger (time : Wait) : Trace := (wait time).thenAlso [.log .done]

def settle (queue : Queue) : Trace :=
  (linger (Wait.ofMillis queue.head)).after [.log (.applying (Wait.ofMillis queue.head))]

/-- The node takes note of a child, and the notes of the launcher stand before. -/
def launching (queue : Queue) : Answer → List Effect
  | ⟨notes, .error _⟩ => .launch queue.tail none :: notes.map .log
  | ⟨notes, .ok child⟩ =>
      .launch queue.tail (some child) :: notes.map .log ++
        [.log (.launched child queue.tail.length)]

/-- A node that cannot launch its child does not linger. -/
def descend (queue : Queue) (answer : Answer) : Trace :=
  match answer.child with
  | .error failure => ⟨launching queue answer, .failed failure⟩
  | .ok _ => (settle queue).after (launching queue answer)

/-- The child is launched before the node begins to wait. -/
def start (own : Nat) (launcher : Launcher) (queue : Queue) : Trace :=
  (if queue.tail = [] then settle queue else descend queue (launcher queue.tail)).after
    [.log (.node own queue.depth queue.head)]

theorem launchedAfterNotes (notes : List Note) (effects : List Effect) :
    (notes.map Effect.log ++ effects).findSome? Effect.launched? =
      effects.findSome? Effect.launched? := by
  induction notes with
  | nil => rfl
  | cons note rest ih => exact ih

theorem settleLaunched (queue : Queue) : (settle queue).launched? = none := by
  unfold settle linger Trace.launched?
  cases Wait.ofMillis queue.head <;> rfl

theorem descendLaunched (queue : Queue) (answer : Answer) :
    (descend queue answer).launched? =
      answer.child.toOption.map fun child => (child, queue.tail) := by
  obtain ⟨notes, failure | child⟩ := answer
  · have silent := launchedAfterNotes notes []
    rw [List.append_nil] at silent
    exact silent
  · rfl

/-- A node launches its tail or nothing. -/
theorem startLaunched (own : Nat) (launcher : Launcher) (queue : Queue) :
    (start own launcher queue).launched? =
      if queue.tail = [] then none
      else (launcher queue.tail).child.toOption.map fun child => (child, queue.tail) := by
  unfold start
  split
  · exact settleLaunched queue
  · exact descendLaunched queue (launcher queue.tail)

end Node

end LingerChain
