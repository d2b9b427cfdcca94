/-
This file numbers the processes of a chain in any way, and shows that a log that does not write the
numbers stays the same.
-/

import LingerChain.Proofs.Anonymity
import LingerChain.Proofs.Behaviour
import LingerChain.Schedule

namespace LingerChain

def Note.renumber (number : Nat → Nat) : Note → Note
  | node own depth head => node (number own) depth head
  | spawned executable arguments child => spawned executable arguments (number child)
  | launched child remaining => launched (number child) remaining
  | applying wait => applying wait
  | asleep => asleep
  | done => done
  | failed own obstacle => failed (number own) obstacle

theorem Note.renumber_anonymous (number : Nat → Nat) (note : Note) :
    (note.renumber number).anonymous = note.anonymous := by
  cases note <;> rfl

theorem Note.anonymous_target (note : Note) : note.anonymous.target = note.target := by
  cases note <;> rfl

namespace Effect

def renumber (number : Nat → Nat) : Effect → Effect
  | log note => log (note.renumber number)
  | launch arguments child => launch arguments (child.map number)
  | sleep span => sleep span

theorem renumber_anonymous (number : Nat → Nat) (effect : Effect) :
    (effect.renumber number).anonymous = effect.anonymous := by
  cases effect with
  | log note => exact congrArg log (note.renumber_anonymous number)
  | launch arguments child => cases child <;> rfl
  | sleep span => rfl

theorem anonymous_twice (effect : Effect) : effect.anonymous.anonymous = effect.anonymous := by
  cases effect with
  | log note => exact congrArg log note.anonymous_twice
  | launch arguments child => cases child <;> rfl
  | sleep span => rfl

end Effect

/-- A process is known to others by its number, which need not be its place. -/
def Process.renumber (number : Nat → Nat) (process : Process) : Process :=
  { process with effects := process.effects.map (Effect.renumber number) }

theorem Level.anonymous_twice (level : Level) : level.anonymous.anonymous = level.anonymous := by
  obtain ⟨own, program, arguments, failure | ⟨queue, trace⟩⟩ := level
  · rfl
  · simp [Level.anonymous, Trace.anonymous, Except.map, Effect.anonymous_twice]

namespace Log

/-- An anonymous log does not write the numbers of the processes, and its filter does not see
them. -/
structure Anonymous (log : Log) : Prop where
  own : ∀ first second, log.display.own first = log.display.own second
  child : ∀ first second, log.display.child first = log.display.child second
  blind : ∀ note, log.filter.passes note.anonymous = log.filter.passes note

/-- A filter without an expression looks at the target of a note and not at its message. -/
theorem blind_plain {log : Log} (plain : log.filter.expression = none) (note : Note) :
    log.filter.passes note.anonymous = log.filter.passes note := by
  simp only [Filter.passes, plain, note.anonymous_target, Option.all_none]

namespace Anonymous

variable {log : Log}

theorem message (anonymous : log.Anonymous) (note : Note) :
    note.anonymous.message log.display = note.message log.display := by
  cases note with
  | node own depth head =>
      exact congrArg (fun text => "Node " ++ text ++ " at depth " ++ toString depth ++ ", head " ++
        head.text ++ "ms") (anonymous.own 0 own)
  | spawned executable arguments child =>
      exact congrArg (fun text => "Spawned " ++ log.display.path executable ++ " " ++
        quoteList arguments ++ " as " ++ text) (anonymous.child 0 child)
  | launched child remaining =>
      exact congrArg (fun text => "Launched child " ++ text ++ " with " ++ toString remaining ++
        " remaining levels") (anonymous.child 0 child)
  | applying | asleep | done => rfl
  | failed own obstacle =>
      exact congrArg (fun text => "Node " ++ text ++ " failed: " ++ obstacle.text log.display)
        (anonymous.own 0 own)

theorem note (anonymous : log.Anonymous) (note : Note) :
    log.note note.anonymous = log.note note := by
  rw [Log.note, Log.note, anonymous.blind, Note.line, Note.line, anonymous.message,
    note.anonymous_target]

theorem fail (anonymous : log.Anonymous) (own number : Nat) (failure : Failure) :
    Program.fail log own failure = Program.fail log number failure := by
  cases failure with
  | replied name reply => rfl
  | blocked obstacle =>
      have note (own : Nat) : log.note (.failed 0 obstacle) = log.note (.failed own obstacle) :=
        anonymous.note (.failed own obstacle)
      rw [Program.fail, Program.fail, ← note own, ← note number]

theorem finish (anonymous : log.Anonymous) (own number : Nat) (ending : Ending) :
    Program.finish log own ending = Program.finish log number ending := by
  cases ending with
  | returned | endless => rfl
  | failed failure => exact anonymous.fail own number failure

/-- What an effect writes does not tell any number. -/
theorem deeds (anonymous : log.Anonymous) (effects : List Effect) (stream : Stream) :
    ((effects.map Effect.anonymous).flatMap (Program.deeds log)).filterMap (Deed.written? stream) =
      (effects.flatMap (Program.deeds log)).filterMap (Deed.written? stream) := by
  rw [List.flatMap_map, List.filterMap_flatMap, List.filterMap_flatMap]
  congr 1
  funext effect
  cases effect with
  | log note => exact congrArg _ (anonymous.note note)
  | launch arguments child => cases child <;> rfl
  | sleep span => rfl

theorem level_texts (anonymous : log.Anonymous) (level : Level) (stream : Stream) :
    (level.anonymous.life log).texts stream = (level.life log).texts stream := by
  obtain ⟨own, program, arguments, failure | ⟨queue, trace⟩⟩ := level
  · change (Life.after log.warn (Program.fail log 0 failure)).texts stream =
      (Life.after log.warn (Program.fail log own failure)).texts stream
    rw [anonymous.fail 0 own failure]
  · change (Life.after _ (Program.finish log 0 trace.ending)).texts stream =
      (Life.after _ (Program.finish log own trace.ending)).texts stream
    rw [anonymous.finish 0 own]
    simp only [Life.texts, Life.after, List.filterMap_append]
    rw [show trace.anonymous.effects = trace.effects.map Effect.anonymous from rfl, anonymous.deeds]

theorem level_status (anonymous : log.Anonymous) (level : Level) :
    (level.anonymous.life log).status? = (level.life log).status? := by
  obtain ⟨own, program, arguments, failure | ⟨queue, trace⟩⟩ := level
  · change (Life.after log.warn (Program.fail log 0 failure)).status? = _
    rw [anonymous.fail 0 own failure]
    rfl
  · change (Life.after _ (Program.finish log 0 trace.ending)).status? = _
    rw [anonymous.finish 0 own]
    rfl

end Anonymous

end Log

end LingerChain
