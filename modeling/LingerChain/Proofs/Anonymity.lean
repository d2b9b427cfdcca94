/-
This file shows that the numbers of the processes are all that tells two runs of one chain apart.
-/

import LingerChain.Proofs.Level

namespace LingerChain

/-- An anonymous note leaves out the numbers of processes. -/
def Note.anonymous : Note → Note
  | node _ depth head => node 0 depth head
  | spawned executable arguments _ => spawned executable arguments 0
  | launched _ remaining => launched 0 remaining
  | applying wait => applying wait
  | asleep => asleep
  | done => done
  | failed _ obstacle => failed 0 obstacle

def Effect.anonymous : Effect → Effect
  | log note => log note.anonymous
  | launch arguments child => launch arguments (child.map fun _ => 0)
  | sleep span => sleep span

def Answer.anonymous (answer : Answer) : Answer :=
  ⟨answer.notes.map Note.anonymous, answer.child.map fun _ => 0⟩

def Trace.anonymous (trace : Trace) : Trace :=
  ⟨trace.effects.map Effect.anonymous, trace.ending⟩

def Level.anonymous (level : Level) : Level :=
  ⟨0, level.program, level.arguments, level.run.map fun run => (run.1, run.2.anonymous)⟩

/-- Two origins are alike if their launchers differ at most in the numbers of the children. -/
def Origin.Alike (first second : Origin) : Prop :=
  first.child = second.child ∧ ∀ depth other arguments,
    (first.launcher depth arguments).anonymous = (second.launcher other arguments).anonymous

theorem Trace.anonymous_after (trace : Trace) (effects : List Effect) :
    (trace.after effects).anonymous = trace.anonymous.after (effects.map Effect.anonymous) := by
  simp [Trace.anonymous, Trace.after]

theorem Note.anonymous_twice (note : Note) : note.anonymous.anonymous = note.anonymous := by
  cases note <;> rfl

namespace Node

/-- What an anonymous node has done depends on an anonymous answer only. -/
theorem descend_anonymous (queue : Queue) (answer : Answer) :
    (descend queue answer).anonymous = (descend queue answer.anonymous).anonymous := by
  have notes : (answer.notes.map Effect.log).map Effect.anonymous =
      ((answer.notes.map Note.anonymous).map Effect.log).map Effect.anonymous := by
    simp [Effect.anonymous, Note.anonymous_twice]
  obtain ⟨taken, failure | child⟩ := answer
  · exact congrArg (fun effects => Trace.mk (.launch queue.tail none :: effects) _) notes
  · simp only [descend, launching, Answer.anonymous, Except.map, Trace.anonymous_after,
      List.map_cons, List.map_append, notes]
    rfl

theorem start_anonymous (own number : Nat) {launcher other : Launcher} {queue : Queue}
    (alike : (launcher queue.tail).anonymous = (other queue.tail).anonymous) :
    (start own launcher queue).anonymous = (start number other queue).anonymous := by
  unfold start
  rw [Trace.anonymous_after, Trace.anonymous_after]
  split
  · rfl
  · rw [descend_anonymous, alike, ← descend_anonymous]
    rfl

end Node

namespace Origin

variable {first second : Origin}

theorem Alike.below (alike : first.Alike second) : first.below.Alike second.below :=
  ⟨alike.1, fun depth other => alike.2 (depth + 1) (other + 1)⟩

/-- The answers of a launcher are alike at every depth. -/
theorem Alike.shift (alike : first.Alike second) (count : Nat) : (first.shift count).Alike second :=
  ⟨alike.1, fun depth => alike.2 (depth + count)⟩

theorem Alike.beneath (alike : first.Alike second) : first.below.Alike second :=
  ⟨alike.1, fun depth => alike.2 (depth + 1)⟩

theorem level_anonymous (alike : first.Alike second) (own number : Nat) (program : Option Bytes)
    (arguments : List Bytes) :
    (first.level own program arguments).anonymous =
      (second.level number program arguments).anonymous := by
  unfold level Level.anonymous
  cases Queue.ofArguments program arguments with
  | error failure => rfl
  | ok queue =>
      have started := Node.start_anonymous own number (alike.2 0 0 queue.tail)
      simp only [Except.map, started]

/-- Levels that are alike launch the same arguments, if they launch at all. -/
theorem next_anonymous (alike : first.Alike second) (own number : Nat) (program : Option Bytes)
    (arguments : List Bytes) :
    (first.level own program arguments).next?.map Prod.snd =
      (second.level number program arguments).next?.map Prod.snd := by
  cases parsed : Queue.ofArguments program arguments with
  | error failure =>
      simp only [level, parsed]
      rfl
  | ok queue =>
      rw [next_parsed own parsed, next_parsed number parsed]
      have answers := congrArg Answer.child (alike.2 0 0 queue.tail)
      simp only [Answer.anonymous] at answers
      cases one : (first.launcher 0 queue.tail).child <;>
        cases two : (second.launcher 0 queue.tail).child <;>
        simp_all [Except.map, Except.toOption]
      split <;> rfl

/-- Origins that are alike have the same chains apart from the numbers of the processes. -/
theorem chain_anonymous {first second : Origin} (alike : first.Alike second) (own number : Nat)
    (program : Option Bytes) (arguments : List Bytes) :
    (first.chain own program arguments).map Level.anonymous =
      (second.chain number program arguments).map Level.anonymous := by
  have level := level_anonymous alike own number program arguments
  have called := next_anonymous alike own number program arguments
  -- The numbers differ from level to level, so both of them are left open for the levels below.
  induction first, own, program, arguments using chain.induct generalizing second number with
  | case1 first own program arguments next =>
      rw [next, Option.map_none] at called
      rw [chainLast next, chainLast (Option.map_eq_none_iff.1 called.symm), List.map_singleton,
        List.map_singleton, level]
  | case2 first own program arguments child launched next ih =>
      rw [next, Option.map_some] at called
      obtain ⟨⟨other, tail⟩, again, same⟩ := Option.map_eq_some_iff.1 called.symm
      simp only at same
      rw [chainNext next, chainNext again, List.map_cons, List.map_cons, level, same, ← alike.1]
      exact congrArg _
        (ih alike.below other (level_anonymous alike.below ..) (next_anonymous alike.below ..))

end Origin

/-- Two systems that start every child are alike to an executable. -/
theorem Surroundings.origin_alike {first second : Surroundings} (executable : Bytes)
    (spawned : ∀ arguments, ∃ child, first.spawn executable arguments = .ok child)
    (started : ∀ arguments, ∃ child, second.spawn executable arguments = .ok child) :
    (first.origin executable).Alike (second.origin executable) := by
  refine ⟨rfl, fun depth other arguments => ?_⟩
  obtain ⟨one, given⟩ := spawned arguments
  obtain ⟨two, taken⟩ := started arguments
  simp only [Surroundings.origin, Launcher.ofExecutable, Launcher.spawnChecked, given, taken]
  by_cases zero : (Launcher.hasZeroByte executable ||
      arguments.any fun argument => Launcher.hasZeroByte (encode argument)) = true
  · simp only [if_pos zero]
  · simp only [if_neg zero]
    rfl

end LingerChain
