/-
This file says what a level has done when it has run: it has handed on its tail and waits by the
sign of its head.
-/

import LingerChain.Program

namespace LingerChain

namespace Effect

/-- A call is an attempt to launch a child. -/
def called? : Effect → Option (List String)
  | launch arguments _ => some arguments
  | log _ | sleep _ => none

def slept? : Effect → Option Span
  | sleep span => some span
  | log _ | launch .. => none

def applied? : Effect → Option Wait
  | log (.applying wait) => some wait
  | _ => none

end Effect

namespace Trace

def calls (trace : Trace) : List (List String) := trace.effects.filterMap Effect.called?

def sleeps (trace : Trace) : List Span := trace.effects.filterMap Effect.slept?

/-- The notes of a launcher come before the policy of the node. -/
def policy? (trace : Trace) : Option Wait := (trace.effects.filterMap Effect.applied?).getLast?

/-- The sign of a number of milliseconds decides the policy, the sleep and the ending of a trace. -/
inductive Waits (trace : Trace) (value : Int) : Prop where
  | exit (sign : value = 0) (policy : trace.policy? = some .exit) (sleeps : trace.sleeps = [])
      (ending : trace.ending = .returned)
  | sleep (span : Span) (sign : 0 < value)
      (length : (span.seconds * 1000000000 + span.nanos : Int) = value * 1000000)
      (policy : trace.policy? = some (.sleep span)) (sleeps : trace.sleeps = [span])
      (ending : trace.ending = .returned)
  | forever (sign : value < 0) (policy : trace.policy? = some .forever)
      (sleeps : trace.sleeps = []) (ending : trace.ending = .endless Wait.tick)

theorem calls_after (trace : Trace) (effects : List Effect) :
    (trace.after effects).calls = effects.filterMap Effect.called? ++ trace.calls :=
  List.filterMap_append

theorem waits_after {trace : Trace} {value : Int} (waits : trace.Waits value)
    {effects : List Effect} (awake : effects.filterMap Effect.slept? = []) :
    (trace.after effects).Waits value := by
  have sleeps : (trace.after effects).sleeps = trace.sleeps := by
    simp [Trace.sleeps, after, awake]
  have policy {wait : Wait} (given : trace.policy? = some wait) :
      (trace.after effects).policy? = some wait := by
    unfold policy? at given
    simp [policy?, after, given]
  cases waits with
  | exit sign applied slept ending =>
      exact .exit sign (policy applied) (sleeps.trans slept) ending
  | sleep span sign length applied slept ending =>
      exact .sleep span sign length (policy applied) (sleeps.trans slept) ending
  | forever sign applied slept ending =>
      exact .forever sign (policy applied) (sleeps.trans slept) ending

end Trace

namespace Node

theorem settle_waits (queue : Queue) : (settle queue).Waits queue.head.value := by
  unfold settle Wait.ofMillis
  split
  · rename_i zero
    exact .exit zero rfl rfl rfl
  · split
    · rename_i positive
      refine .sleep (Span.ofMillis queue.head.value.toNat) positive ?_ rfl rfl rfl
      simp only [Span.ofMillis]
      omega
    · exact .forever (by omega) rfl rfl rfl

theorem settle_calls (queue : Queue) : (settle queue).calls = [] := by
  unfold settle Wait.ofMillis
  split
  · rfl
  · split <;> rfl

/-- A launch is one call, and everything else that belongs to it is a note. -/
theorem launching_notes (queue : Queue) (answer : Answer) :
    ∃ child, ∃ notes : List Note,
      launching queue answer = .launch queue.tail child :: notes.map .log := by
  obtain ⟨notes, failure | child⟩ := answer
  · exact ⟨none, notes, rfl⟩
  · refine ⟨some child, notes ++ [.launched child queue.tail.length], ?_⟩
    simp [launching]

theorem notes_silent {A : Type} {read : Effect → Option A}
    (silent : ∀ note, read (.log note) = none) (notes : List Note) :
    (notes.map Effect.log).filterMap read = [] := by
  rw [List.filterMap_map]
  exact List.filterMap_eq_nil_iff.2 fun note _ => silent note

theorem launching_calls (queue : Queue) (answer : Answer) :
    (launching queue answer).filterMap Effect.called? = [queue.tail] := by
  obtain ⟨child, notes, same⟩ := launching_notes queue answer
  rw [same]
  exact congrArg (queue.tail :: ·) (notes_silent (fun _ => rfl) notes)

theorem launching_sleeps (queue : Queue) (answer : Answer) :
    (launching queue answer).filterMap Effect.slept? = [] := by
  obtain ⟨child, notes, same⟩ := launching_notes queue answer
  rw [same]
  exact notes_silent (fun _ => rfl) notes

theorem descend_calls (queue : Queue) (answer : Answer) :
    (descend queue answer).calls = [queue.tail] := by
  have called := launching_calls queue answer
  obtain ⟨notes, failure | child⟩ := answer
  · exact called
  · change (Trace.after _ _).calls = _
    rw [Trace.calls_after, called, settle_calls, List.append_nil]

/-- A node calls for its tail once if there is one, whatever the launcher answers. -/
theorem start_calls (own : Nat) (launcher : Launcher) (queue : Queue) :
    (start own launcher queue).calls = if queue.tail = [] then [] else [queue.tail] := by
  unfold start
  rw [Trace.calls_after]
  split
  · exact settle_calls queue
  · exact descend_calls queue (launcher queue.tail)

/-- A node waits unless the launch of its child fails. -/
theorem start_waits (own : Nat) {launcher : Launcher} {queue : Queue}
    (launched : queue.tail = [] ∨ ∃ child, (launcher queue.tail).child = .ok child) :
    (start own launcher queue).Waits queue.head.value := by
  unfold start
  apply Trace.waits_after _ rfl
  split
  · exact settle_waits queue
  · rename_i given
    obtain ⟨child, answered⟩ := launched.resolve_left given
    rw [descend, answered]
    exact Trace.waits_after (settle_waits queue) (launching_sleeps queue _)

end Node

namespace Level

/-- A level has run on a queue when it has read it, has called for its tail once if there is one,
and waits by the sign of its head. -/
def Ran (level : Level) (queue : Queue) : Prop :=
  ∃ trace, level.run = .ok (queue, trace) ∧
    trace.calls = (if queue.tail = [] then [] else [queue.tail]) ∧ trace.Waits queue.head.value

/-- A level that could not read its arguments makes no call. -/
def calls (level : Level) : List (List String) :=
  match level.run with
  | .ok run => run.2.calls
  | .error _ => []

theorem Ran.unique {level : Level} {first second : Queue} (left : level.Ran first)
    (right : level.Ran second) : first = second := by
  obtain ⟨_, ran, _⟩ := left
  obtain ⟨_, again, _⟩ := right
  rw [ran] at again
  injection again with same
  exact congrArg Prod.fst same

end Level

namespace Origin

/-- The origin of the levels below the first ones has the launchers of those levels. -/
def shift (origin : Origin) (count : Nat) : Origin :=
  ⟨origin.child, fun depth => origin.launcher (depth + count)⟩

/-- At every depth the launch of what is left of the texts gives a child. -/
def Launches (origin : Origin) (texts : List String) : Prop :=
  ∀ depth left, left <:+ texts → ∃ child, (origin.launcher depth left).child = .ok child

variable {origin : Origin} {program : Option Bytes} {arguments : List Bytes} {queue : Queue}

theorem Launches.less {texts fewer : List String} (launches : origin.Launches texts)
    (suffix : fewer <:+ texts) : origin.Launches fewer :=
  fun depth left inside => launches depth left (inside.trans suffix)

theorem Launches.below {texts : List String} (launches : origin.Launches texts) :
    origin.below.Launches texts :=
  fun depth => launches (depth + 1)

theorem Launches.shift {texts : List String} (launches : origin.Launches texts) (count : Nat) :
    (origin.shift count).Launches texts :=
  fun depth => launches (depth + count)

theorem level_ran (launches : origin.Launches queue.tail) (own : Nat)
    (parsed : Queue.ofArguments program arguments = .ok queue) :
    (origin.level own program arguments).Ran queue := by
  refine ⟨Node.start own (origin.launcher 0) queue, ?_, Node.start_calls .., ?_⟩
  · rw [level, parsed]
    rfl
  · exact Node.start_waits own (.inr (launches 0 queue.tail List.suffix_rfl))

theorem next_parsed (own : Nat) (parsed : Queue.ofArguments program arguments = .ok queue) :
    (origin.level own program arguments).next? =
      if queue.tail = [] then none
      else (origin.launcher 0 queue.tail).child.toOption.map fun child => (child, queue.tail) := by
  rw [← Node.startLaunched own, level, parsed]
  rfl

/-- Below a level that has run comes the chain on its tail. -/
theorem chain_parsed (launches : origin.Launches queue.tail) (own : Nat)
    (parsed : Queue.ofArguments program arguments = .ok queue) :
    ∃ child, origin.chain own program arguments = origin.level own program arguments ::
      if queue.tail = [] then []
      else origin.below.chain child origin.child (queue.tail.map encode) := by
  have next := @next_parsed origin program arguments queue own parsed
  obtain ⟨child, answered⟩ := launches 0 queue.tail List.suffix_rfl
  refine ⟨child, ?_⟩
  split
  · rename_i nothing
    rw [if_pos nothing] at next
    exact chainLast next
  · rename_i given
    rw [if_neg given, answered] at next
    exact chainNext next

/-- A level that cannot read its arguments is the last one. -/
theorem chain_refused {failure : Failure} (own : Nat)
    (refused : Queue.ofArguments program arguments = .error failure) :
    origin.chain own program arguments = [⟨own, program, arguments, .error failure⟩] := by
  have same : origin.level own program arguments = ⟨own, program, arguments, .error failure⟩ := by
    rw [level, refused]
    rfl
  rw [chainLast (by rw [same]; rfl), same]

end Origin

/-- An executable launches every child if the system starts all of them and no text holds a zero
byte. -/
theorem Surroundings.origin_launches {surroundings : Surroundings} {executable : Bytes}
    {texts : List String}
    (spawned : ∀ arguments, ∃ child, surroundings.spawn executable arguments = .ok child)
    (path : Launcher.hasZeroByte executable = false)
    (clean : ∀ text ∈ texts, Launcher.hasZeroByte (encode text) = false) :
    (surroundings.origin executable).Launches texts := by
  intro depth left suffix
  obtain ⟨child, started⟩ := spawned left
  have checked : Launcher.spawnChecked surroundings.spawn executable left = .ok child := by
    rw [Launcher.spawnChecked, if_neg, started]
    simp only [path, Bool.false_or, Bool.not_eq_true, List.any_eq_false]
    intro text member
    rw [clean text (suffix.subset member)]
  exact ⟨child, by simp only [Surroundings.origin, Launcher.ofExecutable, checked]⟩

end LingerChain
