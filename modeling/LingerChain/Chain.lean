/-
This file follows a chain of nodes from level to level, each started with the tail of the last.
-/

import LingerChain.CommandLine.Queue
import LingerChain.Node

namespace LingerChain

/-- A level is one node: how it was started, and the failure of its arguments or its queue and
trace. -/
structure Level where
  own : Nat
  program : Option Bytes
  arguments : List Bytes
  run : Except Failure (Queue × Trace)

namespace Level

/-- A level goes on with what it has launched. -/
def next? (level : Level) : Option (Nat × List String) :=
  level.run.toOption.bind fun run => run.2.launched?

end Level

/-- The origin of a chain says by what name a child is started and who launches it at each level. -/
structure Origin where
  child : Option Bytes
  launcher : Nat → Launcher

namespace Origin

/-- The launchers of the levels below are those after the first. -/
def below (origin : Origin) : Origin := ⟨origin.child, fun depth => origin.launcher (depth + 1)⟩

def level (origin : Origin) (own : Nat) (program : Option Bytes) (arguments : List Bytes) : Level :=
  ⟨own, program, arguments,
    (Queue.ofArguments program arguments).map fun queue =>
      (queue, Node.start own (origin.launcher 0) queue)⟩

theorem nextShorter {origin : Origin} {own child : Nat} {program : Option Bytes}
    {arguments : List Bytes} {launched : List String}
    (next : (origin.level own program arguments).next? = some (child, launched)) :
    launched.length < arguments.length := by
  unfold level Level.next? at next
  cases parsed : Queue.ofArguments program arguments with
  | error failure => simp [parsed, Except.map, Except.toOption] at next
  | ok queue =>
      simp only [parsed, Except.map, Except.toOption, Option.bind_some, Node.startLaunched] at next
      split at next
      · contradiction
      · simp only [Option.map_eq_some_iff, Prod.mk.injEq] at next
        obtain ⟨_, _, _, rfl⟩ := next
        exact Queue.tailShorter parsed

/-- The tails grow shorter from level to level, so the chain comes to an end. -/
def chain (origin : Origin) (own : Nat) (program : Option Bytes) (arguments : List Bytes) :
    List Level :=
  match _ : (origin.level own program arguments).next? with
  | none => [origin.level own program arguments]
  | some (child, launched) =>
      origin.level own program arguments ::
        origin.below.chain child origin.child (launched.map encode)
  termination_by arguments.length
  decreasing_by
    rename_i next
    simpa using nextShorter next

theorem chainLast {origin : Origin} {own : Nat} {program : Option Bytes} {arguments : List Bytes}
    (last : (origin.level own program arguments).next? = none) :
    origin.chain own program arguments = [origin.level own program arguments] := by
  rw [chain]
  split
  · rfl
  · simp_all

theorem chainNext {origin : Origin} {own child : Nat} {program : Option Bytes}
    {arguments : List Bytes} {launched : List String}
    (next : (origin.level own program arguments).next? = some (child, launched)) :
    origin.chain own program arguments =
      origin.level own program arguments ::
        origin.below.chain child origin.child (launched.map encode) := by
  rw [chain]
  split
  · simp_all
  · simp_all

end Origin

end LingerChain
