/-
This file shows that a chain without faults comes to rest in every order of its processes, and that
it is then the chain that runs level after level.
-/

import LingerChain.Proofs.Descent
import LingerChain.Proofs.Interleaving

namespace LingerChain

namespace Phase

/-- The rank is the greatest number of moves that a process may still make. -/
def rank : Phase → Nat
  | started => 5
  | parsed _ => 4
  | announced _ => 3
  | launched _ => 2
  | waiting _ | failing _ => 1
  | asleep _ | done _ | failed _ => 0

/-- A process in a final phase makes no more moves. -/
inductive Final : Phase → Prop where
  | asleep (queue : Queue) : Final (.asleep queue)
  | done (queue : Queue) : Final (.done queue)
  | failed (failure : Failure) : Final (.failed failure)

theorem final_iff {phase : Phase} : phase.Final ↔ phase.rank = 0 := by
  constructor
  · intro final
    cases final <;> rfl
  · intro zero
    cases phase with
    | asleep queue => exact .asleep queue
    | done queue => exact .done queue
    | failed failure => exact .failed failure
    | started | parsed | announced | launched | waiting | failing => contradiction

instance (phase : Phase) : Decidable phase.Final := decidable_of_iff _ final_iff.symm

/-- A failure has been met, whether the process has ended or not. -/
def failure? : Phase → Option Failure
  | failing failure | failed failure => some failure
  | _ => none

end Phase

/-- Every move leads to a lower rank. -/
theorem Moves.rank {executable : Bytes} {place count : Nat} {reading : Except Failure Queue}
    {now next : Phase} {effects : List Effect}
    (moves : Moves executable place count reading now effects next) : next.rank < now.rank := by
  cases moves with
  | read => cases reading <;> simp [Phase.rank, Phase.read]
  | announce | lose | skip | launch | cut | apply | sleep | finish | fail => simp [Phase.rank]

namespace Process

/-- A process that meets no fault fails only if it cannot read its arguments. -/
def Sound (process : Process) : Prop :=
  ∀ failure, process.phase.failure? = some failure → process.reading = .error failure

variable {executable : Bytes} {place : Nat} {system : System} {process : Process}

theorem next?_none {fault : Option SystemFault} {launcher : Launcher} :
    process.next? place fault launcher = none ↔ process.phase.Final := by
  obtain ⟨parent, program, arguments, phase, effects⟩ := process
  cases phase with
  | asleep queue => exact iff_of_true rfl (.asleep queue)
  | done queue => exact iff_of_true rfl (.done queue)
  | failed failure => exact iff_of_true rfl (.failed failure)
  | started | parsed | launched | waiting | failing => exact iff_of_false nofun nofun
  | announced queue =>
      refine iff_of_false (fun still => ?_) nofun
      simp only [next?] at still
      split at still <;> contradiction

/-- Without a fault a process goes on to a failure only from its arguments. -/
theorem next?_sound {effects : List Effect} {phase : Phase} (sound : process.Sound)
    (next : process.next? place none (System.launcher executable system none) =
      some (effects, phase)) : (process.act effects phase).Sound := by
  obtain ⟨parent, program, arguments, now, done⟩ := process
  intro failure met
  change phase.failure? = some failure at met
  change Queue.ofArguments program arguments = .error failure
  cases now with
  | started =>
      obtain ⟨rfl, rfl⟩ := Prod.mk.inj (Option.some.inj next)
      cases read : Queue.ofArguments program arguments with
      | ok queue =>
          rw [read] at met
          contradiction
      | error other =>
          rw [read] at met
          rw [Option.some.inj met]
  | parsed queue | launched queue =>
      obtain ⟨rfl, rfl⟩ := Prod.mk.inj (Option.some.inj next)
      contradiction
  | announced queue =>
      simp only [next?] at next
      split at next <;>
      · obtain ⟨rfl, rfl⟩ := Prod.mk.inj (Option.some.inj next)
        contradiction
  | waiting queue =>
      obtain ⟨rfl, rfl⟩ := Prod.mk.inj (Option.some.inj next)
      rcases Int.lt_or_le queue.head.value 0 with negative | sign
      · rw [Wait.linger_negative negative] at met
        contradiction
      · rw [Wait.linger_ending sign] at met
        contradiction
  | failing other =>
      obtain ⟨rfl, rfl⟩ := Prod.mk.inj (Option.some.inj next)
      exact sound failure met
  | asleep queue | done queue | failed other => contradiction

/-- A process in a final phase has run, if it has met no fault. -/
def run? (process : Process) : Option (Except Failure (Queue × Trace)) :=
  match process.phase with
  | .done queue => some (.ok (queue, ⟨process.effects, .returned⟩))
  | .asleep queue => some (.ok (queue, ⟨process.effects, .endless Wait.tick⟩))
  | .failed failure => some (.error failure)
  | _ => none

/-- The level of a process is all that is left of it when it has run. -/
def level? (own : Nat) (process : Process) : Option Level :=
  process.run?.map fun run => ⟨own, process.program, process.arguments, run⟩

end Process

namespace System

variable {executable : Bytes} {program : Option Bytes} {arguments : List Bytes}
  {allowed : SystemFault → Prop} {before after system : System} {place : Nat} {process : Process}

theorem Reachable.sound
    (reached : Reachable executable (fun _ => False) (root program arguments) system) :
    ∀ process ∈ system, process.Sound := by
  have fresh (parent : Option Nat) (program : Option Bytes) (arguments : List Bytes) :
      (Process.fresh parent program arguments).Sound := fun failure met => nomatch met
  induction reached with
  | refl => exact List.forall_mem_singleton.2 (fresh none program arguments)
  | step _ next ih =>
      cases next with
      | fault allows => exact allows.elim
      | act acted =>
          obtain ⟨process, found, moved⟩ := Option.bind_eq_some_iff.1 acted
          obtain ⟨⟨effects, phase⟩, next, rfl⟩ := Option.map_eq_some_iff.1 moved
          intro now member
          rcases List.mem_append.1 member with old | new
          · rcases List.mem_or_eq_of_mem_set old with old | rfl
            · exact ih now old
            · exact Process.next?_sound (ih process (List.mem_of_getElem? found)) next
          · obtain ⟨launched, _, rfl⟩ := Option.map_eq_some_iff.1 (Option.mem_toList.1 new)
            exact fresh _ _ _

theorem act?_none : system.act? executable none place = none ↔
    ∀ process, system[place]? = some process → process.phase.Final := by
  simp only [act?, Option.bind_eq_none_iff, Option.map_eq_none_iff, Process.next?_none]

/-- A system is at rest when every process has come to a final phase. -/
theorem atRest_iff :
    AtRest executable system ↔ ∀ process ∈ system, process.phase.Final := by
  constructor
  · intro rest process member
    obtain ⟨place, found⟩ := List.mem_iff_getElem?.1 member
    have still : system.act? executable none place = none :=
      Option.eq_none_iff_forall_not_mem.2 fun next acted => rest next (.act acted)
    exact act?_none.1 still process found
  · intro final next step
    cases step with
    | fault allows => exact allows
    | act acted =>
        rw [act?_none.2 fun process found => final process (List.mem_of_getElem? found)] at acted
        contradiction

/-- The sequential chain at a place launches with the numbers from there on. -/
theorem shift_below (executable : Bytes) (place : Nat) :
    ((origin executable).shift place).below = (origin executable).shift (place + 1) := by
  simp only [Origin.shift, Origin.below, origin, Origin.mk.injEq, true_and]
  funext depth arguments
  rw [Nat.add_right_comm depth 1 place, Nat.add_assoc depth place 1]

/-- The node of a place opens as the process there does, and then settles. -/
theorem start_opening (executable : Bytes) (place : Nat) (queue : Queue) :
    Node.start place (((origin executable).shift place).launcher 0) queue =
      (Node.settle queue).after (Node.opening executable place queue) := by
  unfold Node.start Node.opening
  split
  · rfl
  · simp [Node.descend, Origin.shift, origin, Trace.after]

/-- A process in a final phase has run as the level at its place does. -/
theorem final_level (came : Came executable place process.reading process.phase process.effects)
    (sound : process.Sound) (final : process.phase.Final) :
    process.level? place = some
      (((origin executable).shift place).level place process.program process.arguments) := by
  obtain ⟨parent, program, arguments, phase, effects⟩ := process
  change Came executable place (Queue.ofArguments program arguments) phase effects at came
  change phase.Final at final
  have ran {queue : Queue} {trace : Trace} (read : Queue.ofArguments program arguments = .ok queue)
      (settled : (Node.settle queue).after (Node.opening executable place queue) = trace) :
      ((origin executable).shift place).level place program arguments =
        ⟨place, program, arguments, .ok (queue, trace)⟩ := by
    rw [Origin.level, read, ← settled, ← start_opening]
    rfl
  cases final with
  | asleep queue =>
      cases came with
      | asleep read negative =>
          rw [ran read rfl, Node.settle, Wait.linger_negative negative]
          simp [Process.level?, Process.run?, Trace.after]
  | done queue =>
      cases came with
      | done read sign =>
          rw [ran read rfl]
          simp [Process.level?, Process.run?, Node.settle, Trace.after, Wait.linger_ending sign]
  | failed failure =>
      have refused := sound failure rfl
      change Queue.ofArguments program arguments = .error failure at refused
      rw [Origin.level, refused]
      rfl

/-- A process that has read its arguments is past its launch when it has come to rest. -/
theorem final_past {queue : Queue}
    (came : Came executable place process.reading process.phase process.effects)
    (sound : process.Sound) (final : process.phase.Final) (read : process.reading = .ok queue) :
    Came.Past queue process.phase := by
  obtain ⟨parent, program, arguments, phase, effects⟩ := process
  cases final with
  | asleep other =>
      obtain rfl := Except.ok.inj (read.symm.trans (came.reading_queue rfl))
      exact .asleep
  | done other =>
      obtain rfl := Except.ok.inj (read.symm.trans (came.reading_queue rfl))
      exact .done
  | failed failure => exact absurd (read.symm.trans (sound failure rfl)) nofun

namespace Invariant

variable (invariant : Invariant executable program arguments system)

include invariant

/-- Each process stands at its level of the sequential chain, whether it has come to rest or not. -/
theorem chain_place (found : system[place]? = some process) :
    ((origin executable).chain 0 program arguments).drop place =
      ((origin executable).shift place).chain place process.program process.arguments := by
  induction place generalizing process with
  | zero =>
      obtain ⟨_, rfl, rfl⟩ := Process.given_eq.1 (invariant.root process found)
      rfl
  | succ place ih =>
      have within := (List.getElem?_eq_some_iff.1 found).1
      have above := List.getElem?_eq_getElem (Nat.lt_of_succ_lt within)
      obtain ⟨queue, past, given, made⟩ := invariant.handed_past above found
      obtain ⟨_, named, left⟩ := Process.given_eq.1 made
      have read := (invariant.came place _ above).reading_past past
      have next := @Origin.next_parsed ((origin executable).shift place) _ _ queue place read
      rw [if_neg given] at next
      have launched : (((origin executable).shift place).launcher 0 queue.tail).child =
          .ok (place + 1) := congrArg Except.ok (congrArg Nat.succ (Nat.zero_add place))
      rw [launched] at next
      have chain := Origin.chainNext next
      rw [← List.drop_drop, ih above, chain, List.drop_one, List.tail_cons, shift_below, named,
        left]
      rfl

/-- A chain at rest has as many processes as the sequential chain has levels. -/
theorem rest_length (sound : ∀ process ∈ system, process.Sound) (rest : AtRest executable system) :
    ((origin executable).chain 0 program arguments).length = system.length := by
  obtain ⟨place, last⟩ := Nat.exists_eq_add_one.2 invariant.inhabited
  have found := List.getElem?_eq_getElem (show place < system.length by omega)
  have drop := congrArg List.length (invariant.chain_place found)
  -- The last process has no child, so the sequential chain ends at its level too.
  rcases Origin.chain_cases ((origin executable).shift place) place system[place].program
    system[place].arguments with ⟨_, chain⟩ | ⟨_, queue, _, read, given, _⟩
  · rw [chain, List.length_drop, List.length_singleton] at drop
    omega
  · have came := invariant.came place _ found
    have member := List.mem_of_getElem? found
    have past := final_past came (sound _ member) (atRest_iff.1 rest _ member) read
    have childless := (invariant.more place _ found).2 (Nat.le_of_eq last)
    have children := came.children_past past
    rw [if_neg given] at children
    exact absurd (childless.symm.trans children) nofun

end Invariant

/-- A chain at rest is the sequential chain, level by level. -/
theorem rest_chain
    (reached : Reachable executable (fun _ => False) (root program arguments) system)
    (rest : AtRest executable system) :
    system.mapIdx Process.level? = ((origin executable).chain 0 program arguments).map some := by
  have invariant := reached.invariant
  have length := invariant.rest_length reached.sound rest
  refine List.ext_getElem? fun place => ?_
  rw [List.getElem?_mapIdx, List.getElem?_map]
  rcases Nat.lt_or_ge place system.length with within | past
  · have found := List.getElem?_eq_getElem within
    have member := List.mem_of_getElem? found
    have level := final_level (invariant.came place _ found) (reached.sound _ member)
      (atRest_iff.1 rest _ member)
    have head := congrArg (·[0]?) (invariant.chain_place found)
    simp only [List.getElem?_drop, Nat.add_zero, Origin.chain_head] at head
    rw [found, head, Option.map_some, Option.map_some, level]
  · rw [List.getElem?_eq_none past, List.getElem?_eq_none (length ▸ past)]
    rfl

/-- The ranks of all processes taken together. -/
def ranks : System → Nat
  | [] => 0
  | process :: rest => process.phase.rank + ranks rest

theorem ranks_append (first second : System) :
    ranks (first ++ second) = ranks first + ranks second := by
  induction first with
  | nil => exact (Nat.zero_add _).symm
  | cons process rest ih => rw [List.cons_append, ranks, ranks, ih, Nat.add_assoc]

/-- The effort left to a chain of at most so many processes. One that is not there yet counts for
its own moves and for its launch. -/
def effort (bound : Nat) (system : System) : Nat :=
  6 * (bound - system.length) + ranks system

theorem effort_set {phase : Phase} (bound : Nat) (effects : List Effect)
    (found : system[place]? = some process) (lower : phase.rank < process.phase.rank) :
    effort bound (system.set place (process.act effects phase)) < effort bound system := by
  obtain ⟨within, rfl⟩ := List.getElem?_eq_some_iff.1 found
  obtain ⟨above, below, split, _, set⟩ : ∃ above below, system = above ++ system[place] :: below ∧
      above.length = place ∧ system.set place (system[place].act effects phase) =
        above ++ system[place].act effects phase :: below := List.exists_of_set within
  have before := congrArg ranks split
  rw [ranks_append, ranks] at before
  rw [effort, effort, List.length_set, set, ranks_append, ranks, before]
  simp only [Process.act]
  omega

/-- Every step of a chain takes effort, whether it meets a fault or not. -/
theorem step_effort (invariant : Invariant executable program arguments before)
    (next : Step executable allowed before after) :
    effort (max 1 arguments.length) after < effort (max 1 arguments.length) before := by
  have main {fault : Option SystemFault} {place : Nat}
      (acted : before.act? executable fault place = some after) :
      effort (max 1 arguments.length) after < effort (max 1 arguments.length) before := by
    have bound := (invariant.step acted).length
    obtain ⟨process, effects, phase, found, moves, rfl⟩ := act?_some acted
    have set := effort_set (max 1 arguments.length) effects found moves.rank
    rw [born_children] at bound ⊢
    rcases moves.children with silent | ⟨queue, _, child⟩
    · rw [silent] at bound ⊢
      simpa using set
    · -- The place that the child takes pays for all of its moves.
      rw [child] at bound ⊢
      simp only [List.head?_cons, Option.map_some, Option.toList_some, List.length_append,
        List.length_singleton, effort, ranks_append] at bound set ⊢
      have fresh : ranks [Process.fresh (some place) (some executable) (queue.tail.map encode)] =
        5 := rfl
      omega
  cases next with
  | act acted => exact main acted
  | fault _ acted => exact main acted

/-- Every run of a chain can be carried on without a fault until it comes to rest. -/
theorem comes_to_rest (reached : Reachable executable allowed (root program arguments) before) :
    ∃ final, Reachable executable (fun _ => False) before final ∧ AtRest executable final := by
  have invariant := reached.invariant
  clear reached
  -- The steps that are left meet no fault, so only the invariant is kept from the run so far.
  induction left : effort (max 1 arguments.length) before using Nat.strongRecOn
    generalizing before with
  | ind left ih =>
      by_cases rest : AtRest executable before
      · exact ⟨before, .refl, rest⟩
      · obtain ⟨after, next⟩ := not_forall_not.1 rest
        have less := step_effort invariant next
        cases next with
        | fault allows => exact allows.elim
        | act acted =>
            obtain ⟨final, further, ended⟩ := ih _ (left ▸ less) (invariant.step acted) rfl
            exact ⟨final, .trans (.step .refl (.act acted)) further, ended⟩

end System

end LingerChain
