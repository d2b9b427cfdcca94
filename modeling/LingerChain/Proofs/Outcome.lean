/-
This file shows that what comes out of a chain does not depend on the order in which its processes
act, nor on the numbers that they get.
-/

import Mathlib.Data.Char
import Mathlib.Data.List.Lex
import Mathlib.Data.Multiset.Sort
import LingerChain.Proofs.Renumber
import LingerChain.Proofs.Rest
import LingerChain.Text.Lines

namespace LingerChain

/-- A text that ends a line can be written before any other. -/
def Ended (text : String) : Prop := ∃ line, text = line ++ "\n"

/-- The lines of what follows an ended line are counted afresh. -/
theorem lines_append (line rest : List Char) :
    lines (line ++ '\n' :: rest) = lines (line ++ ['\n']) ++ lines rest := by
  have split : (line ++ ['\n']).splitOn '\n' = line.splitOn '\n' ++ [[]] :=
    List.splitOn_append_cons_self line []
  cases last : (rest.splitOn '\n').reverse with
  | nil => exact absurd (List.reverse_eq_nil_iff.1 last) (List.splitOn_ne_nil _ _)
  | cons left ended =>
      -- What is left behind the last line feed is left in both, and it alone ends no line.
      unfold lines
      rw [List.splitOn_append_cons_self, split, List.reverse_append, last, List.reverse_append]
      simp

theorem lines_join {texts : List String} (ended : ∀ text ∈ texts, Ended text) :
    lines (String.join texts).toList = texts.flatMap fun text => lines text.toList := by
  induction texts with
  | nil => rfl
  | cons text rest ih =>
      obtain ⟨⟨line, rfl⟩, below⟩ := List.forall_mem_cons.1 ended
      have newline : ("\n" : String).toList = ['\n'] := rfl
      rw [String.join_cons, String.toList_append, String.toList_append, newline,
        List.append_assoc, List.singleton_append, lines_append, ih below, List.flatMap_cons,
        String.toList_append, newline]

/-- The lines of a text, sorted by their characters. -/
def sortedLines (text : String) : List (List Char) :=
  (lines text.toList : Multiset (List Char)).sort

/-- The order of the texts does not matter to their sorted lines. -/
theorem sortedLines_perm {texts others : List String} (perm : texts.Perm others)
    (ended : ∀ text ∈ others, Ended text) :
    sortedLines (String.join texts) = sortedLines (String.join others) := by
  rw [sortedLines, sortedLines, lines_join ended,
    lines_join fun text member => ended text (perm.subset member),
    Multiset.coe_eq_coe.2 (perm.flatMap_right _)]

/-- A reply that is not asked for ends its last line. -/
theorem Reply.text_ended {reply : Reply} (refuses : reply.usesStandardError = true)
    (program : String) : Ended (reply.text program) := by
  have refused : reply.runs program = refusalRuns program reply := by
    cases reply with
    | requested flag => cases flag <;> contradiction
    | unknownArgument | attachedValue | notText | badHead | stated => rfl
  have hint : String.join (hintRuns.map Terminal.strip) =
      "For more information, try '--help'." ++ "\n" := by decide
  rw [text, refused, refusalRuns, List.map_append, String.join_append, hint,
    ← String.append_assoc]
  exact ⟨_, rfl⟩

/-- Whatever is written to the standard error ends its last line. -/
def LinesEnded (deeds : List Deed) : Prop :=
  ∀ text ∈ deeds.filterMap (Deed.written? .error), Ended text

namespace LinesEnded

theorem append {first second : List Deed} (left : LinesEnded first) (right : LinesEnded second) :
    LinesEnded (first ++ second) := by
  intro text member
  rw [List.filterMap_append, List.mem_append] at member
  exact member.elim (left text) (right text)

theorem write (line : String) : LinesEnded [.write .error (line ++ "\n")] :=
  List.forall_mem_singleton.2 ⟨line, rfl⟩

theorem note (log : Log) (note : Note) : LinesEnded (log.note note) := by
  unfold Log.note
  split
  · exact write _
  · exact List.forall_mem_nil _

theorem warn (log : Log) : LinesEnded log.warn := by
  intro text member
  obtain ⟨deed, warned, written⟩ := List.mem_filterMap.1 member
  obtain ⟨warning, _, rfl⟩ := List.mem_map.1 warned
  exact ⟨warning, (Option.some.inj written).symm⟩

theorem effects (log : Log) (effects : List Effect) :
    LinesEnded (effects.flatMap (Program.deeds log)) := by
  induction effects with
  | nil => exact List.forall_mem_nil _
  | cons effect rest ih =>
      refine append ?_ ih
      cases effect with
      | log taken => exact note log taken
      | launch arguments child => cases child <;> exact List.forall_mem_nil _
      | sleep span => exact List.forall_mem_nil _

theorem fail (log : Log) (own : Nat) (failure : Failure) :
    LinesEnded (Program.fail log own failure).deeds := by
  cases failure with
  | replied program reply =>
      cases refuses : reply.usesStandardError with
      | true =>
          rw [Program.fail, if_pos refuses]
          exact List.forall_mem_singleton.2 (reply.text_ended refuses program)
      | false =>
          rw [Program.fail, refuses]
          exact List.forall_mem_nil _
  | blocked obstacle => exact append (note log _) (write _)

theorem life (log : Log) (level : Level) : LinesEnded (level.life log).deeds := by
  obtain ⟨own, program, arguments, failure | ⟨queue, trace⟩⟩ := level
  · exact append (warn log) (fail log own failure)
  · refine append (append (warn log) (effects log trace.effects)) ?_
    change LinesEnded (Program.finish log own trace.ending).deeds
    cases trace.ending with
    | returned | endless => exact List.forall_mem_nil _
    | failed failure => exact fail log own failure

end LinesEnded

/-- An outcome is what is seen of a chain, level by level, without the numbers of its processes. The
texts are taken together, because they may come in any order. -/
structure Outcome where
  levels : List (Option Level)
  statuses : List (Option Nat)
  texts : Stream → Multiset String

namespace Outcome

def ofLevels (log : Log) (levels : List Level) : Outcome where
  levels := levels.map fun level => some level.anonymous
  statuses := levels.map fun level => (level.life log).status?
  texts stream := levels.flatMap fun level => (level.life log).texts stream

/-- To an anonymous log, levels that differ only in their numbers have the same outcome. -/
theorem ofLevels_anonymous {log : Log} (anonymous : log.Anonymous) {levels others : List Level}
    (same : levels.map Level.anonymous = others.map Level.anonymous) :
    ofLevels log levels = ofLevels log others := by
  have unnumbered (levels : List Level) :
      ofLevels log levels = ofLevels log (levels.map Level.anonymous) := by
    simp only [ofLevels, List.map_map, List.flatMap_map, Function.comp_def, Level.anonymous_twice,
      anonymous.level_status, anonymous.level_texts]
  rw [unnumbered levels, same, ← unnumbered others]

end Outcome

namespace Process

variable {own : Nat} {process : Process} {level : Level}

/-- A process that has come to rest has lived as its level does. -/
theorem level?_life (log : Log) (ran : process.level? own = some level)
    (quiet : ∀ failure, process.phase = .failed failure → process.effects = []) :
    (level.life log).deeds = process.deeds log own ∧
      (level.life log).status? = process.status? := by
  obtain ⟨parent, program, arguments, phase, effects⟩ := process
  cases phase with
  | started | parsed | announced | launched | waiting | failing => contradiction
  | asleep queue | done queue =>
      obtain rfl := Option.some.inj ran
      exact ⟨rfl, rfl⟩
  | failed failure =>
      obtain rfl : effects = [] := quiet failure rfl
      obtain rfl := Option.some.inj ran
      refine ⟨?_, ?_⟩
      · simp [Level.life, Program.live, Except.map, Life.after, deeds]
      · cases failure <;> rfl

/-- The parent of a process stands right above it. -/
def above? : Nat → Option Nat
  | 0 => none
  | place + 1 => some place

/-- The process of a level whose number is its place. -/
def ofLevel (level : Level) : Process :=
  let (phase, effects) := match level.run with
    | .error failure => (Phase.failed failure, [])
    | .ok (queue, trace) =>
        (match trace.ending with
          | .returned => .done queue
          | .endless _ => .asleep queue
          | .failed failure => .failed failure, trace.effects)
  ⟨above? level.own, level.program, level.arguments, phase, effects⟩

theorem level?_ofLevel (ran : process.level? own = some level)
    (quiet : ∀ failure, process.phase = .failed failure → process.effects = [])
    (parent : process.parent = above? own) : process = ofLevel level := by
  obtain ⟨_, program, arguments, phase, effects⟩ := process
  obtain rfl := parent
  cases phase with
  | started | parsed | announced | launched | waiting | failing => contradiction
  | asleep queue | done queue =>
      obtain rfl := Option.some.inj ran
      rfl
  | failed failure =>
      obtain rfl : effects = [] := quiet failure rfl
      obtain rfl := Option.some.inj ran
      rfl

/-- A number is all that a process gets from being renumbered. -/
theorem level?_renumber (number : Nat → Nat) (own other : Nat) (process : Process) :
    ((process.renumber number).level? other).map Level.anonymous =
      (process.level? own).map Level.anonymous := by
  have effects : (process.effects.map (Effect.renumber number)).map Effect.anonymous =
      process.effects.map Effect.anonymous := by
    rw [List.map_map]
    exact List.map_congr_left fun effect _ => effect.renumber_anonymous number
  obtain ⟨parent, program, arguments, phase, done⟩ := process
  cases phase with
  | started | parsed | announced | launched | waiting | failing | failed => rfl
  | asleep queue =>
      exact congrArg (fun effects => some (Level.mk 0 program arguments
        (.ok (queue, ⟨effects, .endless Wait.tick⟩)))) effects
  | done queue =>
      exact congrArg (fun effects => some (Level.mk 0 program arguments
        (.ok (queue, ⟨effects, .returned⟩)))) effects

end Process

namespace System

variable {executable : Bytes} {program : Option Bytes} {arguments : List Bytes} {log : Log}
  {system : System}

/-- The texts that the processes of a system have written, from the root down. -/
def texts (log : Log) (number : Nat → Nat) (system : System) (stream : Stream) : List String :=
  (system.mapIdx fun place process =>
    ((process.renumber number).deeds log (number place)).filterMap (Deed.written? stream)).flatten

def outcome (log : Log) (number : Nat → Nat) (system : System) : Outcome where
  levels := system.mapIdx fun place process =>
    ((process.renumber number).level? (number place)).map Level.anonymous
  statuses := system.map Process.status?
  texts := fun stream => system.texts log number stream

/-- A system has settled if it has been carried on without a fault until it is at rest. -/
structure Settled (executable : Bytes) (program : Option Bytes) (arguments : List Bytes)
    (system : System) : Prop where
  reached : Reachable executable (fun _ => False) (root program arguments) system
  rest : AtRest executable system

namespace Settled

variable (settled : Settled executable program arguments system)

include settled

theorem quiet {process : Process} (member : process ∈ system) (failure : Failure)
    (failed : process.phase = .failed failure) : process.effects = [] := by
  obtain ⟨place, found⟩ := List.mem_iff_getElem?.1 member
  have refused := settled.reached.sound process member failure (by rw [failed]; rfl)
  exact ((settled.reached.invariant.came place process found).refused_phase refused).1

theorem parent {place : Nat} {process : Process} (found : system[place]? = some process) :
    process.parent = Process.above? place := by
  have invariant := settled.reached.invariant
  cases place with
  | zero => exact (Process.given_eq.1 (invariant.root process found)).1
  | succ place =>
      have above := List.getElem?_eq_getElem
        (Nat.lt_of_succ_lt (List.getElem?_eq_some_iff.1 found).1)
      obtain ⟨queue, _, made⟩ := invariant.handed place _ process above found
      exact (Process.given_eq.1 made).1

/-- What can be told of each process by its level can be told of the sequential chain. -/
theorem map {A : Type} (tell : Nat → Process → A) (read : Level → A)
    (same : ∀ place process level, system[place]? = some process →
      process.level? place = some level → tell place process = read level) :
    system.mapIdx tell = ((origin executable).chain 0 program arguments).map read := by
  have levels := rest_chain settled.reached settled.rest
  refine List.ext_getElem? fun place => ?_
  have level := congrArg (·[place]?) levels
  simp only [List.getElem?_mapIdx, List.getElem?_map] at level ⊢
  cases found : system[place]? with
  | none =>
      rw [found, Option.map_none, eq_comm, Option.map_eq_none_iff] at level
      rw [level]
      rfl
  | some process =>
      rw [found, Option.map_some, eq_comm, Option.map_eq_some_iff] at level
      obtain ⟨level, there, ran⟩ := level
      rw [there, Option.map_some, Option.map_some, same place process level found ran.symm]

theorem map_placeless {A : Type} (tell : Process → A) (read : Level → A)
    (same : ∀ place process level, system[place]? = some process →
      process.level? place = some level → tell process = read level) :
    system.map tell = ((origin executable).chain 0 program arguments).map read := by
  rw [← settled.map (fun _ => tell) read same]
  exact (List.mapIdx_eq_iff.2 fun _ => List.getElem?_map).symm

/-- There is only one way for a chain to settle. -/
theorem unique : system = ((origin executable).chain 0 program arguments).map Process.ofLevel := by
  rw [← settled.map_placeless id Process.ofLevel fun place process level found ran =>
    Process.level?_ofLevel ran (settled.quiet (List.mem_of_getElem? found)) (settled.parent found),
    List.map_id]

theorem life {place : Nat} {process : Process} {level : Level}
    (found : system[place]? = some process) (ran : process.level? place = some level)
    (log : Log) :
    (level.life log).deeds = process.deeds log place ∧
      (level.life log).status? = process.status? :=
  Process.level?_life log ran (settled.quiet (List.mem_of_getElem? found))

/-- If the processes are numbered by their places, nothing at all tells the runs apart. -/
theorem deeds_level (log : Log) : (system.mapIdx fun place process => process.deeds log place) =
    ((origin executable).chain 0 program arguments).map fun level => (level.life log).deeds :=
  settled.map _ _ fun _ _ _ found ran => (settled.life found ran log).1.symm

theorem texts_level (anonymous : log.Anonymous) (number : Nat → Nat) (stream : Stream) :
    system.texts log number stream = ((origin executable).chain 0 program arguments).flatMap
      fun level => (level.life log).texts stream := by
  rw [texts, List.flatMap_def]
  refine congrArg List.flatten (settled.map _ _ fun place process level found ran => ?_)
  have renumbered := process.level?_renumber number place (number place)
  rw [ran, Option.map_some, Option.map_eq_some_iff] at renumbered
  -- The process has another level with its new number, and both of them write the same.
  obtain ⟨other, again, same⟩ := renumbered
  have quiet (failure : Failure) (failed : (process.renumber number).phase = .failed failure) :
      (process.renumber number).effects = [] :=
    List.map_eq_nil_iff.2 (settled.quiet (List.mem_of_getElem? found) failure failed)
  rw [← (Process.level?_life log again quiet).1]
  change (other.life log).texts stream = _
  rw [← anonymous.level_texts other, same, anonymous.level_texts level]

theorem outcome_level (anonymous : log.Anonymous) (number : Nat → Nat) :
    system.outcome log number =
      .ofLevels log ((origin executable).chain 0 program arguments) := by
  have levels := settled.map
    (fun place process => ((process.renumber number).level? (number place)).map Level.anonymous)
    (fun level => some level.anonymous) fun place process level _ ran => by
      rw [process.level?_renumber number place (number place), ran, Option.map_some]
  have statuses := settled.map_placeless Process.status? (fun level => (level.life log).status?)
    fun place process level found ran => (settled.life found ran log).2.symm
  simp only [outcome, Outcome.ofLevels, levels, statuses, settled.texts_level anonymous]

end Settled

/-- A system is sequential if it has done what the chain does that runs level after level. -/
structure Sequential (executable : Bytes) (program : Option Bytes) (arguments : List Bytes)
    (system : System) : Prop where
  /-- With places for numbers, every process has done what its level does, whatever is logged. -/
  deeds : ∀ log, (system.mapIdx fun place process => process.deeds log place) =
    ((origin executable).chain 0 program arguments).map fun level => (level.life log).deeds
  /-- Without numbers, what is seen is the same whatever numbers the processes get in either. -/
  outcome : ∀ log : Log, log.Anonymous → ∀ (number : Nat → Nat) (origin : Origin) (own : Nat),
    origin.Alike (System.origin executable) →
      system.outcome log number = .ofLevels log (origin.chain own program arguments)
  /-- In whatever order the texts come out, their lines are the same when they are sorted. -/
  sorted : ∀ log : Log, log.Anonymous → ∀ (number : Nat → Nat) (origin : Origin) (own : Nat),
    origin.Alike (System.origin executable) →
      ∀ texts, texts.Perm (system.texts log number .error) →
        sortedLines (String.join texts) = sortedLines (String.join
          ((origin.chain own program arguments).flatMap fun level => (level.life log).texts .error))

theorem Settled.sequential (settled : Settled executable program arguments system) :
    Sequential executable program arguments system := by
  have outcome (log : Log) (anonymous : log.Anonymous) (number : Nat → Nat) (origin : Origin)
      (own : Nat) (alike : origin.Alike (System.origin executable)) :
      system.outcome log number = .ofLevels log (origin.chain own program arguments) :=
    (settled.outcome_level anonymous number).trans (Outcome.ofLevels_anonymous anonymous
      (Origin.chain_anonymous alike own 0 program arguments)).symm
  refine ⟨settled.deeds_level, outcome, ?_⟩
  intro log anonymous number origin own alike texts perm
  have errors := Multiset.coe_eq_coe.1 (congrArg (fun outcome => outcome.texts .error)
    (outcome log anonymous number origin own alike))
  refine sortedLines_perm (perm.trans errors) fun text member => ?_
  obtain ⟨level, _, written⟩ := List.mem_flatMap.1 member
  exact LinesEnded.life log level text written

end System

end LingerChain
