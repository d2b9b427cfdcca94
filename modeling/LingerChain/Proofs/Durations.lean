/-
This file shows that a chain on durations is a path with one level for each of them.
-/

import LingerChain.Proofs.Grammar
import LingerChain.Proofs.Level
import Mathlib.Data.List.Basic

namespace LingerChain

/-- The level at a place has read a text as its head and has run on it and on a tail. -/
def RanAt (levels : List Level) (place : Nat) (text : String) (tail : List String) : Prop :=
  ∃ level head, levels[place]? = some level ∧ Denotes text head ∧ level.Ran ⟨head, tail⟩

theorem RanAt.append {levels : List Level} {place : Nat} {text : String} {tail : List String}
    (ran : RanAt levels place text tail) (more : List Level) :
    RanAt (levels ++ more) place text tail := by
  obtain ⟨level, head, found, given⟩ := ran
  have inside : place < levels.length := (List.getElem?_eq_some_iff.1 found).1
  exact ⟨level, head, by rw [List.getElem?_append_left inside, found], given⟩

theorem RanAt.under {levels : List Level} {place : Nat} {text : String} {tail : List String}
    (ran : RanAt levels place text tail) (above : Level) :
    RanAt (above :: levels) (place + 1) text tail := by
  obtain ⟨level, head, found, given⟩ := ran
  exact ⟨level, head, by rw [List.getElem?_cons_succ, found], given⟩

theorem RanAt.behind {level : Level} {text : String} {queue : Queue}
    (denotes : Denotes text queue.head) (ran : level.Ran queue) (levels more : List Level) :
    RanAt (levels ++ level :: more) levels.length text queue.tail :=
  ⟨level, queue.head, by simp, denotes, ran⟩

/-- A duration before other durations and a plain text is read as the head of what follows it. -/
theorem Queue.ofArguments_front {text next : String} {millis : Millis}
    (denotes : Denotes text millis) {front : List String}
    (denote : ∀ text ∈ front, ∃ millis, Denotes text millis) (plain : Plain next)
    (others : List String) (program : Option Bytes) :
    ofArguments program ((text :: (front ++ next :: others)).map encode) =
      .ok ⟨millis, front ++ next :: others⟩ := by
  cases front with
  | nil => exact ofArguments_spells (.plainSecond denotes plain others)
  | cons second front =>
      obtain ⟨_, second_denotes⟩ := denote second List.mem_cons_self
      exact ofArguments_spells (.plainSecond denotes second_denotes.plain _)

namespace Origin

/-- Durations before a plain text run level by level, and the chain goes on from that text. -/
theorem chain_front {origin : Origin} {front : List String} {next : String} {others : List String}
    (launches : origin.Launches (front ++ next :: others))
    (denote : ∀ text ∈ front, ∃ millis, Denotes text millis) (plain : Plain next) (own : Nat)
    (program : Option Bytes) :
    ∃ levels number name, levels.length = front.length ∧
      origin.chain own program ((front ++ next :: others).map encode) =
        levels ++ (origin.shift levels.length).chain number name ((next :: others).map encode) ∧
      ∀ place (inside : place < front.length),
        RanAt levels place front[place] ((front ++ next :: others).drop (place + 1)) := by
  -- A duration is itself plain, so what follows the first one never changes how that is read.
  induction front generalizing origin own program with
  | nil =>
      refine ⟨[], own, program, rfl, rfl, ?_⟩
      intro place inside
      exact absurd inside (Nat.not_lt_zero place)
  | cons text front ih =>
      obtain ⟨⟨millis, denotes⟩, denote⟩ := List.forall_mem_cons.1 denote
      have parsed := Queue.ofArguments_front denotes denote plain others program
      have remaining := launches.less (List.suffix_cons text (front ++ next :: others))
      obtain ⟨child, step⟩ := chain_parsed remaining own parsed
      obtain ⟨levels, number, name, length, chain, ran⟩ :=
        ih remaining.below denote child origin.child
      rw [if_neg (by simp), chain] at step
      refine ⟨_ :: levels, number, name, congrArg (· + 1) length, step, ?_⟩
      intro place inside
      cases place with
      | zero => exact ⟨_, millis, rfl, denotes, level_ran remaining own parsed⟩
      | succ place => exact (ran place (Nat.lt_of_succ_lt_succ inside)).under _

/-- The last of the durations runs on an empty tail, and the chain ends there. -/
theorem chain_durations {origin : Origin} {durations : List String}
    (launches : origin.Launches durations) (given : durations ≠ [])
    (denote : ∀ text ∈ durations, ∃ millis, Denotes text millis) (own : Nat)
    (program : Option Bytes) :
    (origin.chain own program (durations.map encode)).length = durations.length ∧
      ∀ place (inside : place < durations.length),
        RanAt (origin.chain own program (durations.map encode)) place durations[place]
          (durations.drop (place + 1)) := by
  obtain ⟨front, last, rfl⟩ := (List.eq_nil_or_concat' durations).resolve_left given
  rw [List.forall_mem_append, List.forall_mem_singleton] at denote
  obtain ⟨denote, millis, denotes⟩ := denote
  obtain ⟨levels, number, name, length, chain, ran⟩ :=
    chain_front launches denote denotes.plain own program
  have remaining := (launches.less List.nil_suffix).shift levels.length
  have parsed : Queue.ofArguments name ([last].map encode) = .ok ⟨millis, []⟩ :=
    Queue.ofArguments_spells (.headAlone denotes)
  obtain ⟨_, step⟩ := chain_parsed remaining number parsed
  rw [if_pos rfl] at step
  rw [chain, step]
  refine ⟨by simp [length], fun place inside => ?_⟩
  rw [List.length_append, List.length_singleton] at inside
  rcases Nat.lt_succ_iff_lt_or_eq.1 inside with within | rfl
  · rw [List.getElem_append_left within]
    exact (ran place within).append _
  · have behind := RanAt.behind denotes (level_ran remaining number parsed) levels []
    simpa [length] using behind

/-- A chain on durations is a path with a level for each of them. A level reads its own duration as
the head and the later ones as the tail, calls for the tail once unless it is the last level, and
waits by the sign of its head. -/
theorem durations_path {origin : Origin} {durations : List String}
    (launches : origin.Launches durations) (given : durations ≠ [])
    (denote : ∀ text ∈ durations, ∃ millis, Denotes text millis) (own : Nat)
    (program : Option Bytes) :
    (origin.chain own program (durations.map encode)).length = durations.length ∧
      ∀ place (inside : place < durations.length), ∃ level queue trace,
        (origin.chain own program (durations.map encode))[place]? = some level ∧
        level.run = .ok (queue, trace) ∧
        Denotes durations[place] queue.head ∧
        queue.tail = durations.drop (place + 1) ∧
        queue.depth = durations.length - place ∧
        trace.calls =
          (if place + 1 < durations.length then [durations.drop (place + 1)] else []) ∧
        trace.Waits queue.head.value := by
  obtain ⟨length, ran⟩ := chain_durations launches given denote own program
  refine ⟨length, fun place inside => ?_⟩
  obtain ⟨level, head, found, denotes, trace, run, calls, waits⟩ := ran place inside
  refine ⟨level, _, trace, found, run, denotes, rfl, ?_, ?_, waits⟩
  · rw [Queue.depth, List.length_drop]
    omega
  · rw [calls]
    simp only [List.drop_eq_nil_iff]
    split <;> split <;> first | rfl | omega

theorem durations_path_signed :
    let surroundings : Surroundings := ⟨.ok (encode "linger"), fun _ _ => .ok 2⟩
    ((surroundings.origin (encode "linger")).chain 1 none
      (["-0", "+7", "-9223372036854775808"].map encode)).length = 3 := by
  intro surroundings
  have launches : (surroundings.origin (encode "linger")).Launches
      ["-0", "+7", "-9223372036854775808"] :=
    Surroundings.origin_launches (fun _ => ⟨2, rfl⟩) (by decide) (by decide)
  exact (durations_path launches (by decide) (by decide) 1 none).1

end Origin

end LingerChain
