/-
This file shows that a launch that fails cuts the chain below its level and changes nothing above.
-/

import LingerChain.Proofs.Descent

namespace LingerChain

namespace Level

/-- A level that could not launch its tail has announced itself and has called for the tail once. -/
def cut (level : Level) (queue : Queue) (failure : Failure) : Level :=
  { level with
    run := .ok (queue,
      ⟨[.log (.node level.own queue.depth queue.head), .launch queue.tail none],
        .failed failure⟩) }

/-- A level is in need of a child if it has read its arguments and has a tail to hand on. -/
def Needs (level : Level) (queue : Queue) : Prop :=
  (∃ trace, level.run = .ok (queue, trace)) ∧ queue.tail ≠ []

end Level

namespace Origin

/-- The launcher at one place fails, and the others stay as they are. -/
def failing (origin : Origin) (place : Nat) (failure : Failure) : Origin :=
  ⟨origin.child, fun depth =>
    if depth = place then fun _ => ⟨[], .error failure⟩ else origin.launcher depth⟩

variable {origin : Origin} {failure : Failure} {own place : Nat} {program : Option Bytes}
  {arguments : List Bytes} {queue : Queue}

theorem failing_below (origin : Origin) (place : Nat) (failure : Failure) :
    (origin.failing (place + 1) failure).below = origin.below.failing place failure := by
  simp only [failing, below, Nat.add_right_cancel_iff]

/-- A launcher that fails further down changes nothing at this level. -/
theorem level_failing (origin : Origin) (place : Nat) (failure : Failure) (own : Nat)
    (program : Option Bytes) (arguments : List Bytes) :
    (origin.failing (place + 1) failure).level own program arguments =
      origin.level own program arguments := rfl

theorem level_needs : (origin.level own program arguments).Needs queue ↔
    Queue.ofArguments program arguments = .ok queue ∧ queue.tail ≠ [] := by
  constructor
  · rintro ⟨⟨trace, run⟩, given⟩
    exact ⟨(level_run run).1, given⟩
  · rintro ⟨parsed, given⟩
    exact ⟨⟨_, run_parsed own parsed⟩, given⟩

/-- A level in need of a child fails with its launcher, and the chain ends there. -/
theorem chain_failing (needs : (origin.level own program arguments).Needs queue) :
    (origin.failing 0 failure).chain own program arguments =
      [(origin.level own program arguments).cut queue failure] := by
  obtain ⟨parsed, given⟩ := level_needs.1 needs
  have last : ((origin.failing 0 failure).level own program arguments).next? = none := by
    rw [next_parsed own parsed, if_neg given]
    rfl
  rw [chainLast last, level, level, parsed]
  simp only [Level.cut, Except.map, Node.start, if_neg given]
  rfl

/-- A level that needs no child is not touched by its launcher. -/
theorem chain_unfailing (idle : ∀ queue, ¬ (origin.level own program arguments).Needs queue) :
    (origin.failing 0 failure).chain own program arguments =
      origin.chain own program arguments := by
  cases parsed : Queue.ofArguments program arguments with
  | error fault => rw [chain_refused own parsed, chain_refused own parsed]
  | ok queue =>
      have nothing : queue.tail = [] := by
        by_contra given
        exact idle queue (level_needs.2 ⟨parsed, given⟩)
      have last (other : Origin) : other.chain own program arguments =
          [other.level own program arguments] := by
        rw [chainLast]
        rw [next_parsed own parsed, if_pos nothing]
      rw [last, last, level, level, parsed]
      simp only [Except.map, Node.start, if_pos nothing]

/-- A failure below this level leaves the level as it is and cuts the chain on its tail. -/
theorem chain_failing_below (origin : Origin) (place : Nat) (failure : Failure) (own : Nat)
    (program : Option Bytes) (arguments : List Bytes) :
    (origin.chain own program arguments = [origin.level own program arguments] ∧
      (origin.failing (place + 1) failure).chain own program arguments =
        [origin.level own program arguments]) ∨
    ∃ child tail, origin.chain own program arguments =
        origin.level own program arguments :: origin.below.chain child origin.child tail ∧
      (origin.failing (place + 1) failure).chain own program arguments =
        origin.level own program arguments ::
          (origin.below.failing place failure).chain child origin.child tail := by
  have same := level_failing origin place failure own program arguments
  cases next : (origin.level own program arguments).next? with
  | none =>
      rw [← same] at next
      refine .inl ⟨chainLast ?_, chainLast next⟩
      rw [← next, same]
  | some pair =>
      obtain ⟨child, launched⟩ := pair
      refine .inr ⟨child, launched.map encode, chainNext next, ?_⟩
      rw [← same] at next
      rw [chainNext next, same, failing_below]
      rfl

theorem chain_cut_needs {level : Level}
    (found : (origin.chain own program arguments)[place]? = some level)
    (needs : level.Needs queue) :
    (origin.failing place failure).chain own program arguments =
      (origin.chain own program arguments).take place ++ [level.cut queue failure] := by
  induction place generalizing origin own program arguments with
  | zero =>
      rw [chain_head] at found
      obtain rfl := Option.some.inj found
      exact chain_failing needs
  | succ place ih =>
      rcases chain_failing_below origin place failure own program arguments with
        ⟨whole, _⟩ | ⟨child, tail, whole, less⟩
      · rw [whole] at found
        contradiction
      · rw [whole, List.getElem?_cons_succ] at found
        rw [whole, less, List.take_succ_cons, List.cons_append, ih found]

theorem chain_cut_idle
    (idle : ∀ level queue, (origin.chain own program arguments)[place]? = some level →
      ¬ level.Needs queue) :
    (origin.failing place failure).chain own program arguments =
      origin.chain own program arguments := by
  induction place generalizing origin own program arguments with
  | zero => exact chain_unfailing fun queue => idle _ queue (chain_head ..)
  | succ place ih =>
      rcases chain_failing_below origin place failure own program arguments with
        ⟨whole, less⟩ | ⟨child, tail, whole, less⟩
      · rw [whole, less]
      · rw [whole] at idle
        rw [whole, less, ih idle]

/-- If the launch at one place fails, the levels above that place stay exactly as they are. A level
there that is in need of a child becomes the last one: it announces itself, calls for its tail once
and ends with the failure. If there is no such level, the chain stays as it is. -/
theorem chain_cut (origin : Origin) (own : Nat) (program : Option Bytes) (arguments : List Bytes)
    (place : Nat) (executable : Bytes) (fault : SystemFault) :
    let failure := Failure.blocked (.noChild executable fault)
    let whole := origin.chain own program arguments
    let less := (origin.failing place failure).chain own program arguments
    (∀ level queue, whole[place]? = some level → level.Needs queue →
      less = whole.take place ++ [level.cut queue failure]) ∧
    ((∀ level queue, whole[place]? = some level → ¬ level.Needs queue) → less = whole) ∧
    failure.exitCode = 1 := by
  intro failure whole less
  exact ⟨fun level queue found needs => chain_cut_needs found needs, chain_cut_idle, rfl⟩

/-- A launch that fails at the second of three levels leaves the first one as it is. -/
theorem chain_cut_second :
    let origin : Origin := ⟨none, fun depth _ => ⟨[], .ok (depth + 1)⟩⟩
    let failure := Failure.blocked (.noChild (encode "linger") (.number 11))
    let first := origin.level 0 none (["0", "-1", "5"].map encode)
    let second := origin.below.level 1 none (["-1", "5"].map encode)
    let queue : Queue := ⟨⟨-1, by decide, by decide⟩, ["5"]⟩
    second.Needs queue ∧
      (origin.failing 1 failure).chain 0 none (["0", "-1", "5"].map encode) =
        [first, second.cut queue failure] := by
  intro origin failure first second queue
  have needs : second.Needs queue := level_needs.2 ⟨rfl, List.cons_ne_nil _ _⟩
  have whole : origin.chain 0 none (["0", "-1", "5"].map encode) =
      first :: origin.below.chain 1 none (["-1", "5"].map encode) := chainNext rfl
  have found : (origin.chain 0 none (["0", "-1", "5"].map encode))[1]? = some second := by
    rw [whole, List.getElem?_cons_succ, chain_head]
  refine ⟨needs, ?_⟩
  rw [(chain_cut origin 0 none _ 1 _ (.number 11)).1 second queue found needs, whole]
  rfl

end Origin

end LingerChain
