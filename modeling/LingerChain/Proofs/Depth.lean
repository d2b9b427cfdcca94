/-
This file compares the depth that a level announces with the levels that really follow.
-/

import LingerChain.Proofs.Descent

namespace LingerChain

namespace Effect

def remaining? : Effect → Option Nat
  | log (.launched _ remaining) => some remaining
  | _ => none

end Effect

namespace Trace

/-- The notes of a launcher come before the note of the node about its child. -/
def remaining? (trace : Trace) : Option Nat :=
  (trace.effects.filterMap Effect.remaining?).getLast?

end Trace

namespace Level

def remaining? (level : Level) : Option Nat :=
  level.run.toOption.bind fun run => run.2.remaining?

/-- A level succeeds if it has read its arguments and no launch has failed. -/
def Succeeds (level : Level) : Prop :=
  ∃ queue trace, level.run = .ok (queue, trace) ∧ ∀ failure, trace.ending ≠ .failed failure

/-- A level drops an escape that stands before or behind its head. -/
def escapes (level : Level) : Bool := LingerChain.escapes level.arguments

theorem spent_escapes (level : Level) :
    spent level.arguments = 1 + if level.escapes then 1 else 0 := by
  unfold spent escapes
  split <;> simp_all

theorem countP_escapes {levels : List Level}
    (straight : ∀ level ∈ levels.tail, level.escapes = false) (place : Nat) :
    (levels.drop (place + 1)).countP escapes = 0 := by
  rw [List.countP_eq_zero]
  intro level member
  rw [Nat.add_comm, ← List.drop_drop, List.drop_one] at member
  exact Bool.eq_false_iff.1 (straight level (List.mem_of_mem_drop member))

theorem Ran.succeeds {level : Level} {queue : Queue} (ran : level.Ran queue) :
    level.Succeeds := by
  obtain ⟨trace, run, _, waits⟩ := ran
  refine ⟨queue, trace, run, fun failure failed => ?_⟩
  cases waits with
  | exit _ _ _ ending => simp [ending] at failed
  | sleep _ _ _ _ _ ending => simp [ending] at failed
  | forever _ _ _ ending => simp [ending] at failed

end Level

/-- Depths are exact if every level announces how many levels there are from itself on, and notes
the depth of the level that it has launched. -/
def ExactDepths (levels : List Level) : Prop :=
  (∀ place level, levels[place]? = some level →
    level.announced? = some (levels.length - place)) ∧
  ∀ place above below, levels[place]? = some above → levels[place + 1]? = some below →
    above.remaining? = below.announced?

namespace Node

theorem settle_remaining (queue : Queue) :
    (settle queue).effects.filterMap Effect.remaining? = [] := by
  unfold settle Wait.ofMillis
  split
  · rfl
  · split <;> rfl

/-- A node that has launched a child notes how many arguments it has handed on. -/
theorem descend_remaining {queue : Queue} {answer : Answer} {child : Nat}
    (answered : answer.child = .ok child) :
    (descend queue answer).remaining? = some queue.tail.length := by
  obtain ⟨notes, _⟩ := answer
  obtain rfl := answered
  simp only [descend, Trace.remaining?, Trace.after, launching, List.filterMap_append,
    settle_remaining, List.append_nil, List.filterMap_cons, Effect.remaining?]
  simp

theorem start_remaining (own : Nat) {launcher : Launcher} {queue : Queue} {child : Nat}
    (given : queue.tail ≠ []) (answered : (launcher queue.tail).child = .ok child) :
    (start own launcher queue).remaining? = some queue.tail.length := by
  have descended := @descend_remaining queue (launcher queue.tail) child answered
  rw [start, if_neg given]
  exact descended

/-- A node fails if its launch does. -/
theorem start_failed (own : Nat) {launcher : Launcher} {queue : Queue} {failure : Failure}
    (given : queue.tail ≠ []) (answered : (launcher queue.tail).child = .error failure) :
    (start own launcher queue).ending = .failed failure := by
  rw [start, if_neg given]
  simp only [Trace.after, descend, answered]

end Node

namespace Origin

variable {origin : Origin} {own : Nat} {program : Option Bytes} {arguments : List Bytes}

/-- A level that succeeds has read its arguments, and launches its tail if there is one. -/
theorem level_succeeds (succeeds : (origin.level own program arguments).Succeeds) :
    ∃ queue, Queue.ofArguments program arguments = .ok queue ∧
      (queue.tail ≠ [] → ∃ child, (origin.launcher 0 queue.tail).child = .ok child) := by
  obtain ⟨queue, trace, run, success⟩ := succeeds
  obtain ⟨parsed, rfl⟩ := level_run run
  refine ⟨queue, parsed, fun given => ?_⟩
  cases answered : (origin.launcher 0 queue.tail).child with
  | ok child => exact ⟨child, rfl⟩
  | error failure => exact absurd (Node.start_failed own given answered) (success failure)

/-- The depth exceeds the number of levels by the escapes that the lower levels drop. -/
theorem chain_depth_escapes {queue : Queue}
    (succeed : ∀ level ∈ origin.chain own program arguments, level.Succeeds)
    (parsed : Queue.ofArguments program arguments = .ok queue) :
    queue.depth = (origin.chain own program arguments).length +
      ((origin.chain own program arguments).drop 1).countP Level.escapes := by
  -- What the next level spends is one place in the list of levels, and one more for an escape.
  induction origin, own, program, arguments using chain.induct generalizing queue with
  | case1 origin own program arguments next =>
      rw [chainLast next] at succeed ⊢
      obtain ⟨other, again, launches⟩ := level_succeeds (succeed _ List.mem_cons_self)
      obtain rfl := Except.ok.inj (again.symm.trans parsed)
      rw [next_parsed own parsed] at next
      split at next
      · rename_i nothing
        simp [Queue.depth, nothing]
      · rename_i given
        obtain ⟨child, answered⟩ := launches given
        rw [answered] at next
        contradiction
  | case2 origin own program arguments child launched next ih =>
      obtain ⟨other, again, rfl, given⟩ := next_some next
      obtain rfl := Except.ok.inj (parsed.symm.trans again)
      rw [chainNext next] at succeed ⊢
      have below := (List.forall_mem_cons.1 succeed).2
      obtain ⟨rest, chain⟩ := chain_cons origin.below child origin.child (queue.tail.map encode)
      obtain ⟨lower, read, _⟩ := level_succeeds (below _ (chain ▸ List.mem_cons_self))
      have depth := ih below read
      have spending := Queue.depth_spent read
      have dropped := Level.spent_escapes
        (origin.below.level child origin.child (queue.tail.map encode))
      rw [chain, List.length_cons, List.drop_one, List.tail_cons] at depth
      rw [List.length_map] at spending
      rw [chain, List.drop_one, List.tail_cons, List.countP_cons, List.length_cons,
        List.length_cons, Queue.depth]
      change spent (queue.tail.map encode) = _ at dropped
      omega

/-- A level that goes on notes how many arguments it has handed on. -/
theorem level_remaining {child : Nat} {launched : List String}
    (next : (origin.level own program arguments).next? = some (child, launched)) :
    (origin.level own program arguments).remaining? = some launched.length := by
  obtain ⟨queue, parsed, rfl, given⟩ := next_some next
  rw [next_parsed own parsed, if_neg given] at next
  cases answered : (origin.launcher 0 queue.tail).child with
  | error failure =>
      rw [answered] at next
      contradiction
  | ok number =>
      simp only [Level.remaining?, level, parsed]
      exact Node.start_remaining own given answered

/-- A level notes the depth of the level below it, and one more if that level drops an escape. -/
theorem chain_remaining {place depth : Nat} {above below : Level}
    (first : (origin.chain own program arguments)[place]? = some above)
    (second : (origin.chain own program arguments)[place + 1]? = some below)
    (announced : below.announced? = some depth) :
    above.remaining? = some (depth + if below.escapes then 1 else 0) := by
  obtain ⟨deeper, under, number, child, name, queue, same, _, next, rfl⟩ := chain_step first second
  obtain ⟨read, parsed, rfl⟩ := announced_some announced
  have spending := Queue.depth_spent parsed
  have dropped := Level.spent_escapes (under.level child deeper.child (queue.tail.map encode))
  change spent (queue.tail.map encode) = _ at dropped
  rw [same] at next ⊢
  rw [level_remaining next]
  rw [List.length_map] at spending
  congr 1
  omega

theorem chain_announced {place : Nat} {level : Level}
    (succeed : ∀ level ∈ origin.chain own program arguments, level.Succeeds)
    (found : (origin.chain own program arguments)[place]? = some level) :
    level.announced? = some ((origin.chain own program arguments).length - place +
      ((origin.chain own program arguments).drop (place + 1)).countP Level.escapes) := by
  obtain ⟨deeper, number, name, same, drop, _⟩ := chain_drop found
  have success := succeed level (List.mem_of_getElem? found)
  rw [same] at success ⊢
  obtain ⟨queue, parsed, _⟩ := level_succeeds success
  have rest : ∀ lower ∈ deeper.chain number name level.arguments, lower.Succeeds := by
    rw [← drop]
    exact fun lower member => succeed lower (List.mem_of_mem_drop member)
  have depth := chain_depth_escapes rest parsed
  rw [← drop, List.length_drop, List.drop_drop] at depth
  rw [level_announced parsed, depth]

/-- If the depth of the first level is exact, then no lower level drops an escape. -/
theorem straight_of_exact
    (succeed : ∀ level ∈ origin.chain own program arguments, level.Succeeds)
    (depths : ExactDepths (origin.chain own program arguments)) {level : Level}
    (member : level ∈ (origin.chain own program arguments).tail) : level.escapes = false := by
  have first := chain_head origin own program arguments
  have same := Option.some.inj ((depths.1 0 _ first).symm.trans (chain_announced succeed first))
  have none : ((origin.chain own program arguments).drop (0 + 1)).countP Level.escapes = 0 := by
    omega
  rw [Nat.zero_add, List.drop_one, List.countP_eq_zero] at none
  exact Bool.eq_false_iff.2 (none level member)

theorem exact_of_straight
    (succeed : ∀ level ∈ origin.chain own program arguments, level.Succeeds)
    (straight : ∀ level ∈ (origin.chain own program arguments).tail, level.escapes = false) :
    ExactDepths (origin.chain own program arguments) := by
  constructor
  · intro place level found
    rw [chain_announced succeed found, Level.countP_escapes straight place]
    rfl
  · intro place above below first second
    have announced := chain_announced succeed second
    have lower : below ∈ (origin.chain own program arguments).tail := by
      rw [← List.drop_one]
      exact List.mem_of_getElem? (by rw [List.getElem?_drop, Nat.add_comm]; exact second)
    rw [chain_remaining first second announced, announced, straight below lower]
    rfl

/-- In a chain whose levels all succeed, a level announces the number of levels from itself on and
one more for every escape that a lower level drops, and it notes the depth of the next level and one
more if that level drops an escape. So the depths are exact if no level but the first drops one. -/
theorem depth_exact_iff
    (succeed : ∀ level ∈ origin.chain own program arguments, level.Succeeds) :
    let levels := origin.chain own program arguments
    (∀ place level, levels[place]? = some level → level.announced? =
      some (levels.length - place + (levels.drop (place + 1)).countP Level.escapes)) ∧
    (∀ place above below, levels[place]? = some above → levels[place + 1]? = some below →
      ∃ depth, below.announced? = some depth ∧
        above.remaining? = some (depth + if below.escapes then 1 else 0)) ∧
    (ExactDepths levels ↔ ∀ level ∈ levels.tail, level.escapes = false) := by
  intro levels
  refine ⟨fun place level found => chain_announced succeed found, ?_, ?_⟩
  · intro place above below first second
    have announced := chain_announced succeed second
    exact ⟨_, announced, chain_remaining first second announced⟩
  · exact ⟨fun depths level => straight_of_exact succeed depths, exact_of_straight succeed⟩

/-- Two levels that can read their arguments make up a chain that succeeds. -/
theorem chain_pair {first second : Queue} (launches : origin.Launches first.tail)
    (given : first.tail ≠ []) (parsed : Queue.ofArguments program arguments = .ok first)
    (below : Queue.ofArguments origin.child (first.tail.map encode) = .ok second)
    (last : second.tail = []) :
    ∃ child, origin.chain own program arguments = [origin.level own program arguments,
        origin.below.level child origin.child (first.tail.map encode)] ∧
      ∀ level ∈ origin.chain own program arguments, level.Succeeds := by
  have deeper : origin.below.Launches second.tail := last ▸ launches.below.less List.nil_suffix
  obtain ⟨child, step⟩ := chain_parsed launches own parsed
  obtain ⟨_, ending⟩ := chain_parsed deeper child below
  rw [if_neg given, ending, if_pos last] at step
  refine ⟨child, step, ?_⟩
  rw [step]
  refine List.forall_mem_cons.2 ⟨(level_ran launches own parsed).succeeds, ?_⟩
  exact List.forall_mem_singleton.2 (level_ran deeper child below).succeeds

/-- An escape that the first level drops leaves the depths exact. -/
theorem depth_exact_iff_first :
    let surroundings : Surroundings := ⟨.ok (encode "linger"), fun _ _ => .ok 2⟩
    let origin := surroundings.origin (encode "linger")
    ExactDepths (origin.chain 1 none (["--", "0", "-1"].map encode)) := by
  intro surroundings origin
  have launches : origin.Launches ["-1"] :=
    Surroundings.origin_launches (fun _ => ⟨2, rfl⟩) (by decide) (by decide)
  have zero : Denotes "0" Millis.zero := Millis.read_ok.1 rfl
  have minus : Denotes "-1" ⟨-1, by decide, by decide⟩ := Millis.read_ok.1 rfl
  have parsed : Queue.ofArguments none (["--", "0", "-1"].map encode) = .ok ⟨.zero, ["-1"]⟩ :=
    Queue.ofArguments_spells (.escapeFirst zero ["-1"])
  have below : Queue.ofArguments origin.child (["-1"].map encode) = .ok ⟨_, []⟩ :=
    Queue.ofArguments_spells (.headAlone minus)
  obtain ⟨child, chain, succeed⟩ := @chain_pair origin 1 _ _ _ _ launches (by simp) parsed below rfl
  refine (depth_exact_iff succeed).2.2.2 ?_
  rw [chain, List.tail_cons, List.forall_mem_singleton]
  change decide (encode "--" ∈ (["-1"].map encode).take 2) = false
  decide

/-- An escape that the second level drops makes the first level announce one level too many. -/
theorem depth_inexact :
    let surroundings : Surroundings := ⟨.ok (encode "linger"), fun _ _ => .ok 2⟩
    let origin := surroundings.origin (encode "linger")
    let levels := origin.chain 1 none (["0", "0", "--"].map encode)
    levels.length = 2 ∧ (∀ level ∈ levels, level.Succeeds) ∧ ¬ ExactDepths levels := by
  intro surroundings origin levels
  have launches : origin.Launches ["0", "--"] :=
    Surroundings.origin_launches (fun _ => ⟨2, rfl⟩) (by decide) (by decide)
  have zero : Denotes "0" Millis.zero := Millis.read_ok.1 rfl
  have parsed : Queue.ofArguments none (["0", "0", "--"].map encode) = .ok ⟨.zero, ["0", "--"]⟩ :=
    Queue.ofArguments_spells (.plainSecond zero zero.plain ["--"])
  have below : Queue.ofArguments origin.child (["0", "--"].map encode) = .ok ⟨_, []⟩ :=
    Queue.ofArguments_spells (.escapeSecond zero [])
  obtain ⟨child, chain, succeed⟩ := @chain_pair origin 1 _ _ _ _ launches (by simp) parsed below rfl
  have length : levels.length = 2 := congrArg List.length chain
  refine ⟨length, succeed, fun depths => ?_⟩
  have announced := depths.1 0 _ (chain_head origin 1 none _)
  rw [level_announced parsed, length] at announced
  exact absurd announced (by decide)

end Origin

end LingerChain
