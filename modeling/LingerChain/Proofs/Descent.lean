/-
This file shows that every level of a chain hands on less than it was given, so that the chain ends.
-/

import LingerChain.Proofs.Argument
import LingerChain.Proofs.Level

namespace LingerChain

/-- An escape stands before or behind the head. -/
def escapes (arguments : List Bytes) : Bool := encode "--" ∈ arguments.take 2

/-- A level spends the head on itself, and the escape too if there is one. -/
def spent (arguments : List Bytes) : Nat := if escapes arguments then 2 else 1

namespace Queue

variable {program : Option Bytes} {arguments : List Bytes} {queue : Queue}

theorem tail_spent (parsed : ofArguments program arguments = .ok queue) :
    spent arguments ≤ arguments.length ∧
      queue.tail.map encode = arguments.drop (spent arguments) := by
  have other {text : String} (different : text ≠ "--") : encode "--" ≠ encode text :=
    fun same => different (Bytes.encode_injective same).symm
  obtain ⟨texts, form, rfl, spells⟩ := ofArguments_ok.1 parsed
  cases spells with
  | escapeFirst denotes tail => simp [spent, escapes]
  | escapeSecond denotes tail => simp [spent, escapes]
  | headAlone denotes => simp [spent, escapes, other denotes.plain.notEscape]
  | plainSecond denotes plain tail =>
      simp [spent, escapes, other denotes.plain.notEscape, other plain.notEscape]

theorem tail_suffix (parsed : ofArguments program arguments = .ok queue) :
    queue.tail.map encode <:+ arguments := by
  rw [(tail_spent parsed).2]
  exact List.drop_suffix _ _

/-- The depth counts the arguments that are left and the level itself. -/
theorem depth_spent (parsed : ofArguments program arguments = .ok queue) :
    queue.depth + spent arguments = arguments.length + 1 := by
  obtain ⟨within, tail⟩ := tail_spent parsed
  have length := congrArg List.length tail
  rw [List.length_map, List.length_drop] at length
  rw [depth, length]
  omega

end Queue

namespace Effect

def announced? : Effect → Option Nat
  | log (.node _ depth _) => some depth
  | _ => none

end Effect

namespace Level

/-- A level announces its depth before it does anything else. -/
def announced? (level : Level) : Option Nat :=
  level.run.toOption.bind fun run => run.2.effects.findSome? Effect.announced?

end Level

namespace Origin

variable {origin : Origin} {own : Nat} {program : Option Bytes} {arguments : List Bytes}

/-- A level that goes on has read its arguments and hands on a tail that is not empty. -/
theorem next_some {child : Nat} {launched : List String}
    (next : (origin.level own program arguments).next? = some (child, launched)) :
    ∃ queue, Queue.ofArguments program arguments = .ok queue ∧ launched = queue.tail ∧
      queue.tail ≠ [] := by
  cases parsed : Queue.ofArguments program arguments with
  | error failure =>
      simp only [level, parsed] at next
      contradiction
  | ok queue =>
      rw [next_parsed own parsed] at next
      split at next
      · contradiction
      · rename_i given
        simp only [Option.map_eq_some_iff, Prod.mk.injEq] at next
        obtain ⟨_, _, _, same⟩ := next
        exact ⟨queue, rfl, same.symm, given⟩

theorem level_run {queue : Queue} {trace : Trace}
    (run : (origin.level own program arguments).run = .ok (queue, trace)) :
    Queue.ofArguments program arguments = .ok queue ∧
      trace = Node.start own (origin.launcher 0) queue := by
  cases parsed : Queue.ofArguments program arguments with
  | error failure =>
      simp only [level, parsed] at run
      contradiction
  | ok other =>
      simp only [level, parsed, Except.map, Except.ok.injEq, Prod.mk.injEq] at run
      obtain ⟨rfl, rfl⟩ := run
      exact ⟨rfl, rfl⟩

/-- A level that has read its arguments has run as a node. -/
theorem run_parsed (own : Nat) (parsed : Queue.ofArguments program arguments = .ok queue) :
    (origin.level own program arguments).run =
      .ok (queue, Node.start own (origin.launcher 0) queue) := by
  rw [level, parsed]
  rfl

theorem level_announced (parsed : Queue.ofArguments program arguments = .ok queue) :
    (origin.level own program arguments).announced? = some queue.depth := by
  simp only [Level.announced?, level, parsed]
  rfl

/-- Only a level that has read its arguments announces a depth. -/
theorem announced_some {depth : Nat}
    (announced : (origin.level own program arguments).announced? = some depth) :
    ∃ queue, Queue.ofArguments program arguments = .ok queue ∧ depth = queue.depth := by
  cases parsed : Queue.ofArguments program arguments with
  | error failure =>
      simp only [Level.announced?, level, parsed] at announced
      contradiction
  | ok queue =>
      rw [level_announced parsed] at announced
      exact ⟨queue, rfl, (Option.some.inj announced).symm⟩

theorem level_calls (parsed : Queue.ofArguments program arguments = .ok queue) :
    (origin.level own program arguments).calls =
      if queue.tail = [] then [] else [queue.tail] := by
  simp only [Level.calls, level, parsed]
  exact Node.start_calls own (origin.launcher 0) queue

/-- A chain ends at its first level, or goes on with the chain on its tail. -/
theorem chain_cases (origin : Origin) (own : Nat) (program : Option Bytes)
    (arguments : List Bytes) :
    ((origin.level own program arguments).next? = none ∧
      origin.chain own program arguments = [origin.level own program arguments]) ∨
    ∃ child queue, (origin.level own program arguments).next? = some (child, queue.tail) ∧
      Queue.ofArguments program arguments = .ok queue ∧ queue.tail ≠ [] ∧
      origin.chain own program arguments = origin.level own program arguments ::
        origin.below.chain child origin.child (queue.tail.map encode) := by
  cases next : (origin.level own program arguments).next? with
  | none => exact .inl ⟨rfl, chainLast next⟩
  | some pair =>
      obtain ⟨child, launched⟩ := pair
      obtain ⟨queue, parsed, rfl, given⟩ := next_some next
      exact .inr ⟨child, queue, rfl, parsed, given, chainNext next⟩

theorem chain_cons (origin : Origin) (own : Nat) (program : Option Bytes)
    (arguments : List Bytes) :
    ∃ below, origin.chain own program arguments = origin.level own program arguments :: below := by
  rcases chain_cases origin own program arguments with ⟨_, chain⟩ | ⟨_, _, _, _, _, chain⟩
  · exact ⟨[], chain⟩
  · exact ⟨_, chain⟩

theorem chain_head (origin : Origin) (own : Nat) (program : Option Bytes)
    (arguments : List Bytes) :
    (origin.chain own program arguments)[0]? = some (origin.level own program arguments) := by
  obtain ⟨below, chain⟩ := chain_cons origin own program arguments
  rw [chain]
  rfl

/-- From each of its levels on a chain is the chain on the arguments of that level, and these are
the last ones of those it began with. -/
theorem chain_drop {place : Nat} {level : Level}
    (found : (origin.chain own program arguments)[place]? = some level) :
    ∃ (deeper : Origin) (number : Nat) (name : Option Bytes),
      level = deeper.level number name level.arguments ∧
      (origin.chain own program arguments).drop place =
        deeper.chain number name level.arguments ∧
      level.arguments <:+ arguments := by
  induction place generalizing origin own program arguments with
  | zero =>
      rw [chain_head] at found
      obtain rfl := Option.some.inj found
      exact ⟨origin, own, program, rfl, rfl, List.suffix_rfl⟩
  | succ place ih =>
      rcases chain_cases origin own program arguments with ⟨_, chain⟩ |
        ⟨child, queue, _, parsed, _, chain⟩
      · rw [chain] at found
        contradiction
      · rw [chain, List.getElem?_cons_succ] at found
        obtain ⟨deeper, number, name, same, drop, suffix⟩ := ih found
        rw [(Queue.tail_spent parsed).2] at suffix
        rw [chain, List.drop_succ_cons]
        exact ⟨deeper, number, name, same, drop, suffix.trans (List.drop_suffix _ _)⟩

/-- A chain has no more levels than arguments, unless its only level has none. -/
theorem chain_length (origin : Origin) (own : Nat) (program : Option Bytes)
    (arguments : List Bytes) :
    (origin.chain own program arguments).length ≤ max 1 arguments.length := by
  induction origin, own, program, arguments using chain.induct with
  | case1 origin own program arguments next =>
      rw [chainLast next]
      exact Nat.le_max_left 1 _
  | case2 origin own program arguments child launched next ih =>
      obtain ⟨queue, parsed, rfl, given⟩ := next_some next
      have positive := List.length_pos_iff.2 given
      have shorter := Queue.tailShorter parsed
      rw [chainNext next, List.length_cons]
      rw [List.length_map] at ih
      omega

theorem chain_depth (parsed : Queue.ofArguments program arguments = .ok queue) :
    (origin.chain own program arguments).length ≤ queue.depth := by
  rcases chain_cases origin own program arguments with ⟨_, chain⟩ |
    ⟨child, other, _, again, given, chain⟩
  · rw [chain]
    exact Nat.le_add_right 1 _
  · obtain rfl := Except.ok.inj (parsed.symm.trans again)
    have below := chain_length origin.below child origin.child (queue.tail.map encode)
    have positive := List.length_pos_iff.2 given
    rw [List.length_map] at below
    rw [chain, List.length_cons, Queue.depth]
    omega

end Origin

/-- The levels of a chain descend from the arguments of the first one. -/
structure Descends (levels : List Level) (arguments : List Bytes) : Prop where
  /-- A level hands on what is left after the head and an escape beside it. -/
  left : ∀ level ∈ levels, ∀ queue trace, level.run = .ok (queue, trace) →
    spent level.arguments ≤ level.arguments.length ∧
      queue.tail.map encode = level.arguments.drop (spent level.arguments)
  announces : ∀ level ∈ levels, ∀ queue trace, level.run = .ok (queue, trace) →
    level.announced? = some queue.depth
  /-- What a level tries to launch is not empty and is less than all arguments of the chain. -/
  calls : ∀ level ∈ levels, ∀ call ∈ level.calls, call ≠ [] ∧ call.map encode <:+ arguments ∧
    call.length < arguments.length
  /-- A level is started with what the level above it has launched. -/
  handed : ∀ place above below, levels[place]? = some above → levels[place + 1]? = some below →
    ∃ child launched, above.next? = some (child, launched) ∧
      below.arguments = launched.map encode
  /-- The depth falls by what the lower level spends, which is one or two. -/
  deeper : ∀ place above below depth next, levels[place]? = some above →
    levels[place + 1]? = some below → above.announced? = some depth →
    below.announced? = some next → depth = next + spent below.arguments
  /-- A depth is an upper bound for the levels from there on. -/
  bounded : ∀ place level depth, levels[place]? = some level → level.announced? = some depth →
    (levels.drop place).length ≤ depth
  /-- The last level launches nothing. -/
  ends : ∃ last, levels.getLast? = some last ∧ last.next? = none
  length : 1 ≤ levels.length ∧ levels.length ≤ max 1 arguments.length

namespace Origin

variable {origin : Origin} {own : Nat} {program : Option Bytes} {arguments : List Bytes}

/-- A level of a chain that has run has read its own arguments. -/
theorem chain_run {level : Level} {queue : Queue} {trace : Trace}
    (member : level ∈ origin.chain own program arguments) (run : level.run = .ok (queue, trace)) :
    level.announced? = some queue.depth ∧
      ∃ name, Queue.ofArguments name level.arguments = .ok queue := by
  obtain ⟨place, found⟩ := List.mem_iff_getElem?.1 member
  obtain ⟨deeper, number, name, same, _⟩ := chain_drop found
  rw [same] at run
  obtain ⟨parsed, _⟩ := level_run run
  exact ⟨same ▸ level_announced parsed, name, parsed⟩

theorem chain_calls {level : Level} {call : List String}
    (member : level ∈ origin.chain own program arguments) (called : call ∈ level.calls) :
    call ≠ [] ∧ call.map encode <:+ arguments ∧ call.length < arguments.length := by
  obtain ⟨place, found⟩ := List.mem_iff_getElem?.1 member
  obtain ⟨deeper, number, name, same, _, suffix⟩ := chain_drop found
  rw [same] at called
  cases parsed : Queue.ofArguments name level.arguments with
  | error failure =>
      simp only [Level.calls, Origin.level, parsed] at called
      contradiction
  | ok queue =>
      rw [level_calls parsed] at called
      split at called
      · contradiction
      · rename_i given
        obtain rfl := List.mem_singleton.1 called
        refine ⟨given, ?_, Nat.lt_of_lt_of_le (Queue.tailShorter parsed) suffix.length_le⟩
        rw [(Queue.tail_spent parsed).2]
        exact (List.drop_suffix _ _).trans suffix

/-- Two levels, one right above the other, are the first ones of a chain. -/
theorem chain_step {place : Nat} {above below : Level}
    (first : (origin.chain own program arguments)[place]? = some above)
    (second : (origin.chain own program arguments)[place + 1]? = some below) :
    ∃ (deeper lower : Origin) (number child : Nat) (name : Option Bytes) (queue : Queue),
      above = deeper.level number name above.arguments ∧
      Queue.ofArguments name above.arguments = .ok queue ∧
      above.next? = some (child, queue.tail) ∧
      below = lower.level child deeper.child (queue.tail.map encode) := by
  obtain ⟨deeper, number, name, same, drop, _⟩ := chain_drop first
  rw [← List.getElem?_drop, drop] at second
  rcases chain_cases deeper number name above.arguments with ⟨_, chain⟩ |
    ⟨child, queue, next, parsed, _, chain⟩
  · rw [chain] at second
    contradiction
  · rw [chain, List.getElem?_cons_succ, chain_head] at second
    rw [← same] at next
    exact ⟨deeper, deeper.below, number, child, name, queue, same, parsed, next,
      (Option.some.inj second).symm⟩

theorem chain_deeper {place depth next : Nat} {above below : Level}
    (first : (origin.chain own program arguments)[place]? = some above)
    (second : (origin.chain own program arguments)[place + 1]? = some below)
    (announced : above.announced? = some depth) (deeper : below.announced? = some next) :
    depth = next + spent below.arguments := by
  obtain ⟨higher, lower, number, child, name, queue, same, parsed, _, rfl⟩ :=
    chain_step first second
  rw [same, level_announced parsed] at announced
  obtain rfl := Option.some.inj announced
  obtain ⟨later, again, rfl⟩ := announced_some deeper
  have left := Queue.depth_spent again
  rw [List.length_map] at left
  rw [Queue.depth, Nat.add_comm, ← left]
  rfl

theorem chain_last (origin : Origin) (own : Nat) (program : Option Bytes)
    (arguments : List Bytes) :
    ∃ last, (origin.chain own program arguments).getLast? = some last ∧ last.next? = none := by
  induction origin, own, program, arguments using chain.induct with
  | case1 origin own program arguments next =>
      rw [chainLast next]
      exact ⟨_, rfl, next⟩
  | case2 origin own program arguments child launched next ih =>
      obtain ⟨last, found, silent⟩ := ih
      rw [chainNext next]
      exact ⟨last, by rw [List.getLast?_cons, found]; rfl, silent⟩

/-- Every chain comes to an end, and its levels descend towards it. Whatever the arguments are and
whatever the launchers answer, a level hands on less than it was given, and neither the depth nor
the number of arguments is exceeded by the number of levels. -/
theorem chain_descends (origin : Origin) (own : Nat) (program : Option Bytes)
    (arguments : List Bytes) : Descends (origin.chain own program arguments) arguments where
  left level member queue trace run := by
    obtain ⟨_, _, parsed⟩ := chain_run member run
    exact Queue.tail_spent parsed
  announces level member queue trace run := (chain_run member run).1
  calls level member call called := chain_calls member called
  handed place above below first second := by
    obtain ⟨_, _, _, child, _, queue, _, _, next, rfl⟩ := chain_step first second
    exact ⟨child, queue.tail, next, rfl⟩
  deeper place above below depth next first second announced deeper :=
    chain_deeper first second announced deeper
  bounded place level depth found announced := by
    obtain ⟨deeper, number, name, same, drop, _⟩ := chain_drop found
    rw [same] at announced
    obtain ⟨queue, parsed, rfl⟩ := announced_some announced
    rw [drop]
    exact chain_depth parsed
  ends := chain_last origin own program arguments
  length := by
    have first := (List.getElem?_eq_some_iff.1 (chain_head origin own program arguments)).1
    exact ⟨first, chain_length origin own program arguments⟩

end Origin

end LingerChain
