/-
This file shows that the processes of a chain form a path, in whatever order they act.
-/

import LingerChain.Proofs.Process

namespace LingerChain

namespace Process

/-- The children of a process are those of its launches that have succeeded. -/
def children (process : Process) : List (Nat × List String) :=
  process.effects.filterMap Effect.launched?

def policies (process : Process) : List Wait := process.effects.filterMap Effect.applied?

/-- A process keeps what it was started with. -/
def given (process : Process) : Option Nat × Option Bytes × List Bytes :=
  (process.parent, process.program, process.arguments)

theorem given_eq {process : Process} {parent : Option Nat} {program : Option Bytes}
    {arguments : List Bytes} : process.given = (parent, program, arguments) ↔
      process.parent = parent ∧ process.program = program ∧ process.arguments = arguments := by
  simp [given]

theorem reading_given {process other : Process} (same : process.given = other.given) :
    process.reading = other.reading := by
  obtain ⟨_, program, arguments⟩ := given_eq.1 same
  rw [reading, reading, program, arguments]

theorem children_act (process : Process) (effects : List Effect) (phase : Phase) :
    (process.act effects phase).children =
      process.children ++ effects.filterMap Effect.launched? :=
  List.filterMap_append

theorem status?_some {process : Process} {status : Nat} (ended : process.status? = some status) :
    (∃ queue, process.phase = .done queue) ∨
      ∃ failure, process.phase = .failed failure ∧ status = failure.exitCode := by
  unfold status? at ended
  split at ended
  · exact .inl ⟨_, by assumption⟩
  · exact .inr ⟨_, by assumption, (Option.some.inj ended).symm⟩
  · contradiction

end Process

namespace System

variable {executable : Bytes} {program : Option Bytes} {arguments : List Bytes}
  {allowed : SystemFault → Prop} {before after system : System}

/-- What holds of a chain of processes whenever one of them may act. -/
structure Invariant (executable : Bytes) (program : Option Bytes) (arguments : List Bytes)
    (system : System) : Prop where
  inhabited : 0 < system.length
  root : ∀ process, system[0]? = some process → process.given = (none, program, arguments)
  came : ∀ place process, system[place]? = some process →
    Came executable place process.reading process.phase process.effects
  /-- Only the last process has no child. -/
  more : ∀ place process, system[place]? = some process →
    (process.children = [] ↔ system.length ≤ place + 1)
  /-- The next process is made from the tail of the queue of this one. -/
  handed : ∀ place upper lower, system[place]? = some upper → system[place + 1]? = some lower →
    ∃ queue, upper.reading = .ok queue ∧
      lower.given = (some place, some executable, queue.tail.map encode)

/-- A step is a move of one process, with a new process behind the others if it launches one. -/
theorem act?_some {fault : Option SystemFault} {place : Nat}
    (acted : before.act? executable fault place = some after) :
    ∃ process effects phase, before[place]? = some process ∧
      Moves executable place before.length process.reading process.phase effects phase ∧
      after = before.set place (process.act effects phase) ++ born executable place effects := by
  obtain ⟨process, found, moved⟩ := Option.bind_eq_some_iff.1 acted
  obtain ⟨⟨effects, phase⟩, next, rfl⟩ := Option.map_eq_some_iff.1 moved
  exact ⟨process, effects, phase, found, Process.next?_moves next, rfl⟩

theorem born_children (executable : Bytes) (place : Nat) (effects : List Effect) :
    born executable place effects = ((effects.filterMap Effect.launched?).head?.map fun child =>
      Process.fresh (some place) (some executable) (child.2.map encode)).toList := by
  rw [List.head?_filterMap]
  rfl

/-- When a process acts, the others stay as they are. -/
theorem set_found {place other : Nat} {process now : Process} {effects : List Effect}
    {phase : Phase} (found : before[place]? = some process)
    (look : (before.set place (process.act effects phase))[other]? = some now) :
    (other ≠ place ∧ before[other]? = some now) ∨
      (other = place ∧ now = process.act effects phase) := by
  rw [List.getElem?_set] at look
  split at look
  · rename_i same
    rw [if_pos (List.getElem?_eq_some_iff.1 found).1] at look
    exact .inr ⟨same.symm, (Option.some.inj look).symm⟩
  · rename_i different
    exact .inl ⟨Ne.symm different, look⟩

/-- A process was there before another one acted, and it was started with the same things. -/
theorem set_given {place other : Nat} {process now : Process} {effects : List Effect}
    {phase : Phase} (found : before[place]? = some process)
    (look : (before.set place (process.act effects phase))[other]? = some now) :
    ∃ was, before[other]? = some was ∧ now.given = was.given := by
  rcases set_found found look with ⟨_, old⟩ | ⟨rfl, rfl⟩
  · exact ⟨now, old, rfl⟩
  · exact ⟨process, found, rfl⟩

theorem root_found {place : Nat} {process : Process}
    (found : (root program arguments)[place]? = some process) :
    place = 0 ∧ process = Process.fresh none program arguments := by
  cases place with
  | zero => exact ⟨rfl, (Option.some.inj found).symm⟩
  | succ place => contradiction

theorem concat_found {place : Nat} {new now : Process}
    (look : (system ++ [new])[place]? = some now) :
    system[place]? = some now ∨ (place = system.length ∧ now = new) := by
  have within := (List.getElem?_eq_some_iff.1 look).1
  rw [List.length_append, List.length_singleton] at within
  rcases Nat.lt_succ_iff_lt_or_eq.1 within with less | rfl
  · rw [List.getElem?_append_left less] at look
    exact .inl look
  · rw [List.getElem?_concat_length] at look
    exact .inr ⟨rfl, (Option.some.inj look).symm⟩

namespace Invariant

theorem started (executable : Bytes) (program : Option Bytes) (arguments : List Bytes) :
    Invariant executable program arguments (System.root program arguments) where
  inhabited := Nat.zero_lt_one
  root process found := by
    obtain ⟨_, rfl⟩ := root_found found
    rfl
  came place process found := by
    obtain ⟨rfl, rfl⟩ := root_found found
    exact .started
  more place process found := by
    obtain ⟨rfl, rfl⟩ := root_found found
    exact iff_of_true rfl (Nat.le_refl 1)
  handed place upper lower first second := absurd (root_found second).1 (Nat.succ_ne_zero place)

variable {place : Nat} {process : Process} {effects : List Effect} {phase : Phase}

/-- A step that starts no process leaves every process with the children that it had. -/
theorem still (invariant : Invariant executable program arguments before)
    (found : before[place]? = some process)
    (came : Came executable place process.reading phase (process.effects ++ effects))
    (silent : effects.filterMap Effect.launched? = []) :
    Invariant executable program arguments (before.set place (process.act effects phase)) where
  inhabited := by
    rw [List.length_set]
    exact invariant.inhabited
  root now look := by
    obtain ⟨was, old, same⟩ := set_given found look
    exact same.trans (invariant.root was old)
  came other now look := by
    rcases set_found found look with ⟨_, old⟩ | ⟨rfl, rfl⟩
    · exact invariant.came other now old
    · exact came
  more other now look := by
    rw [List.length_set]
    rcases set_found found look with ⟨_, old⟩ | ⟨rfl, rfl⟩
    · exact invariant.more other now old
    · rw [Process.children_act, silent, List.append_nil]
      exact invariant.more other process found
  handed other upper lower first second := by
    obtain ⟨above, high, same⟩ := set_given found first
    obtain ⟨below, low, alike⟩ := set_given found second
    obtain ⟨queue, read, made⟩ := invariant.handed other above below high low
    exact ⟨queue, (Process.reading_given same).trans read, alike.trans made⟩

/-- Only the last process launches a child, and its child becomes the last one. -/
theorem launch (invariant : Invariant executable program arguments before) {queue : Queue}
    (last : before.length = place + 1) (found : before[place]? = some process)
    (read : process.reading = .ok queue)
    (came : Came executable place process.reading phase (process.effects ++ effects))
    (child : effects.filterMap Effect.launched? ≠ []) :
    Invariant executable program arguments (before.set place (process.act effects phase) ++
      [Process.fresh (some place) (some executable) (queue.tail.map encode)]) where
  inhabited := by
    rw [List.length_append]
    exact Nat.succ_pos _
  root now look := by
    rw [List.getElem?_append_left (by rw [List.length_set]; omega)] at look
    obtain ⟨was, old, same⟩ := set_given found look
    exact same.trans (invariant.root was old)
  came other now look := by
    rcases concat_found look with look | ⟨_, rfl⟩
    · rcases set_found found look with ⟨_, old⟩ | ⟨rfl, rfl⟩
      · exact invariant.came other now old
      · exact came
    · exact .started
  more other now look := by
    rw [List.length_append, List.length_set, last]
    -- The old processes all have a child now, since the one that was last has got its own.
    rcases concat_found look with look | ⟨new, rfl⟩
    · rcases set_found found look with ⟨different, old⟩ | ⟨rfl, rfl⟩
      · have within := (List.getElem?_eq_some_iff.1 old).1
        rw [invariant.more other now old, List.length_singleton]
        omega
      · rw [Process.children_act]
        exact iff_of_false (List.append_ne_nil_of_right_ne_nil _ child) (Nat.not_succ_le_self _)
    · rw [new, List.length_set, last]
      exact iff_of_true rfl (Nat.le_refl _)
  handed other upper lower first second := by
    have above := (List.getElem?_eq_some_iff.1 second).1
    rw [List.length_append, List.length_set, List.length_singleton, last] at above
    rw [List.getElem?_append_left (by rw [List.length_set]; omega)] at first
    obtain ⟨was, high, same⟩ := set_given found first
    rcases concat_found second with second | ⟨new, rfl⟩
    · obtain ⟨below, low, alike⟩ := set_given found second
      obtain ⟨queue, read, made⟩ := invariant.handed other was below high low
      exact ⟨queue, (Process.reading_given same).trans read, alike.trans made⟩
    · rw [List.length_set, last] at new
      obtain rfl := Nat.succ.inj new
      obtain rfl := Option.some.inj (high.symm.trans found)
      exact ⟨queue, (Process.reading_given same).trans read, rfl⟩

theorem step {fault : Option SystemFault}
    (invariant : Invariant executable program arguments before)
    (acted : before.act? executable fault place = some after) :
    Invariant executable program arguments after := by
  obtain ⟨process, effects, phase, found, moves, rfl⟩ := act?_some acted
  have came := invariant.came place process found
  rw [born_children]
  rcases moves.children with silent | ⟨queue, announced, child⟩
  · rw [silent]
    have next := came.step moves (fun given => absurd silent given)
    have still := invariant.still found next silent
    rwa [← List.append_nil (before.set place _)] at still
  · -- A process that has announced itself has no child yet, so no process stands behind it.
    rw [announced] at came moves
    obtain ⟨read, childless⟩ := came.announced_only
    have none := (invariant.more place process found).1 childless
    have within := (List.getElem?_eq_some_iff.1 found).1
    have last : before.length = place + 1 := by omega
    rw [child]
    exact invariant.launch last found read (came.step moves fun _ => last)
      (child ▸ List.cons_ne_nil _ _)

end Invariant

theorem Reachable.invariant
    (reached : Reachable executable allowed (root program arguments) system) :
    Invariant executable program arguments system := by
  induction reached with
  | refl => exact .started executable program arguments
  | step _ next ih =>
      cases next with
      | act acted => exact ih.step acted
      | fault _ acted => exact ih.step acted

theorem Reachable.trans {start : System}
    (first : Reachable executable allowed start before)
    (second : Reachable executable allowed before after) :
    Reachable executable allowed start after := by
  induction second with
  | refl => exact first
  | step _ next ih => exact .step ih next

theorem run_reachable (executable : Bytes) (allowed : SystemFault → Prop) (steps : Nat)
    (start : System) : Reachable executable allowed start (run executable steps start) := by
  induction steps generalizing start with
  | zero => exact .refl
  | succ steps ih =>
      unfold run
      split
      · rename_i next acts
        obtain ⟨place, _, acted⟩ := List.exists_of_findSome?_eq_some acts
        exact .trans (.step .refl (.act acted)) (ih next)
      · exact .refl

/-- A process has created another one if it has launched it by its place. -/
def Created (system : System) (creator place : Nat) : Prop :=
  ∃ process, system[creator]? = some process ∧ ∃ launched, (place, launched) ∈ process.children

/-- The processes of a chain stand in a row, and each has come no further than it may. -/
structure Orderly (executable : Bytes) (program : Option Bytes) (arguments : List Bytes)
    (system : System) : Prop where
  root : ∃ process, system[0]? = some process ∧ process.parent = none ∧
    process.program = program ∧ process.arguments = arguments
  /-- Every process but the first has been created by the one before it and by no other. -/
  path : ∀ creator place, Created system creator place ↔
    place = creator + 1 ∧ place < system.length
  once : ∀ process ∈ system, process.children.length ≤ 1
  read : ∀ process ∈ system, ∀ queue, process.phase.queue? = some queue →
    process.reading = .ok queue
  /-- The arguments of a process are the tail that its creator has read. -/
  handed : ∀ place upper lower, system[place]? = some upper → system[place + 1]? = some lower →
    ∃ queue, upper.phase.queue? = some queue ∧ lower.parent = some place ∧
      lower.program = some executable ∧ lower.arguments = queue.tail.map encode
  /-- The child is there before the policy is announced and before the wait is over. -/
  first : ∀ place process queue, system[place]? = some process → process.reading = .ok queue →
    queue.tail ≠ [] → process.policies ≠ [] ∨ process.phase = .done queue →
    process.children = [(place + 1, queue.tail)] ∧ place + 1 < system.length
  cut : ∀ process ∈ system, ∀ launched, .launch launched none ∈ process.effects →
    process.policies = []
  /-- A process with a negative head ends by itself only if a fault stops it before its wait. -/
  forever : ∀ place process queue, system[place]? = some process →
    process.reading = .ok queue → queue.head.value < 0 → ∀ status, process.status? = some status →
      status = 1 ∧ ∃ failure, process.phase = .failed failure ∧
        Stopped executable place queue failure process.effects
  refused : ∀ process ∈ system, ∀ failure, process.reading = .error failure →
    process.effects = [] ∧ ∀ status, process.status? = some status → status = failure.exitCode
  /-- There are no more processes than arguments, unless the only process has none. -/
  length : system.length ≤ max 1 arguments.length

namespace Invariant

variable (invariant : Invariant executable program arguments system) {place : Nat}
  {process : Process}

include invariant

theorem children_cases (found : system[place]? = some process) :
    (process.children = [] ∧ system.length ≤ place + 1) ∨
    ∃ queue, Came.Past queue process.phase ∧ process.reading = .ok queue ∧ queue.tail ≠ [] ∧
      process.children = [(place + 1, queue.tail)] ∧ place + 1 < system.length := by
  have more := invariant.more place process found
  rcases (invariant.came place process found).children_cases with
    childless | ⟨queue, past, read, given, child⟩
  · exact .inl ⟨childless, more.1 childless⟩
  · refine .inr ⟨queue, past, read, given, child, Nat.lt_of_not_le fun last => ?_⟩
    exact List.cons_ne_nil _ _ (child.symm.trans (more.2 last))

theorem path (creator place : Nat) :
    Created system creator place ↔ place = creator + 1 ∧ place < system.length := by
  constructor
  · rintro ⟨process, found, launched, member⟩
    rcases invariant.children_cases found with ⟨childless, _⟩ | ⟨queue, _, _, _, child, within⟩
    · rw [childless] at member
      contradiction
    · rw [child, List.mem_singleton] at member
      obtain ⟨rfl, _⟩ := Prod.mk.inj member
      exact ⟨rfl, within⟩
  · rintro ⟨rfl, within⟩
    have found := List.getElem?_eq_getElem (Nat.lt_of_succ_lt within)
    rcases invariant.children_cases found with ⟨_, last⟩ | ⟨queue, _, _, _, child, _⟩
    · omega
    · exact ⟨_, found, queue.tail, child ▸ List.mem_singleton.2 rfl⟩

/-- The creator of a process is past its launch, and the tail of its queue is handed on. -/
theorem handed_past {upper lower : Process} (first : system[place]? = some upper)
    (second : system[place + 1]? = some lower) :
    ∃ queue, Came.Past queue upper.phase ∧ queue.tail ≠ [] ∧
      lower.given = (some place, some executable, queue.tail.map encode) := by
  have within := (List.getElem?_eq_some_iff.1 second).1
  rcases invariant.children_cases first with ⟨_, last⟩ | ⟨queue, past, read, given, _, _⟩
  · omega
  · obtain ⟨other, again, made⟩ := invariant.handed place upper lower first second
    obtain rfl := Except.ok.inj (read.symm.trans again)
    exact ⟨queue, past, given, made⟩

/-- Each process has fewer arguments left than the one before it. -/
theorem fewer (found : system[place]? = some process) :
    process.arguments.length + place ≤ arguments.length := by
  induction place generalizing process with
  | zero =>
      obtain ⟨_, _, rfl⟩ := Process.given_eq.1 (invariant.root process found)
      exact Nat.le_refl _
  | succ place ih =>
      have within := (List.getElem?_eq_some_iff.1 found).1
      have above := List.getElem?_eq_getElem (Nat.lt_of_succ_lt within)
      obtain ⟨queue, read, made⟩ := invariant.handed place _ _ above found
      obtain ⟨_, _, left⟩ := Process.given_eq.1 made
      have shorter := Queue.tailShorter read
      have bound := ih above
      rw [left, List.length_map]
      omega

theorem length : system.length ≤ max 1 arguments.length := by
  rcases Nat.lt_or_ge 1 system.length with more | only
  · obtain ⟨place, last⟩ := Nat.exists_eq_add_of_lt more
    have above := List.getElem?_eq_getElem (show place < system.length by omega)
    have below := List.getElem?_eq_getElem (show place + 1 < system.length by omega)
    obtain ⟨queue, _, given, made⟩ := invariant.handed_past above below
    obtain ⟨_, _, left⟩ := Process.given_eq.1 made
    have positive := List.length_pos_iff.2 given
    have bound := invariant.fewer below
    rw [left, List.length_map] at bound
    omega
  · exact Nat.le_trans only (Nat.le_max_left 1 _)

theorem child_first {queue : Queue} (found : system[place]? = some process)
    (read : process.reading = .ok queue) (given : queue.tail ≠ [])
    (far : process.policies ≠ [] ∨ process.phase = .done queue) :
    process.children = [(place + 1, queue.tail)] ∧ place + 1 < system.length := by
  have came := invariant.came place process found
  have child := came.children_past (came.past_far read far)
  rw [if_neg given] at child
  refine ⟨child, Nat.lt_of_not_le fun last => ?_⟩
  have childless := (invariant.more place process found).2 last
  exact List.cons_ne_nil _ _ (child.symm.trans childless)

/-- The wait of a process with a negative head is never over, so only a fault ends the process. -/
theorem negative_stopped {queue : Queue} {status : Nat} (found : system[place]? = some process)
    (read : process.reading = .ok queue) (negative : queue.head.value < 0)
    (ended : process.status? = some status) :
    status = 1 ∧ ∃ failure, process.phase = .failed failure ∧
      Stopped executable place queue failure process.effects := by
  have came := invariant.came place process found
  rcases Process.status?_some ended with ⟨other, done⟩ | ⟨failure, failed, rfl⟩
  · exact absurd done (came.not_done read negative)
  · rw [failed] at came
    have stopped := came.failed_stopped read
    exact ⟨stopped.exitCode, failure, failed, stopped⟩

theorem refused_status {failure : Failure} (found : system[place]? = some process)
    (refused : process.reading = .error failure) :
    process.effects = [] ∧ ∀ status, process.status? = some status → status = failure.exitCode := by
  obtain ⟨nothing, phase⟩ := (invariant.came place process found).refused_phase refused
  refine ⟨nothing, fun status ended => ?_⟩
  rcases Process.status?_some ended with ⟨other, done⟩ | ⟨other, failed, rfl⟩
  · simp [done] at phase
  · simp only [failed, reduceCtorEq, Phase.failed.injEq, false_or] at phase
    rw [phase]

end Invariant

/-- In whatever order the processes of a chain act and whatever faults they meet, they stand in a
row. A process has created the next one before it announces its policy, and one with a negative head
does not end by itself if no fault stops it before. -/
theorem reachable_orderly
    (reached : Reachable executable allowed (root program arguments) system) :
    Orderly executable program arguments system := by
  have invariant := reached.invariant
  have placed {process : Process} (member : process ∈ system) :
      ∃ place : Nat, system[place]? = some process := List.mem_iff_getElem?.1 member
  refine
    { root := ?_, path := invariant.path, once := ?_, read := ?_, handed := ?_,
      first := fun place process queue found => invariant.child_first found, cut := ?_,
      forever := fun place process queue found read negative status =>
        invariant.negative_stopped found read negative,
      refused := ?_, length := invariant.length }
  · have found := List.getElem?_eq_getElem invariant.inhabited
    exact ⟨_, found, Process.given_eq.1 (invariant.root _ found)⟩
  · intro process member
    obtain ⟨place, found⟩ := placed member
    rcases invariant.children_cases found with ⟨childless, _⟩ | ⟨_, _, _, _, child, _⟩
    · simp [childless]
    · simp [child]
  · intro process member queue known
    obtain ⟨place, found⟩ := placed member
    exact (invariant.came place process found).reading_queue known
  · intro place upper lower first second
    obtain ⟨queue, past, _, made⟩ := invariant.handed_past first second
    exact ⟨queue, Came.past_queue past, Process.given_eq.1 made⟩
  · intro process member launched cut
    obtain ⟨place, found⟩ := placed member
    exact (invariant.came place process found).cut_policies cut
  · intro process member failure refused
    obtain ⟨place, found⟩ := placed member
    exact invariant.refused_status found refused

/-- A process that has ended leaves one behind that waits for ever. -/
theorem reachable_orderly_left :
    let system := run (encode "linger") 9 (root none (["0", "-1"].map encode))
    system.map Process.status? = [some 0, none] ∧
      Orderly (encode "linger") none (["0", "-1"].map encode) system := by
  intro system
  exact ⟨rfl, reachable_orderly (run_reachable _ (fun _ => False) 9 _)⟩

/-- A process with a negative head ends by itself if its launch fails. -/
theorem negative_ends :
    ¬ ∀ system, Reachable (encode "linger") (fun _ => True) (root none (["-1", "0"].map encode))
      system → ∀ process ∈ system, ∀ queue, process.reading = .ok queue →
        queue.head.value < 0 → process.status? = none := by
  intro forever
  let arguments := ["-1", "0"].map encode
  let minus : Millis := ⟨-1, by decide, by decide⟩
  let failure : Failure := .blocked (.noChild (encode "linger") (.number 11))
  let effects : List Effect := [.log (.node 0 2 minus), .launch ["0"] none]
  let failing : System := [⟨none, none, arguments, .failing failure, effects⟩]
  let failed : System := [⟨none, none, arguments, .failed failure, effects⟩]
  have announced := run_reachable (encode "linger") (fun _ => True) 2 (root none arguments)
  have cut : Step (encode "linger") (fun _ => True) (run (encode "linger") 2 (root none arguments))
      failing := @Step.fault _ _ _ _ 0 (.number 11) trivial rfl
  have ended : Step (encode "linger") (fun _ => True) failing failed := @Step.act _ _ _ _ 0 rfl
  have silent := forever failed (.step (.step announced cut) ended) _ List.mem_cons_self
    ⟨minus, ["0"]⟩ rfl (by decide)
  contradiction

end System

end LingerChain
