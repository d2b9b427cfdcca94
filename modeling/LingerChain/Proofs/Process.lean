/-
This file says what one process can do next, and what it has done when it has come to a phase.
-/

import LingerChain.Proofs.Level
import LingerChain.Schedule

namespace LingerChain

/-- A process moves from a phase to the next one, and each move has effects of its own. A launch
numbers the child by the count of the processes, or meets a fault. -/
inductive Moves (executable : Bytes) (place count : Nat) (reading : Except Failure Queue) :
    Phase → List Effect → Phase → Prop where
  | read : Moves executable place count reading .started [] (.read reading)
  | announce (queue : Queue) : Moves executable place count reading (.parsed queue)
      [.log (.node place queue.depth queue.head)] (.announced queue)
  | lose (queue : Queue) (fault : SystemFault) : Moves executable place count reading
      (.parsed queue) [] (.failing (.blocked (.noExecutable fault)))
  | skip (queue : Queue) (nothing : queue.tail = []) :
      Moves executable place count reading (.announced queue)
        [.log (.applying (Wait.ofMillis queue.head))] (.waiting queue)
  | launch (queue : Queue) (given : queue.tail ≠ []) :
      Moves executable place count reading (.announced queue)
        (Node.launching queue ⟨[.spawned executable queue.tail count], .ok count⟩) (.launched queue)
  | cut (queue : Queue) (given : queue.tail ≠ []) (fault : SystemFault) :
      Moves executable place count reading (.announced queue) [.launch queue.tail none]
        (.failing (.blocked (.noChild executable fault)))
  | apply (queue : Queue) : Moves executable place count reading (.launched queue)
      [.log (.applying (Wait.ofMillis queue.head))] (.waiting queue)
  | sleep (queue : Queue) (negative : queue.head.value < 0) :
      Moves executable place count reading (.waiting queue) [.log .asleep] (.asleep queue)
  | finish (queue : Queue) (sign : 0 ≤ queue.head.value) :
      Moves executable place count reading (.waiting queue)
        (Node.linger (Wait.ofMillis queue.head)).effects (.done queue)
  | fail (failure : Failure) :
      Moves executable place count reading (.failing failure) [] (.failed failure)

theorem Wait.linger_negative {head : Millis} (negative : head.value < 0) :
    Node.linger (ofMillis head) = ⟨[.log .asleep], .endless tick⟩ := by
  rw [ofMillis_negative negative]
  rfl

theorem Wait.linger_ending {head : Millis} (sign : 0 ≤ head.value) :
    (Node.linger (ofMillis head)).ending = .returned := by
  unfold ofMillis
  split
  · rfl
  · rw [if_pos (by omega)]
    rfl

/-- Only a launch that succeeds makes a child. -/
theorem Moves.children {executable : Bytes} {place count : Nat} {reading : Except Failure Queue}
    {now next : Phase} {effects : List Effect}
    (moves : Moves executable place count reading now effects next) :
    effects.filterMap Effect.launched? = [] ∨ ∃ queue, now = .announced queue ∧
      effects.filterMap Effect.launched? = [(count, queue.tail)] := by
  cases moves with
  | launch queue given => exact .inr ⟨queue, rfl, rfl⟩
  | finish queue sign =>
      left
      cases Wait.ofMillis queue.head <;> rfl
  | read | announce | lose | skip | cut | apply | sleep | fail => exact .inl rfl

namespace Process

def reading (process : Process) : Except Failure Queue :=
  Queue.ofArguments process.program process.arguments

/-- The next action of a process is one of its moves, whether it meets a fault or not. -/
theorem next?_moves {executable : Bytes} {place : Nat} {system : System}
    {fault : Option SystemFault} {process : Process} {effects : List Effect} {phase : Phase}
    (next : process.next? place fault (System.launcher executable system fault) =
      some (effects, phase)) :
    Moves executable place system.length process.reading process.phase effects phase := by
  obtain ⟨parent, program, arguments, now, done⟩ := process
  cases now with
  | started =>
      obtain ⟨rfl, rfl⟩ := Prod.mk.inj (Option.some.inj next)
      exact .read
  | parsed queue =>
      obtain ⟨rfl, rfl⟩ := Prod.mk.inj (Option.some.inj next)
      cases fault with
      | none => exact .announce queue
      | some fault => exact .lose queue fault
  | announced queue =>
      simp only [next?] at next
      split at next
      · rename_i nothing
        obtain ⟨rfl, rfl⟩ := Prod.mk.inj (Option.some.inj next)
        exact .skip queue nothing
      · rename_i given
        obtain ⟨rfl, rfl⟩ := Prod.mk.inj (Option.some.inj next)
        cases fault with
        | none => exact .launch queue given
        | some fault => exact .cut queue given fault
  | launched queue =>
      obtain ⟨rfl, rfl⟩ := Prod.mk.inj (Option.some.inj next)
      exact .apply queue
  | waiting queue =>
      obtain ⟨rfl, rfl⟩ := Prod.mk.inj (Option.some.inj next)
      rcases Int.lt_or_le queue.head.value 0 with negative | sign
      · rw [Wait.linger_negative negative]
        exact .sleep queue negative
      · rw [Wait.linger_ending sign]
        exact .finish queue sign
  | failing failure =>
      obtain ⟨rfl, rfl⟩ := Prod.mk.inj (Option.some.inj next)
      exact .fail failure
  | asleep queue => contradiction
  | done queue => contradiction
  | failed failure => contradiction

end Process

/-- What a process does up to the launch of its child, if it has a tail for one. -/
def Node.opening (executable : Bytes) (place : Nat) (queue : Queue) : List Effect :=
  .log (.node place queue.depth queue.head) ::
    if queue.tail = [] then []
    else launching queue ⟨[.spawned executable queue.tail (place + 1)], .ok (place + 1)⟩

/-- What a process has done is told by its phase. Its child, if it has one, is the next process. -/
inductive Came (executable : Bytes) (place : Nat) (reading : Except Failure Queue) :
    Phase → List Effect → Prop where
  | started : Came executable place reading .started []
  | refused {failure : Failure} (refused : reading = .error failure) :
      Came executable place reading (.failing failure) []
  | parsed {queue : Queue} (read : reading = .ok queue) :
      Came executable place reading (.parsed queue) []
  | lost {queue : Queue} (read : reading = .ok queue) (fault : SystemFault) :
      Came executable place reading (.failing (.blocked (.noExecutable fault))) []
  | announced {queue : Queue} (read : reading = .ok queue) :
      Came executable place reading (.announced queue)
        [.log (.node place queue.depth queue.head)]
  | cut {queue : Queue} (read : reading = .ok queue) (given : queue.tail ≠ [])
      (fault : SystemFault) :
      Came executable place reading (.failing (.blocked (.noChild executable fault)))
        [.log (.node place queue.depth queue.head), .launch queue.tail none]
  | launched {queue : Queue} (read : reading = .ok queue) (given : queue.tail ≠ []) :
      Came executable place reading (.launched queue) (Node.opening executable place queue)
  | waiting {queue : Queue} (read : reading = .ok queue) :
      Came executable place reading (.waiting queue)
        (Node.opening executable place queue ++ [.log (.applying (Wait.ofMillis queue.head))])
  | asleep {queue : Queue} (read : reading = .ok queue) (negative : queue.head.value < 0) :
      Came executable place reading (.asleep queue)
        (Node.opening executable place queue ++ [.log (.applying (Wait.ofMillis queue.head))] ++
          [.log .asleep])
  | done {queue : Queue} (read : reading = .ok queue) (sign : 0 ≤ queue.head.value) :
      Came executable place reading (.done queue)
        (Node.opening executable place queue ++ [.log (.applying (Wait.ofMillis queue.head))] ++
          (Node.linger (Wait.ofMillis queue.head)).effects)
  | failed {failure : Failure} {effects : List Effect}
      (failing : Came executable place reading (.failing failure) effects) :
      Came executable place reading (.failed failure) effects

/-- A fault stops a process before it does anything, or when it launches its child. -/
inductive Stopped (executable : Bytes) (place : Nat) (queue : Queue) :
    Failure → List Effect → Prop where
  | lost (fault : SystemFault) :
      Stopped executable place queue (.blocked (.noExecutable fault)) []
  | cut (fault : SystemFault) :
      Stopped executable place queue (.blocked (.noChild executable fault))
        [.log (.node place queue.depth queue.head), .launch queue.tail none]

theorem Stopped.exitCode {executable : Bytes} {place : Nat} {queue : Queue} {failure : Failure}
    {effects : List Effect} (stopped : Stopped executable place queue failure effects) :
    failure.exitCode = 1 := by
  cases stopped <;> rfl

namespace Came

variable {executable : Bytes} {place count : Nat} {reading : Except Failure Queue}
  {phase next : Phase} {effects more : List Effect}

/-- A move leads to what a process has done in the next phase, if a child gets the next number. -/
theorem step (came : Came executable place reading phase effects)
    (moves : Moves executable place count reading phase more next)
    (fits : more.filterMap Effect.launched? ≠ [] → count = place + 1) :
    Came executable place reading next (effects ++ more) := by
  cases moves with
  | read =>
      cases came
      cases read : reading with
      | ok queue => exact .parsed rfl
      | error failure => exact .refused rfl
  | announce queue =>
      cases came with
      | parsed read => exact .announced read
  | lose queue fault =>
      cases came with
      | parsed read => exact .lost read fault
  | skip queue nothing =>
      cases came with
      | announced read =>
          have opening : Node.opening executable place queue =
              [.log (.node place queue.depth queue.head)] := by
            rw [Node.opening, if_pos nothing]
          rw [← opening]
          exact .waiting read
  | launch queue given =>
      cases came with
      | announced read =>
          obtain rfl := fits (List.cons_ne_nil (count, queue.tail) [])
          have opening := @launched executable place reading queue read given
          rw [Node.opening, if_neg given] at opening
          exact opening
  | cut queue given fault =>
      cases came with
      | announced read => exact .cut read given fault
  | apply queue =>
      cases came with
      | launched read given => exact .waiting read
  | sleep queue negative =>
      cases came with
      | waiting read => exact .asleep read negative
  | finish queue sign =>
      cases came with
      | waiting read => exact .done read sign
  | fail failure =>
      rw [List.append_nil]
      exact .failed came

theorem announced_only {queue : Queue}
    (came : Came executable place reading (.announced queue) effects) :
    reading = .ok queue ∧ effects.filterMap Effect.launched? = [] := by
  cases came with
  | announced read => exact ⟨read, rfl⟩

theorem opening_children (executable : Bytes) (place : Nat) (queue : Queue) :
    (Node.opening executable place queue).filterMap Effect.launched? =
      if queue.tail = [] then [] else [(place + 1, queue.tail)] := by
  unfold Node.opening
  split <;> rfl

theorem linger_children (wait : Wait) :
    (Node.linger wait).effects.filterMap Effect.launched? = [] := by
  cases wait <;> rfl

/-- A process is past its launch if its child has been started or it needs none. -/
inductive Past (queue : Queue) : Phase → Prop where
  | launched : Past queue (.launched queue)
  | waiting : Past queue (.waiting queue)
  | asleep : Past queue (.asleep queue)
  | done : Past queue (.done queue)

theorem reading_queue {queue : Queue} (came : Came executable place reading phase effects)
    (known : phase.queue? = some queue) : reading = .ok queue := by
  cases came with
  | started | refused | lost | cut | failed => contradiction
  | parsed read | announced read | launched read | waiting read | asleep read | done read =>
      obtain rfl := Option.some.inj known
      exact read

theorem past_queue {queue : Queue} (past : Past queue phase) : phase.queue? = some queue := by
  cases past <;> rfl

theorem reading_past {queue : Queue} (came : Came executable place reading phase effects)
    (past : Past queue phase) : reading = .ok queue :=
  came.reading_queue (past_queue past)

/-- A process past its launch has a child exactly if it has a tail for one. -/
theorem children_past {queue : Queue} (came : Came executable place reading phase effects)
    (past : Past queue phase) :
    effects.filterMap Effect.launched? =
      if queue.tail = [] then [] else [(place + 1, queue.tail)] := by
  have opening := opening_children executable place queue
  have silent (wait : Wait) : [Effect.log (.applying wait)].filterMap Effect.launched? = [] := rfl
  cases past with
  | launched =>
      cases came
      exact opening
  | waiting =>
      cases came
      rw [List.filterMap_append, opening, silent, List.append_nil]
  | asleep =>
      cases came
      rw [List.filterMap_append, List.filterMap_append, opening, silent, List.append_nil]
      exact List.append_nil _
  | done =>
      cases came
      rw [List.filterMap_append, List.filterMap_append, opening, silent, List.append_nil,
        linger_children, List.append_nil]

/-- Only a process past its launch has a child or announces its policy. -/
theorem past_or_quiet (came : Came executable place reading phase effects) :
    (∃ queue, Past queue phase) ∨
      effects.filterMap Effect.launched? = [] ∧ effects.filterMap Effect.applied? = [] := by
  cases came with
  | launched => exact .inl ⟨_, .launched⟩
  | waiting => exact .inl ⟨_, .waiting⟩
  | asleep => exact .inl ⟨_, .asleep⟩
  | done => exact .inl ⟨_, .done⟩
  | failed failing => cases failing <;> exact .inr ⟨rfl, rfl⟩
  | started | refused | parsed | lost | announced | cut => exact .inr ⟨rfl, rfl⟩

theorem opening_uncut (executable : Bytes) (place : Nat) (queue : Queue)
    (arguments : List String) :
    .launch arguments none ∉ Node.opening executable place queue := by
  unfold Node.opening
  split <;> simp [Node.launching]

theorem linger_uncut (wait : Wait) (arguments : List String) :
    .launch arguments none ∉ (Node.linger wait).effects := by
  cases wait <;> simp [Node.linger, Node.wait, Trace.thenAlso]

theorem past_uncut {queue : Queue} (came : Came executable place reading phase effects)
    (past : Past queue phase) (arguments : List String) : .launch arguments none ∉ effects := by
  have opening := opening_uncut executable place queue arguments
  have linger := linger_uncut (Wait.ofMillis queue.head) arguments
  cases past <;> cases came <;> simp [opening, linger]

/-- A process whose launch has failed announces no policy. -/
theorem cut_policies (came : Came executable place reading phase effects)
    {arguments : List String} (cut : .launch arguments none ∈ effects) :
    effects.filterMap Effect.applied? = [] := by
  rcases came.past_or_quiet with ⟨queue, past⟩ | ⟨_, silent⟩
  · exact absurd cut (came.past_uncut past arguments)
  · exact silent

/-- A process with a negative head never comes to the end of its wait. -/
theorem not_done {queue other : Queue} (came : Came executable place reading phase effects)
    (read : reading = .ok queue) (negative : queue.head.value < 0) : phase ≠ .done other := by
  rintro rfl
  cases came with
  | done again sign =>
      obtain rfl := Except.ok.inj (read.symm.trans again)
      omega

/-- A process that has read its arguments fails only if a fault stops it before its wait. -/
theorem failed_stopped {queue : Queue} {failure : Failure}
    (came : Came executable place reading (.failed failure) effects)
    (read : reading = .ok queue) : Stopped executable place queue failure effects := by
  cases came with
  | failed failing =>
      cases failing with
      | refused refused =>
          rw [read] at refused
          contradiction
      | lost again fault => exact .lost fault
      | cut again given fault =>
          obtain rfl := Except.ok.inj (read.symm.trans again)
          exact .cut fault

/-- A process that cannot read its arguments does nothing but fail. -/
theorem refused_phase {failure : Failure} (came : Came executable place reading phase effects)
    (refused : reading = .error failure) :
    effects = [] ∧ (phase = .started ∨ phase = .failing failure ∨ phase = .failed failure) := by
  have unread {queue : Queue} (read : reading = .ok queue) : False := by
    rw [refused] at read
    contradiction
  cases came with
  | started => exact ⟨rfl, .inl rfl⟩
  | refused again =>
      obtain rfl := Except.error.inj (refused.symm.trans again)
      exact ⟨rfl, .inr (.inl rfl)⟩
  | parsed read | announced read | launched read | waiting read | asleep read | done read =>
      exact (unread read).elim
  | lost read | cut read => exact (unread read).elim
  | failed failing =>
      cases failing with
      | refused again =>
          obtain rfl := Except.error.inj (refused.symm.trans again)
          exact ⟨rfl, .inr (.inr rfl)⟩
      | lost read | cut read => exact (unread read).elim

/-- A process that has announced its policy or is through with its wait is past its launch. -/
theorem past_far {queue : Queue} (came : Came executable place reading phase effects)
    (read : reading = .ok queue)
    (far : effects.filterMap Effect.applied? ≠ [] ∨ phase = .done queue) : Past queue phase := by
  rcases far with policies | rfl
  · rcases came.past_or_quiet with ⟨other, past⟩ | ⟨_, silent⟩
    · obtain rfl := Except.ok.inj (read.symm.trans (came.reading_past past))
      exact past
    · exact absurd silent policies
  · exact .done

/-- A process has one child or none, and its child has the next number. -/
theorem children_cases (came : Came executable place reading phase effects) :
    effects.filterMap Effect.launched? = [] ∨
      ∃ queue, Past queue phase ∧ reading = .ok queue ∧ queue.tail ≠ [] ∧
        effects.filterMap Effect.launched? = [(place + 1, queue.tail)] := by
  rcases came.past_or_quiet with ⟨queue, past⟩ | ⟨childless, _⟩
  · have children := came.children_past past
    split at children
    · exact .inl children
    · rename_i given
      exact .inr ⟨queue, past, came.reading_past past, given, children⟩
  · exact .inl childless

end Came

end LingerChain
