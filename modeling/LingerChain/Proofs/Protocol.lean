/-
This file gives the protocol of a node, effect by effect, and shows that nodes keep to it.
-/

import LingerChain.Proofs.Level

namespace LingerChain

/-- Behind the effects of an endless trace there is only its sleep. -/
theorem Trace.at?_endless {effects : List Effect} {place : Nat} (step : Span)
    (behind : effects.length ≤ place) :
    (⟨effects, .endless step⟩ : Trace).at? place = some (.sleep step) := by
  simp only [at?, List.getElem?_eq_none behind]

namespace Node

/-- A node announces how many levels there are from it down, and its own duration. -/
def announcing (own : Nat) (queue : Queue) : Effect :=
  .log (.node own (1 + queue.tail.length) queue.head)

/-- A node hands on its tail. For an empty tail there is nothing to do, and otherwise the child is
noted with the number of levels that remain. The launcher may take notes of its own before. -/
inductive HandsOn (launcher : Launcher) (queue : Queue) : List Effect → Prop where
  | last (nothing : queue.tail = []) : HandsOn launcher queue []
  | child {notes : List Note} {child : Nat} (given : queue.tail ≠ [])
      (answered : launcher queue.tail = ⟨notes, .ok child⟩) :
      HandsOn launcher queue (.launch queue.tail (some child) :: notes.map .log ++
        [.log (.launched child queue.tail.length)])

/-- The sign of the duration decides what a node does while it lingers. It sleeps once for exactly
its duration, or not at all, and then it is done, or it sleeps on and on. -/
inductive Lingers (head : Int) : Wait → List Effect → Ending → Prop where
  | exit (zero : head = 0) : Lingers head .exit [.log .done] .returned
  | sleep {span : Span} (positive : 0 < head)
      (length : (span.seconds * 1000000000 + span.nanos : Int) = head * 1000000) :
      Lingers head (.sleep span) [.sleep span, .log .done] .returned
  | forever (negative : head < 0) : Lingers head .forever [.log .asleep] (.endless Wait.tick)

/-- The protocol of a node: it announces itself, hands on its tail, announces its policy and
lingers. If the launch fails, its failure is the end of the node. -/
inductive Protocol (own : Nat) (launcher : Launcher) (queue : Queue) : Trace → Prop where
  | cut {notes : List Note} {failure : Failure} (given : queue.tail ≠ [])
      (answered : launcher queue.tail = ⟨notes, .error failure⟩) :
      Protocol own launcher queue
        ⟨announcing own queue :: .launch queue.tail none :: notes.map .log, .failed failure⟩
  | whole {handed lingered : List Effect} {ending : Ending} (hands : HandsOn launcher queue handed)
      (lingers : Lingers queue.head.value (Wait.ofMillis queue.head) lingered ending) :
      Protocol own launcher queue
        ⟨announcing own queue :: handed ++
          .log (.applying (Wait.ofMillis queue.head)) :: lingered, ending⟩

variable {own : Nat} {launcher : Launcher} {queue : Queue} {handed lingered : List Effect}
  {ending : Ending} {failure : Failure}

theorem Lingers.linger {head : Int} {wait : Wait} (lingers : Lingers head wait lingered ending) :
    Node.linger wait = ⟨lingered, ending⟩ := by
  cases lingers <;> rfl

/-- Every duration has a way to linger. -/
theorem lingers_ofMillis (head : Millis) :
    ∃ lingered ending, Lingers head.value (Wait.ofMillis head) lingered ending := by
  unfold Wait.ofMillis
  split
  · exact ⟨_, _, .exit ‹_›⟩
  · split
    · refine ⟨_, _, .sleep ‹_› ?_⟩
      simp only [Span.ofMillis]
      omega
    · exact ⟨_, _, .forever (by omega)⟩

/-- Only a negative duration has no end, and the end of every other one is a return. -/
theorem Lingers.returned {head : Int} {wait : Wait} (lingers : Lingers head wait lingered ending) :
    ending = .returned ↔ 0 ≤ head := by
  cases lingers with
  | exit zero => simp [zero]
  | sleep positive => simp [Int.le_of_lt positive]
  | forever negative => simp [negative]

theorem Lingers.unfailed {head : Int} {wait : Wait} (lingers : Lingers head wait lingered ending)
    (failure : Failure) : ending ≠ .failed failure := by
  cases lingers <;> nofun

theorem start_handsOn (hands : HandsOn launcher queue handed) :
    start own launcher queue =
      (settle queue).after (announcing own queue :: handed) := by
  cases hands with
  | last nothing =>
      rw [start, if_pos nothing]
      rfl
  | child given answered =>
      rw [start, if_neg given, descend, answered]
      simp [Trace.after, launching, announcing, Queue.depth]

theorem start_refused {notes : List Note} (given : queue.tail ≠ [])
    (answered : launcher queue.tail = ⟨notes, .error failure⟩) :
    start own launcher queue =
      ⟨announcing own queue :: .launch queue.tail none :: notes.map .log, .failed failure⟩ := by
  rw [start, if_neg given, descend, answered]
  rfl

theorem start_whole (hands : HandsOn launcher queue handed)
    (lingers : Lingers queue.head.value (Wait.ofMillis queue.head) lingered ending) :
    start own launcher queue =
      ⟨announcing own queue :: handed ++
        .log (.applying (Wait.ofMillis queue.head)) :: lingered, ending⟩ := by
  rw [start_handsOn hands, settle, lingers.linger]
  rfl

/-- A node hands on its tail, or there is one and its launch fails. -/
theorem hands_or_refused (launcher : Launcher) (queue : Queue) :
    (∃ handed, HandsOn launcher queue handed) ∨
      ∃ notes failure, queue.tail ≠ [] ∧ launcher queue.tail = ⟨notes, .error failure⟩ := by
  by_cases nothing : queue.tail = []
  · exact .inl ⟨_, .last nothing⟩
  rcases answered : launcher queue.tail with ⟨notes, failure | child⟩
  · exact .inr ⟨notes, failure, nothing, rfl⟩
  · exact .inl ⟨_, .child nothing answered⟩

theorem protocol_start (own : Nat) (launcher : Launcher) (queue : Queue) :
    Protocol own launcher queue (start own launcher queue) := by
  rcases hands_or_refused launcher queue with ⟨handed, hands⟩ | ⟨notes, failure, given, answered⟩
  · obtain ⟨lingered, ending, lingers⟩ := lingers_ofMillis queue.head
    rw [start_whole hands lingers]
    exact .whole hands lingers
  · rw [start_refused given answered]
    exact .cut given answered

/-- Only the trace of the node keeps to its protocol. -/
theorem Protocol.start {trace : Trace} (protocol : Protocol own launcher queue trace) :
    trace = Node.start own launcher queue := by
  cases protocol with
  | cut given answered => rw [start_refused given answered]
  | whole hands lingers => rw [start_whole hands lingers]

/-- A launcher that has given a child has not failed. -/
theorem HandsOn.launched (hands : HandsOn launcher queue handed) :
    queue.tail = [] ∨ ∃ child, (launcher queue.tail).child = .ok child := by
  cases hands with
  | last nothing => exact .inl nothing
  | child given answered => exact .inr ⟨_, by rw [answered]⟩

theorem start_ending (hands : HandsOn launcher queue handed) :
    ((start own launcher queue).ending = .returned ↔ 0 ≤ queue.head.value) ∧
      ∀ failure, (start own launcher queue).ending ≠ .failed failure := by
  obtain ⟨lingered, ending, lingers⟩ := lingers_ofMillis queue.head
  rw [start_whole hands lingers]
  exact ⟨lingers.returned, lingers.unfailed⟩

/-- A node returns if and only if it has handed on its tail and its duration is not negative. -/
theorem start_returned (own : Nat) (launcher : Launcher) (queue : Queue) :
    (start own launcher queue).ending = .returned ↔
      0 ≤ queue.head.value ∧ ∃ handed, HandsOn launcher queue handed := by
  rcases hands_or_refused launcher queue with ⟨handed, hands⟩ | ⟨notes, failure, given, answered⟩
  · rw [(start_ending hands).1]
    exact ⟨fun sign => ⟨sign, handed, hands⟩, And.left⟩
  · rw [start_refused given answered]
    refine ⟨nofun, fun ⟨_, handed, hands⟩ => ?_⟩
    obtain ⟨child, launched⟩ := hands.launched.resolve_left given
    rw [answered] at launched
    contradiction

/-- A node fails if and only if it has a tail whose launch fails, and with the same failure. -/
theorem start_failed_iff (own : Nat) (launcher : Launcher) (queue : Queue) (failure : Failure) :
    (start own launcher queue).ending = .failed failure ↔
      queue.tail ≠ [] ∧ (launcher queue.tail).child = .error failure := by
  rcases hands_or_refused launcher queue with ⟨handed, hands⟩ | ⟨notes, other, given, answered⟩
  · refine ⟨fun failed => absurd failed ((start_ending hands).2 failure), fun ⟨given, failed⟩ => ?_⟩
    obtain ⟨child, launched⟩ := hands.launched.resolve_left given
    rw [launched] at failed
    contradiction
  · rw [start_refused given answered, answered]
    simp [given]

/-- A node of a negative duration falls asleep behind its announcements and never wakes up. -/
theorem start_asleep (own : Nat) (hands : HandsOn launcher queue handed)
    (negative : queue.head.value < 0) :
    (start own launcher queue).at? (handed.length + 2) = some (.log .asleep) ∧
      ∀ index,
        (start own launcher queue).at? (handed.length + 3 + index) = some (.sleep Wait.tick) := by
  have lingers : Lingers queue.head.value (Wait.ofMillis queue.head) [.log .asleep]
      (.endless Wait.tick) := by
    rw [Wait.ofMillis_negative negative]
    exact .forever negative
  rw [start_whole hands lingers]
  refine ⟨?_, fun index => Trace.at?_endless Wait.tick ?_⟩
  · simp [Trace.at?]
  · simp only [List.length_append, List.length_cons, List.length_nil]
    omega

/-- The protocol of a node allows one trace, and that is the trace of the node. It launches its tail
once if there is one and nothing otherwise. It fails with the failure of that launch, and it returns
if the launch has not failed and its duration is not negative. For a negative duration it falls
asleep, and from then on it does nothing but sleep. -/
theorem start_protocol (own : Nat) (launcher : Launcher) (queue : Queue) :
    (∀ trace, trace = start own launcher queue ↔ Protocol own launcher queue trace) ∧
    (start own launcher queue).calls = (if queue.tail = [] then [] else [queue.tail]) ∧
    (∀ failure, (start own launcher queue).ending = .failed failure ↔
      queue.tail ≠ [] ∧ (launcher queue.tail).child = .error failure) ∧
    ((start own launcher queue).ending = .returned ↔
      0 ≤ queue.head.value ∧ ∃ handed, HandsOn launcher queue handed) ∧
    ∀ handed, HandsOn launcher queue handed → queue.head.value < 0 →
      (start own launcher queue).at? (handed.length + 2) = some (.log .asleep) ∧
      ∀ index,
        (start own launcher queue).at? (handed.length + 3 + index) = some (.sleep Wait.tick) := by
  refine ⟨fun trace => ⟨?_, Protocol.start⟩, start_calls own launcher queue,
    start_failed_iff own launcher queue, start_returned own launcher queue,
    fun handed hands negative => start_asleep own hands negative⟩
  rintro rfl
  exact protocol_start own launcher queue

/-- A negative duration with a tail: the sixth effect and all later ones are sleeps of a second. -/
theorem start_protocol_negative :
    let queue : Queue := ⟨⟨-5, by decide, by decide⟩, ["0", "7"]⟩
    let launcher : Launcher := fun _ => ⟨[], .ok 42⟩
    HandsOn launcher queue [.launch ["0", "7"] (some 42), .log (.launched 42 2)] ∧
      ∀ index, (start 1 launcher queue).at? (5 + index) = some (.sleep ⟨1, 0, by decide⟩) := by
  intro queue launcher
  have hands : HandsOn launcher queue [.launch ["0", "7"] (some 42), .log (.launched 42 2)] :=
    @HandsOn.child launcher queue [] 42 (List.cons_ne_nil _ _) rfl
  exact ⟨hands, ((start_protocol 1 launcher queue).2.2.2.2 _ hands (by decide)).2⟩

end Node

end LingerChain
