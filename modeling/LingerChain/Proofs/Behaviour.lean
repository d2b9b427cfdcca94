/-
This file says how a program that writes no log behaves: what it writes, what it starts, how long it
sleeps and with which status it ends.
-/

import LingerChain.Program
import LingerChain.Proofs.Refusal

namespace LingerChain

namespace Log

/-- No note passes the filter, and nothing was wrong with its text. -/
structure Off (log : Log) : Prop where
  silent : ∀ note, log.filter.passes note = false
  sound : log.warnings = []

/-- Without a filter nothing is logged. -/
theorem off_ofText (display : Display) : (ofText? display none).Off :=
  ⟨fun _ => rfl, rfl⟩

namespace Off

variable {log : Log}

theorem note (off : log.Off) (note : Note) : log.note note = [] := by
  rw [Log.note, off.silent]
  rfl

theorem warn (off : log.Off) : log.warn = [] := by
  rw [Log.warn, off.sound]
  rfl

end Off

end Log

/-- The texts that a life writes to a stream, one after another. -/
def Life.texts (life : Life) (stream : Stream) : List String :=
  life.deeds.filterMap (Deed.written? stream)

/-- Seen from outside, a level is the life of one process. -/
def Level.life (log : Log) (level : Level) : Life :=
  Program.live log level.own (level.run.map Prod.snd)

/-- No text of a reply is empty, because one of its runs holds no control sequence. -/
theorem Reply.text_nonempty (reply : Reply) (program : String) : reply.text program ≠ "" := by
  have usage : Terminal.strip "Usage:" = "Usage:" := by decide
  have title : Terminal.strip "error:" = "error:" := by decide
  have version : Terminal.strip Command.chain.versionText ≠ "" := by decide
  intro empty
  have letters := congrArg String.toList empty
  cases reply with
  | requested flag =>
      cases flag with
      | help => simp [text, runs, helpRuns, usage] at letters
      | version => simp [text, runs, version] at letters
  | unknownArgument | attachedValue | notText | badHead | stated =>
      simp [text, runs, refusalRuns, title] at letters

/-- A process that waits sleeps once, for the span of its head. -/
def Millis.rests (head : Millis) : List Deed :=
  if 0 < head.value then [.sleep (Span.ofMillis head.value.toNat)] else []

namespace Surroundings

/-- A tail is handed on to one child as it stands, and without a tail there is no child. -/
inductive Hands (surroundings : Surroundings) (executable : Bytes) :
    List String → List Deed → Prop where
  | nothing : Hands surroundings executable [] []
  | child {tail : List String} {number : Nat} (given : tail ≠ [])
      (started : Launcher.spawnChecked surroundings.spawn executable tail = .ok number) :
      Hands surroundings executable tail [.spawn tail number]

/-- What is read, found and started decides the whole life of a program that writes no log. -/
inductive Behaves (surroundings : Surroundings) (display : Display) (program : Option Bytes)
    (arguments : List Bytes) : Life → Prop where
  | requested {name : String} {reply : Reply}
      (read : Queue.ofArguments program arguments = .error (.replied name reply))
      (asked : reply.kind = .displayHelp ∨ reply.kind = .displayVersion) :
      Behaves surroundings display program arguments
        ⟨[.write .output (reply.text name)], .exited 0⟩
  | refused {name : String} {reply : Reply}
      (read : Queue.ofArguments program arguments = .error (.replied name reply))
      (help : reply.kind ≠ .displayHelp) (version : reply.kind ≠ .displayVersion) :
      Behaves surroundings display program arguments
        ⟨[.write .error (reply.text name)], .exited 2⟩
  | noDurations (nothing : arguments = [] ∨ arguments = [encode "--"]) :
      Behaves surroundings display program arguments
        ⟨[.write .error ((Obstacle.noDurations (programName program)).message display ++ "\n")],
          .exited 1⟩
  | noExecutable {queue : Queue} {fault : SystemFault}
      (read : Queue.ofArguments program arguments = .ok queue)
      (lost : surroundings.executable = .error fault) :
      Behaves surroundings display program arguments
        ⟨[.write .error ((Obstacle.noExecutable fault).message display ++ "\n")], .exited 1⟩
  | noChild {queue : Queue} {executable : Bytes} {fault : SystemFault}
      (read : Queue.ofArguments program arguments = .ok queue)
      (found : surroundings.executable = .ok executable) (given : queue.tail ≠ [])
      (failed : Launcher.spawnChecked surroundings.spawn executable queue.tail = .error fault) :
      Behaves surroundings display program arguments
        ⟨[.write .error ((Obstacle.noChild executable fault).message display ++ "\n")], .exited 1⟩
  | returned {queue : Queue} {executable : Bytes} {spawned : List Deed}
      (read : Queue.ofArguments program arguments = .ok queue)
      (found : surroundings.executable = .ok executable)
      (hands : surroundings.Hands executable queue.tail spawned) (sign : 0 ≤ queue.head.value) :
      Behaves surroundings display program arguments
        ⟨spawned ++ queue.head.rests, .exited 0⟩
  | endless {queue : Queue} {executable : Bytes} {spawned : List Deed}
      (read : Queue.ofArguments program arguments = .ok queue)
      (found : surroundings.executable = .ok executable)
      (hands : surroundings.Hands executable queue.tail spawned)
      (negative : queue.head.value < 0) :
      Behaves surroundings display program arguments ⟨spawned, .endless Wait.tick⟩

/-- A program fails with what stops it before its wait. -/
def failure? (surroundings : Surroundings) (own : Nat) (program : Option Bytes)
    (arguments : List Bytes) : Option Failure :=
  match surroundings.run own program arguments with
  | .error failure => some failure
  | .ok trace =>
      match trace.ending with
      | .failed failure => some failure
      | .returned | .endless _ => none

variable {surroundings : Surroundings} {log : Log} {program : Option Bytes}
  {arguments : List Bytes} {queue : Queue} {executable : Bytes} {life : Life}

/-- Some behaviour is possible whatever the arguments, the executable and the spawns are. -/
theorem behaves_total (surroundings : Surroundings) (display : Display) (program : Option Bytes)
    (arguments : List Bytes) :
    ∃ life, surroundings.Behaves display program arguments life := by
  cases read : Queue.ofArguments program arguments with
  | error failure =>
      rcases Queue.ofArguments_error read with ⟨nothing, rfl⟩ | ⟨reply, rfl, _⟩
      · exact ⟨_, .noDurations nothing⟩
      · by_cases asked : reply.kind = .displayHelp ∨ reply.kind = .displayVersion
        · exact ⟨_, .requested read asked⟩
        · obtain ⟨help, version⟩ := not_or.1 asked
          exact ⟨_, .refused read help version⟩
  | ok queue =>
      cases found : surroundings.executable with
      | error fault => exact ⟨_, .noExecutable read found⟩
      | ok executable =>
          have waits {spawned : List Deed}
              (hands : surroundings.Hands executable queue.tail spawned) :
              ∃ life, surroundings.Behaves display program arguments life := by
            rcases Int.lt_or_le queue.head.value 0 with negative | sign
            · exact ⟨_, .endless read found hands negative⟩
            · exact ⟨_, .returned read found hands sign⟩
          by_cases given : queue.tail = []
          · exact waits (given.symm ▸ Hands.nothing)
          · cases started : Launcher.spawnChecked surroundings.spawn executable queue.tail with
            | error fault => exact ⟨_, .noChild read found given started⟩
            | ok number => exact waits (.child given started)

theorem live_error {failure : Failure} (off : log.Off) (own : Nat)
    (read : Queue.ofArguments program arguments = .error failure) :
    surroundings.live log own program arguments = Program.fail log own failure := by
  simp only [live, run, read, Program.live, Life.after, off.warn, List.nil_append]

theorem fail_blocked (off : log.Off) (own : Nat) (obstacle : Obstacle) :
    Program.fail log own (.blocked obstacle) =
      ⟨[.write .error (obstacle.message log.display ++ "\n")], .exited 1⟩ := by
  simp only [Program.fail, off.note, List.nil_append]
  rfl

theorem live_lost {fault : SystemFault} (off : log.Off) (own : Nat)
    (read : Queue.ofArguments program arguments = .ok queue)
    (lost : surroundings.executable = .error fault) :
    surroundings.live log own program arguments =
      Program.fail log own (.blocked (.noExecutable fault)) := by
  simp only [live, run, read, lost, Program.live, Life.after, off.warn, List.nil_append]

/-- A program that has read its arguments and found its executable lives through its trace. -/
theorem live_start (off : log.Off) (own : Nat)
    (read : Queue.ofArguments program arguments = .ok queue)
    (found : surroundings.executable = .ok executable) :
    surroundings.live log own program arguments =
      let trace := Node.start own (.ofExecutable surroundings.spawn executable) queue
      (Program.finish log own trace.ending).after (trace.effects.flatMap (Program.deeds log)) := by
  simp only [live, run, read, found, Program.live, off.warn, List.nil_append]

/-- A wait that is over ends the program well. -/
theorem settle_life (off : log.Off) (own : Nat) (queue : Queue) :
    (Program.finish log own (Node.settle queue).ending).after
        ((Node.settle queue).effects.flatMap (Program.deeds log)) =
      if queue.head.value < 0 then ⟨[], .endless Wait.tick⟩
      else ⟨queue.head.rests, .exited 0⟩ := by
  unfold Node.settle Wait.ofMillis Millis.rests
  split
  · rename_i zero
    rw [if_neg (by omega), if_neg (by omega)]
    simp [Node.linger, Node.wait, Trace.thenAlso, Trace.after, Program.deeds, off.note,
      Program.finish, Life.after]
  · split
    · rw [if_neg (by omega)]
      simp [Node.linger, Node.wait, Trace.thenAlso, Trace.after, Program.deeds, off.note,
        Program.finish, Life.after]
    · rw [if_pos (by omega)]
      simp [Node.linger, Node.wait, Trace.thenAlso, Trace.after, Program.deeds, off.note,
        Program.finish, Life.after]

theorem live_hands {spawned : List Deed} (off : log.Off) (own : Nat)
    (read : Queue.ofArguments program arguments = .ok queue)
    (found : surroundings.executable = .ok executable)
    (hands : surroundings.Hands executable queue.tail spawned) :
    surroundings.live log own program arguments =
      Life.after spawned (if queue.head.value < 0 then ⟨[], .endless Wait.tick⟩
        else ⟨queue.head.rests, .exited 0⟩) := by
  rw [live_start off own read found, ← settle_life off own]
  obtain ⟨head, tail⟩ := queue
  cases hands with
  | nothing =>
      simp [Node.start, Trace.after, Program.deeds, off.note, Life.after]
  | child given started =>
      simp [Node.start, given, Launcher.ofExecutable, started, Node.descend, Node.launching,
        Trace.after, Program.deeds, off.note, Life.after]

theorem live_cut {fault : SystemFault} (off : log.Off) (own : Nat)
    (read : Queue.ofArguments program arguments = .ok queue)
    (found : surroundings.executable = .ok executable) (given : queue.tail ≠ [])
    (failed : Launcher.spawnChecked surroundings.spawn executable queue.tail = .error fault) :
    surroundings.live log own program arguments =
      Program.fail log own (.blocked (.noChild executable fault)) := by
  rw [live_start off own read found]
  simp [Node.start, given, Launcher.ofExecutable, failed, Node.descend, Node.launching,
    Trace.after, Program.deeds, off.note, Life.after, Program.finish]

/-- There is no other behaviour than that of the program. -/
theorem Behaves.live (off : log.Off) (own : Nat)
    (behaves : surroundings.Behaves log.display program arguments life) :
    surroundings.live log own program arguments = life := by
  cases behaves with
  | @requested name reply read asked =>
      have request : reply.kind.isRequest = true := by
        rcases asked with same | same <;> rw [same] <;> rfl
      rw [live_error off own read]
      simp [Program.fail, Reply.usesStandardError, Reply.exitCode, request]
  | @refused name reply read help version =>
      have mistake : reply.kind.isRequest = false := by
        revert help version
        cases reply.kind <;> simp [ReplyKind.isRequest]
      rw [live_error off own read]
      simp [Program.fail, Reply.usesStandardError, Reply.exitCode, mistake]
  | noDurations nothing =>
      rw [live_error off own (Queue.ofArguments_nothing nothing program), fail_blocked off]
  | noExecutable read lost => rw [live_lost off own read lost, fail_blocked off]
  | noChild read found given failed =>
      rw [live_cut off own read found given failed, fail_blocked off]
  | returned read found hands sign =>
      rw [live_hands off own read found hands, if_neg (by omega)]
      rfl
  | endless read found hands negative =>
      rw [live_hands off own read found hands, if_pos negative, Life.after, List.append_nil]

theorem behaves_iff (off : log.Off) (own : Nat) :
    surroundings.Behaves log.display program arguments life ↔
      surroundings.live log own program arguments = life := by
  refine ⟨Behaves.live off own, fun same => ?_⟩
  obtain ⟨other, behaves⟩ :=
    behaves_total surroundings log.display program arguments
  rw [← same, behaves.live off own]
  exact behaves

theorem behaves_live (off : log.Off) (own : Nat) :
    surroundings.Behaves log.display program arguments
      (surroundings.live log own program arguments) :=
  (behaves_iff off own).2 rfl

/-- Whatever is logged, a program that fails ends with the exit code of its failure. -/
theorem live_failed {own : Nat} {failure : Failure}
    (failed : surroundings.failure? own program arguments = some failure) :
    (surroundings.live log own program arguments).status? = some failure.exitCode := by
  have fails (failure : Failure) : (Program.fail log own failure).finish =
      .exited failure.exitCode := by
    cases failure <;> rfl
  unfold failure? at failed
  unfold Surroundings.live Life.status?
  split at failed
  · rename_i refused
    obtain rfl := Option.some.inj failed
    simp only [refused, Program.live, Life.after, fails]
  · rename_i trace ran
    split at failed
    · rename_i ending
      obtain rfl := Option.some.inj failed
      simp only [ran, Program.live, Life.after, ending, Program.finish, fails]
    · contradiction
    · contradiction

theorem Hands.spawned {tail : List String} {spawned : List Deed}
    (hands : surroundings.Hands executable tail spawned) :
    spawned.filterMap Deed.spawned? = if tail = [] then [] else [tail] := by
  cases hands with
  | nothing => rfl
  | child given started => exact (if_neg given).symm

/-- A program that ends well without a word has handed its whole tail to a child. -/
theorem Behaves.handed {display : Display}
    (behaves : surroundings.Behaves display program arguments life)
    (well : life.status? = some 0) (silent : life.written .output = "") :
    ∃ queue, Queue.ofArguments program arguments = .ok queue ∧
      life.spawned = if queue.tail = [] then [] else [queue.tail] := by
  cases behaves with
  | requested read asked =>
      have text : String.join [_] = "" := silent
      rw [String.join_cons, String.join_nil, String.append_empty] at text
      exact absurd text (Reply.text_nonempty _ _)
  | returned read found hands sign =>
      refine ⟨_, read, ?_⟩
      rw [Life.spawned, List.filterMap_append, hands.spawned]
      unfold Millis.rests
      split <;> simp [Deed.spawned?]
  | refused | noDurations | noExecutable | noChild | endless => simp [Life.status?] at well

/-- A program that writes no log behaves in exactly one way, which is decided by what is read, found
and started. It ends with the exit code of its failure if it fails. If it ends well without a word,
it has handed its whole tail to a child. -/
theorem live_behaves (off : log.Off) (surroundings : Surroundings) (own : Nat)
    (program : Option Bytes) (arguments : List Bytes) :
    let life := surroundings.live log own program arguments
    (∀ other, surroundings.Behaves log.display program arguments other ↔ life = other) ∧
    (∀ failure, surroundings.failure? own program arguments = some failure →
      life.status? = some failure.exitCode) ∧
    (life.status? = some 0 → life.written .output = "" →
      ∃ queue, Queue.ofArguments program arguments = .ok queue ∧
        life.spawned = if queue.tail = [] then [] else [queue.tail]) := by
  intro life
  exact ⟨fun _ => behaves_iff off own, fun _ => live_failed, (behaves_live off own).handed⟩

/-- A program without a filter for its log hands on its tail without a word. -/
theorem live_behaves_silent :
    let surroundings : Surroundings := ⟨.ok (encode "linger"), fun _ _ => .ok 2⟩
    let life := surroundings.live (Log.ofText? .full none) 1 none (["0", "7"].map encode)
    ∃ queue, Queue.ofArguments none (["0", "7"].map encode) = .ok queue ∧
      life.spawned = if queue.tail = [] then [] else [queue.tail] := by
  intro surroundings life
  exact (live_behaves (Log.off_ofText .full) surroundings 1 none _).2.2 rfl rfl

end Surroundings

end LingerChain
