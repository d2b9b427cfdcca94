/-
This file shows that the processes of a chain that writes no log are silent, all but the last one.
-/

import LingerChain.Proofs.Behaviour
import LingerChain.Proofs.Descent

namespace LingerChain

/-- A silent life writes nothing at all. -/
def Life.Silent (life : Life) : Prop := ∀ stream, life.texts stream = []

/-- Help and version are asked for, and every other failure is a mistake or a fault. -/
def Failure.Asked (failure : Failure) : Prop :=
  ∃ name reply, failure = .replied name reply ∧
    (reply.kind = .displayHelp ∨ reply.kind = .displayVersion)

namespace Surroundings

/-- Whatever a chain on these arguments may come to launch is started. -/
def Starts (surroundings : Surroundings) (executable : Bytes) (arguments : List Bytes) : Prop :=
  ∀ texts : List String, texts.map encode <:+ arguments →
    ∃ number, Launcher.spawnChecked surroundings.spawn executable texts = .ok number

variable {surroundings : Surroundings} {log : Log} {display : Display} {program : Option Bytes}
  {arguments : List Bytes} {queue : Queue} {executable : Bytes} {life : Life}

theorem Starts.less (starts : surroundings.Starts executable arguments) {fewer : List Bytes}
    (suffix : fewer <:+ arguments) : surroundings.Starts executable fewer :=
  fun texts inside => starts texts (inside.trans suffix)

/-- A system that starts everything starts what holds no zero byte. -/
theorem starts_clean (spawned : ∀ texts, ∃ number, surroundings.spawn executable texts = .ok number)
    (path : Launcher.hasZeroByte executable = false)
    (clean : ∀ argument ∈ arguments, Launcher.hasZeroByte argument = false) :
    surroundings.Starts executable arguments := by
  intro texts suffix
  obtain ⟨number, started⟩ := spawned texts
  refine ⟨number, ?_⟩
  rw [Launcher.spawnChecked, if_neg, started]
  simp only [path, Bool.false_or, Bool.not_eq_true, List.any_eq_false]
  intro text member
  rw [clean (encode text) (suffix.subset (List.mem_map_of_mem member))]

/-- A level of a chain lives as the program does on the arguments of that level. -/
theorem live_level (found : surroundings.executable = .ok executable) (own : Nat)
    (program : Option Bytes) (arguments : List Bytes) :
    ((surroundings.origin executable).level own program arguments).life log =
      surroundings.live log own program arguments := by
  simp only [Level.life, live, run, found, Origin.level]
  cases Queue.ofArguments program arguments <;> rfl

theorem lives_chain (found : surroundings.executable = .ok executable) (own : Nat)
    (program : Option Bytes) (arguments : List Bytes) :
    surroundings.lives log own program arguments =
      ((surroundings.origin executable).chain own program arguments).map (Level.life log) := by
  simp only [lives, found]
  rfl

/-- The number of a process plays no part in its life. -/
theorem live_own (off : log.Off) (own number : Nat) (program : Option Bytes)
    (arguments : List Bytes) :
    surroundings.live log own program arguments =
      surroundings.live log number program arguments :=
  ((behaves_live off own).live off number).symm

theorem Hands.quiet {tail : List String} {spawned : List Deed}
    (hands : surroundings.Hands executable tail spawned) (stream : Stream) :
    spawned.filterMap (Deed.written? stream) = [] := by
  cases hands <;> rfl

/-- A program that has nothing to complain of is silent, whether its wait is over or not. -/
theorem rests_quiet (head : Millis) (stream : Stream) :
    head.rests.filterMap (Deed.written? stream) = [] := by
  unfold Millis.rests
  split <;> rfl

/-- No program writes more than one text. -/
theorem Behaves.texts_length (behaves : surroundings.Behaves display program arguments life)
    (stream : Stream) : (life.texts stream).length ≤ 1 := by
  cases behaves with
  | returned read found hands sign =>
      simp [Life.texts, hands.quiet, rests_quiet]
  | endless read found hands negative => simp [Life.texts, hands.quiet]
  | requested | refused | noDurations | noExecutable | noChild => exact List.length_filterMap_le _ _

/-- A program that is started on arguments that it can read is silent, and it ends well unless its
head is negative. -/
theorem Behaves.parsed (behaves : surroundings.Behaves display program arguments life)
    (found : surroundings.executable = .ok executable)
    (starts : surroundings.Starts executable arguments)
    (read : Queue.ofArguments program arguments = .ok queue) :
    life.Silent ∧ life.status? = if queue.head.value < 0 then none else some 0 := by
  cases behaves with
  | requested refused | refused refused =>
      rw [read] at refused
      contradiction
  | noDurations nothing =>
      rw [Queue.ofArguments_nothing nothing] at read
      contradiction
  | noExecutable again lost =>
      rw [found] at lost
      contradiction
  | @noChild other path fault again same given failed =>
      obtain rfl := Except.ok.inj (found.symm.trans same)
      obtain ⟨number, started⟩ := starts other.tail (Queue.tail_suffix again)
      rw [failed] at started
      contradiction
  | @returned other path spawned again same hands sign =>
      obtain rfl := Except.ok.inj (read.symm.trans again)
      refine ⟨fun stream => ?_, (if_neg (by omega)).symm⟩
      rw [Life.texts, List.filterMap_append, hands.quiet, rests_quiet]
      rfl
  | @endless other path spawned again same hands negative =>
      obtain rfl := Except.ok.inj (read.symm.trans again)
      exact ⟨fun stream => hands.quiet stream, (if_pos negative).symm⟩

/-- A program that cannot read its arguments ends well only if it was asked for a flag. -/
theorem Behaves.unread (behaves : surroundings.Behaves display program arguments life)
    {failure : Failure} (refused : Queue.ofArguments program arguments = .error failure) :
    ∃ status, life.status? = some status ∧ (status ≠ 0 ↔ ¬ failure.Asked) := by
  cases behaves with
  | @requested name reply read asked =>
      obtain rfl := Except.error.inj (refused.symm.trans read)
      exact ⟨0, rfl, iff_of_false (fun wrong => wrong rfl) (not_not.2 ⟨name, reply, rfl, asked⟩)⟩
  | @refused name reply read help version =>
      obtain rfl := Except.error.inj (refused.symm.trans read)
      refine ⟨2, rfl, iff_of_true (by decide) ?_⟩
      rintro ⟨_, _, same, asked⟩
      obtain ⟨_, rfl⟩ := Failure.replied.inj same
      exact asked.elim help version
  | noDurations nothing =>
      rw [Queue.ofArguments_nothing nothing] at refused
      obtain rfl := Except.error.inj refused
      refine ⟨1, rfl, iff_of_true (by decide) ?_⟩
      rintro ⟨_, _, same, _⟩
      contradiction
  | noExecutable read | noChild read | returned read | endless read =>
      rw [refused] at read
      contradiction

/-- A silent life belongs to a level that has run, and ends well unless its head is negative. -/
def Quiet (levels : List Level) (life : Life) : Prop :=
  life.Silent ∧ ∃ level ∈ levels, ∃ queue trace, level.run = .ok (queue, trace) ∧
    life.status? = if queue.head.value < 0 then none else some 0

theorem Quiet.below {levels : List Level} (quiet : Quiet levels life) (level : Level) :
    Quiet (level :: levels) life := by
  obtain ⟨silent, deeper, member, rest⟩ := quiet
  exact ⟨silent, deeper, List.mem_cons_of_mem level member, rest⟩

/-- All lives of a chain but the last one are quiet. The last one is that of the program on the
arguments of the last level. -/
theorem lives_last (off : log.Off) (found : surroundings.executable = .ok executable)
    (starts : surroundings.Starts executable arguments) (own : Nat) (program : Option Bytes) :
    ∃ above last, ((surroundings.origin executable).chain own program arguments).getLast? =
        some last ∧
      last.program = (if ((surroundings.origin executable).chain own program arguments).length = 1
        then program else some executable) ∧
      surroundings.lives log own program arguments =
        above ++ [surroundings.live log last.own last.program last.arguments] ∧
      ∀ life ∈ above,
        Quiet ((surroundings.origin executable).chain own program arguments) life := by
  rw [lives_chain found]
  generalize same : surroundings.origin executable = origin
  induction origin, own, program, arguments using Origin.chain.induct with
  | case1 origin own program arguments next =>
      subst same
      rw [Origin.chainLast next]
      refine ⟨[], _, rfl, rfl, ?_, by simp⟩
      rw [List.map_singleton, live_level found]
      rfl
  | case2 origin own program arguments child launched next ih =>
      subst same
      obtain ⟨queue, read, rfl, given⟩ := Origin.next_some next
      obtain ⟨above, last, final, named, lives, quiet⟩ :=
        ih (starts.less (Queue.tail_suffix read)) rfl
      rw [Origin.chainNext next]
      refine ⟨surroundings.live log own program arguments :: above, last, ?_, ?_, ?_, ?_⟩
      · rw [List.getLast?_cons, final]
        rfl
      · have more := List.length_pos_of_mem (List.mem_of_getLast? final)
        rw [if_neg (by rw [List.length_cons]; omega), named]
        split <;> rfl
      · rw [List.map_cons, live_level found]
        exact congrArg (_ :: ·) lives
      · refine List.forall_mem_cons.2 ⟨?_, fun life member => (quiet life member).below _⟩
        obtain ⟨silent, status⟩ := (behaves_live off own).parsed found starts read
        exact ⟨silent, _, List.mem_cons_self, queue, _, Origin.run_parsed own read, status⟩

theorem perm_short {texts others : List String} (perm : texts.Perm others)
    (short : others.length ≤ 1) : texts = others := by
  rcases others with _ | ⟨text, _ | ⟨second, rest⟩⟩
  · exact perm.eq_nil
  · exact List.perm_singleton.1 perm
  · simp at short

/-- The root of a chain whose heads are not negative ends well, unless it cannot read its arguments
and was not asked for a flag. -/
theorem live_root (off : log.Off) (found : surroundings.executable = .ok executable)
    (starts : surroundings.Starts executable arguments) (own : Nat)
    (signs : ∀ queue, Queue.ofArguments program arguments = .ok queue → 0 ≤ queue.head.value) :
    ∃ status, (surroundings.live log own program arguments).status? = some status ∧
      (status ≠ 0 ↔ ∃ failure, Queue.ofArguments program arguments = .error failure ∧
        ¬ failure.Asked) := by
  have behaves : surroundings.Behaves log.display program arguments _ := behaves_live off own
  cases read : Queue.ofArguments program arguments with
  | error failure =>
      obtain ⟨status, ended, mistaken⟩ := behaves.unread read
      refine ⟨status, ended, mistaken.trans ⟨fun other => ⟨failure, rfl, other⟩, ?_⟩⟩
      rintro ⟨_, same, other⟩
      exact Except.error.inj same ▸ other
  | ok queue =>
      have ended := (behaves.parsed found starts read).2
      rw [if_neg (by have := signs queue read; omega)] at ended
      refine ⟨0, ended, iff_of_false (fun wrong => wrong rfl) ?_⟩
      rintro ⟨_, same, _⟩
      contradiction

/-- In a chain that writes no log and in which everything is found and started, at most the last
process writes anything. In whatever order the texts come out, they are those that the program
writes on the arguments of the last level alone. If no head is negative, all processes but the last
one end well, so that the root ends badly only if it cannot read its own arguments. -/
theorem lives_local (off : log.Off) (found : surroundings.executable = .ok executable)
    (starts : surroundings.Starts executable arguments) (own : Nat) (program : Option Bytes) :
    let levels := (surroundings.origin executable).chain own program arguments
    let lives := surroundings.lives log own program arguments
    (∀ life ∈ lives.dropLast, life.Silent) ∧
    (∃ last, levels.getLast? = some last ∧
      last.program = (if levels.length = 1 then program else some executable) ∧
      ∀ stream number texts, texts.Perm (lives.flatMap fun life => life.texts stream) →
        String.join texts =
          (surroundings.live log number last.program last.arguments).written stream) ∧
    ((∀ level ∈ levels, ∀ queue trace, level.run = .ok (queue, trace) → 0 ≤ queue.head.value) →
      (∀ life ∈ lives.dropLast, life.status? = some 0) ∧
      ∃ root status, lives.head? = some root ∧ root.status? = some status ∧
        (status ≠ 0 ↔ ∃ failure, Queue.ofArguments program arguments = .error failure ∧
          ¬ failure.Asked)) := by
  intro levels lives
  obtain ⟨above, last, final, named, split, quiet⟩ := lives_last off found starts own program
  have silent : lives.dropLast = above := by
    rw [show lives = _ from split, List.dropLast_concat]
  rw [silent]
  refine ⟨fun life member => (quiet life member).1, ⟨last, final, named, ?_⟩, fun signs => ⟨?_, ?_⟩⟩
  · intro stream number texts perm
    have alone : surroundings.live log last.own last.program last.arguments =
        surroundings.live log number last.program last.arguments := live_own off ..
    have short := ((behaves_iff off last.own).2 alone).texts_length stream
    rw [show lives = _ from split, List.flatMap_append, List.flatMap_singleton, alone,
      List.flatMap_eq_nil_iff.2 fun life member => (quiet life member).1 stream,
      List.nil_append] at perm
    rw [perm_short perm short]
    rfl
  · intro life member
    obtain ⟨_, level, inside, queue, trace, run, status⟩ := quiet life member
    rw [status, if_neg]
    have sign := signs level inside queue trace run
    omega
  · obtain ⟨below, chain⟩ :=
      Origin.chain_cons (surroundings.origin executable) own program arguments
    obtain ⟨status, ended, mistaken⟩ := live_root off found starts own fun queue read =>
      signs _ (chain ▸ List.mem_cons_self) queue _ (Origin.run_parsed own read)
    refine ⟨_, status, ?_, ended, mistaken⟩
    rw [show lives = _ from lives_chain found own program arguments, chain, List.map_cons,
      live_level found]
    rfl

/-- A tail that cannot be read makes the child complain, and the root ends well. -/
theorem lives_local_second :
    let surroundings : Surroundings := ⟨.ok (encode "linger"), fun _ _ => .ok 2⟩
    let lives := surroundings.lives (Log.ofText? .full none) 1 none (["0", "abc"].map encode)
    (∀ life ∈ lives.dropLast, life.Silent) ∧ ∀ life ∈ lives.dropLast, life.status? = some 0 := by
  intro surroundings lives
  let origin := surroundings.origin (encode "linger")
  have starts : surroundings.Starts (encode "linger") (["0", "abc"].map encode) :=
    starts_clean (fun _ => ⟨2, rfl⟩) (by decide) (by decide)
  have chain : origin.chain 1 none (["0", "abc"].map encode) =
      [origin.level 1 none (["0", "abc"].map encode),
        origin.level 2 (some (encode "linger")) (["abc"].map encode)] :=
    (Origin.chainNext rfl).trans (congrArg (_ :: ·) (Origin.chainLast rfl))
  have locality := lives_local (Log.off_ofText .full) rfl starts 1 none
  refine ⟨locality.1, (locality.2.2 ?_).1⟩
  rw [chain, List.forall_mem_cons, List.forall_mem_singleton]
  refine ⟨fun queue trace run => ?_, fun queue trace run => ?_⟩
  · obtain ⟨rfl, _⟩ := Prod.mk.inj (Except.ok.inj run)
    decide
  · contradiction

end Surroundings

end LingerChain
