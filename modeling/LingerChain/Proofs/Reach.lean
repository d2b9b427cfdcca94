/-
This file shows how far the first text behind the durations reaches: to the last of them, and no
further.
-/

import LingerChain.Proofs.Anonymity
import LingerChain.Proofs.Durations

namespace LingerChain

/-- From a place on the levels are those of another chain, apart from the process numbers. -/
def ContinuesAs (levels : List Level) (place : Nat) (others : List Level) : Prop :=
  (levels.drop place).map Level.anonymous = others.map Level.anonymous

/-- The level at a place is the last one, because it has refused its arguments with a reply. -/
def RefusedAt (levels : List Level) (place : Nat) (kind : ReplyKind) : Prop :=
  levels.length = place + 1 ∧ ∃ level reply, levels[place]? = some level ∧
    level.run = .error (.replied (commandName level.program) reply) ∧ reply.kind = kind ∧
    level.calls = []

/-- The first text behind the duration at a place decides what becomes of that level: the escape is
dropped, a flag is answered, and any other text is handed on. -/
structure Reaches (levels : List Level) (place : Nat) (text first : String) (rest : List String)
    (alone : List String → List Level) : Prop where
  escape : first = "--" → RanAt levels place text rest ∧
    ContinuesAs levels (place + 1) (if rest = [] then [] else alone rest)
  help : Asks first .help → RefusedAt levels place .displayHelp
  version : Asks first .version → RefusedAt levels place .displayVersion
  attached : ∀ value flag, Attaches first value flag → RefusedAt levels place .tooManyValues
  plain : Plain first → RanAt levels place text (first :: rest) ∧
    ContinuesAs levels (place + 1) (alone (first :: rest))

/-- The chain on durations and a suffix composes if every duration runs on all that follows it and
the chain on the suffix alone comes after them. -/
def Composes (levels alone : List Level) (durations suffix : List String) : Prop :=
  (∀ place (inside : place < durations.length),
    RanAt levels place durations[place] ((durations ++ suffix).drop (place + 1))) ∧
  ContinuesAs levels durations.length alone

theorem RefusedAt.notRan {levels : List Level} {place : Nat} {kind : ReplyKind}
    (refused : RefusedAt levels place kind) (text : String) (tail : List String) :
    ¬ RanAt levels place text tail := by
  obtain ⟨_, level, reply, found, failed, _⟩ := refused
  rintro ⟨other, head, again, _, trace, ran, _⟩
  obtain rfl := Option.some.inj (found.symm.trans again)
  rw [failed] at ran
  contradiction

theorem RanAt.sameTail {levels : List Level} {place : Nat} {text other : String}
    {tail others : List String} (ran : RanAt levels place text tail)
    (again : RanAt levels place other others) : tail = others := by
  obtain ⟨level, head, found, _, left⟩ := ran
  obtain ⟨second, next, same, _, right⟩ := again
  obtain rfl := Option.some.inj (found.symm.trans same)
  exact congrArg Queue.tail (left.unique right)

/-- Only a plain text stays in the tail. -/
theorem Reaches.plain_of_ran {levels : List Level} {place : Nat} {text first : String}
    {rest : List String} {alone : List String → List Level}
    (reaches : Reaches levels place text first rest alone) {other : String}
    (ran : RanAt levels place other (first :: rest)) : Plain first := by
  rcases token_cases first with escape | ⟨flag, asks⟩ | ⟨value, flag, attaches⟩ | plain
  · have shorter := (reaches.escape escape).1.sameTail ran
    exact absurd (congrArg List.length shorter) (by simp)
  · cases flag with
    | help => exact absurd ran ((reaches.help asks).notRan _ _)
    | version => exact absurd ran ((reaches.version asks).notRan _ _)
  · exact absurd ran ((reaches.attached value flag attaches).notRan _ _)
  · exact plain

namespace Origin

variable {origin other : Origin} {program : Option Bytes} {arguments : List Bytes}

/-- Levels above a level that runs are followed by it and by the chain on its tail. -/
theorem chain_continues {text : String} {queue : Queue} (launches : origin.Launches queue.tail)
    (alike : origin.Alike other) (parsed : Queue.ofArguments program arguments = .ok queue)
    (denotes : Denotes text queue.head) (above : List Level) (own number : Nat) :
    RanAt (above ++ origin.chain own program arguments) above.length text queue.tail ∧
      ContinuesAs (above ++ origin.chain own program arguments) (above.length + 1)
        (if queue.tail = [] then [] else
          other.chain number origin.child (queue.tail.map encode)) := by
  obtain ⟨child, step⟩ := chain_parsed launches own parsed
  rw [step]
  refine ⟨RanAt.behind denotes (level_ran launches own parsed) above _, ?_⟩
  rw [ContinuesAs, List.drop_append, List.drop_of_length_le (Nat.le_succ _),
    Nat.add_sub_cancel_left, List.drop_one, List.tail_cons, List.nil_append]
  split
  · rfl
  · exact chain_anonymous alike.beneath child number origin.child _

/-- Levels above a level that refuses its arguments are followed by it alone. -/
theorem chain_refusal {reply : Reply}
    (refused : Queue.ofArguments program arguments = .error (.replied (commandName program) reply))
    (above : List Level) (own : Nat) :
    RefusedAt (above ++ origin.chain own program arguments) above.length reply.kind := by
  rw [chain_refused own refused]
  exact ⟨List.length_append, _, reply, List.getElem?_concat_length, rfl, rfl, rfl⟩

/-- A duration before a suffix is reached by the first text of the suffix. -/
theorem chain_reaches {text first : String} {rest : List String} {millis : Millis}
    (launches : origin.Launches (first :: rest)) (alike : origin.Alike other)
    (denotes : Denotes text millis) (above : List Level) (own number : Nat)
    (program : Option Bytes) :
    Reaches (above ++ origin.chain own program ((text :: first :: rest).map encode)) above.length
      text first rest (fun suffix => other.chain number origin.child (suffix.map encode)) where
  escape := by
    rintro rfl
    exact chain_continues (launches.less (List.suffix_cons _ rest)) alike
      (Queue.ofArguments_spells (.escapeSecond denotes rest)) denotes above own number
  help asks := chain_refusal (Queue.ofArguments_asks denotes asks rest program) above own
  version asks := chain_refusal (Queue.ofArguments_asks denotes asks rest program) above own
  attached value flag attaches :=
    chain_refusal (Queue.ofArguments_attaches denotes attaches rest program) above own
  plain plain :=
    chain_continues launches alike (Queue.ofArguments_spells (.plainSecond denotes plain rest))
      denotes above own number

section Suffix

variable {durations : List String} {first : String} {rest : List String}

/-- All durations but the last one run whatever stands behind them, and the last one begins the
chain on what is left. -/
theorem chain_lead (launches : origin.Launches (durations ++ first :: rest))
    (given : durations ≠ []) (denote : ∀ text ∈ durations, ∃ millis, Denotes text millis)
    (own : Nat) (program : Option Bytes) :
    ∃ above number name millis, above.length + 1 = durations.length ∧
      Denotes (durations.getLast given) millis ∧
      (origin.shift above.length).Launches (first :: rest) ∧
      origin.chain own program ((durations ++ first :: rest).map encode) =
        above ++ (origin.shift above.length).chain number name
          ((durations.getLast given :: first :: rest).map encode) ∧
      ∀ place (inside : place + 1 < durations.length),
        RanAt (origin.chain own program ((durations ++ first :: rest).map encode)) place
          durations[place] ((durations ++ first :: rest).drop (place + 1)) := by
  obtain ⟨front, last, rfl⟩ := (List.eq_nil_or_concat' durations).resolve_left given
  rw [List.forall_mem_append, List.forall_mem_singleton] at denote
  obtain ⟨denote, millis, denotes⟩ := denote
  have remaining := launches.less (List.suffix_append (front ++ [last]) (first :: rest))
  rw [List.append_assoc, List.singleton_append] at launches ⊢
  obtain ⟨above, number, name, length, chain, ran⟩ :=
    chain_front launches denote denotes.plain own program
  rw [List.getLast_append_singleton]
  refine ⟨above, number, name, millis, by simp [length], denotes, remaining.shift _, chain, ?_⟩
  intro place inside
  rw [List.length_append, List.length_singleton] at inside
  have within := Nat.lt_of_succ_lt_succ inside
  rw [List.getElem_append_left within, chain]
  exact (ran place within).append _

/-- The first text behind the durations reaches back to the last of them and no further: all
durations before that one run on what follows them. -/
theorem token_reach (launches : origin.Launches (durations ++ first :: rest))
    (alike : origin.Alike other) (given : durations ≠ [])
    (denote : ∀ text ∈ durations, ∃ millis, Denotes text millis) (own number : Nat)
    (program : Option Bytes) :
    let texts := durations ++ first :: rest
    let levels := origin.chain own program (texts.map encode)
    (∀ place (inside : place + 1 < durations.length),
      RanAt levels place durations[place] (texts.drop (place + 1))) ∧
    Reaches levels (durations.length - 1) (durations.getLast given) first rest
      (fun suffix => other.chain number origin.child (suffix.map encode)) := by
  intro texts levels
  obtain ⟨above, count, name, millis, length, denotes, remaining, chain, ran⟩ :=
    chain_lead launches given denote own program
  refine ⟨ran, ?_⟩
  have split : levels = _ := chain
  rw [split, ← length, Nat.add_sub_cancel]
  exact chain_reaches remaining (alike.shift above.length) denotes above count number name

theorem token_reach_attached :
    let surroundings : Surroundings := ⟨.ok (encode "linger"), fun _ _ => .ok 2⟩
    let origin := surroundings.origin (encode "linger")
    RefusedAt (origin.chain 1 none (["5", "-1", "--version=x", "7"].map encode)) 1
      .tooManyValues := by
  intro surroundings origin
  have launches : origin.Launches (["5", "-1"] ++ "--version=x" :: ["7"]) :=
    Surroundings.origin_launches (fun _ => ⟨2, rfl⟩) (by decide) (by decide)
  have alike : origin.Alike origin :=
    Surroundings.origin_alike _ (fun _ => ⟨2, rfl⟩) (fun _ => ⟨2, rfl⟩)
  exact (token_reach launches alike (by decide) (by decide) 1 1 none).2.attached "x" .version rfl

/-- A chain composes with a suffix exactly if the suffix begins with a plain text. -/
theorem suffix_composes (launches : origin.Launches (durations ++ first :: rest))
    (alike : origin.Alike other) (given : durations ≠ [])
    (denote : ∀ text ∈ durations, ∃ millis, Denotes text millis) (own number : Nat)
    (program : Option Bytes) :
    Composes (origin.chain own program ((durations ++ first :: rest).map encode))
      (other.chain number origin.child ((first :: rest).map encode)) durations (first :: rest) ↔
    Plain first := by
  obtain ⟨above, count, name, millis, length, denotes, remaining, chain, ran⟩ :=
    chain_lead launches given denote own program
  have reaches :=
    chain_reaches remaining (alike.shift above.length) denotes above count number name
  rw [← chain] at reaches
  have tail : (durations ++ first :: rest).drop (above.length + 1) = first :: rest := by
    rw [length, List.drop_left]
  constructor
  · rintro ⟨each, _⟩
    have last := each above.length (by omega)
    rw [tail] at last
    exact reaches.plain_of_ran last
  · intro plain
    obtain ⟨last, continues⟩ := reaches.plain plain
    rw [length] at continues
    refine ⟨fun place inside => ?_, continues⟩
    -- Only the last duration stands next to the suffix.
    rcases Nat.lt_or_ge (place + 1) durations.length with earlier | late
    · exact ran place earlier
    · obtain rfl : place = above.length := by omega
      rw [tail]
      simpa [List.getLast_eq_getElem, ← length] using last

theorem suffix_composes_word :
    let surroundings : Surroundings := ⟨.ok (encode "linger"), fun _ _ => .ok 2⟩
    let origin := surroundings.origin (encode "linger")
    Composes (origin.chain 1 none (["5", "-1", "abc", "-x"].map encode))
      (origin.chain 1 origin.child (["abc", "-x"].map encode)) ["5", "-1"] ["abc", "-x"] := by
  intro surroundings origin
  have launches : origin.Launches (["5", "-1"] ++ "abc" :: ["-x"]) :=
    Surroundings.origin_launches (fun _ => ⟨2, rfl⟩) (by decide) (by decide)
  have alike : origin.Alike origin :=
    Surroundings.origin_alike _ (fun _ => ⟨2, rfl⟩) (fun _ => ⟨2, rfl⟩)
  exact (suffix_composes launches alike (by decide) (by decide) 1 1 none).2
    (plain_undashed rfl (by decide))

/-- A flag with a value behind a duration is refused by the level of the duration, which so
launches nothing. -/
theorem suffix_refused :
    let surroundings : Surroundings := ⟨.ok (encode "linger"), fun _ _ => .ok 2⟩
    let origin := surroundings.origin (encode "linger")
    origin.Launches ["0", "--version=x"] ∧ (∃ millis, Denotes "0" millis) ∧
    ¬ Composes (origin.chain 1 origin.child (["0", "--version=x"].map encode))
      (origin.chain 1 origin.child (["--version=x"].map encode)) ["0"] ["--version=x"] := by
  intro surroundings origin
  have launches : origin.Launches ["0", "--version=x"] :=
    Surroundings.origin_launches (fun _ => ⟨2, rfl⟩) (by decide) (by decide)
  have zero : Denotes "0" Millis.zero := Millis.read_ok.1 rfl
  have attaches : Attaches "--version=x" "x" .version := rfl
  refine ⟨launches, ⟨_, zero⟩, ?_⟩
  rintro ⟨ran, _⟩
  have refused : RefusedAt (origin.chain 1 origin.child (["0", "--version=x"].map encode)) 0
      (Reply.attachedValue .version "x").kind :=
    chain_refusal (Queue.ofArguments_attaches zero attaches [] origin.child) [] 1
  exact refused.notRan _ _ (ran 0 (by decide))

end Suffix

end Origin

end LingerChain
