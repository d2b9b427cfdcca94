/-
This file says into which characters and broken runs any bytes fall apart, and that reading takes
them apart in this way.
-/

import LingerChain.Text.Encoding

namespace LingerChain

namespace Bytes

/-- Bytes begin a character if its encoding starts with them. -/
def Begins (bytes : Bytes) : Prop := ∃ character, bytes <+: String.utf8EncodeChar character

/-- A run breaks off in front of other bytes if no character stands there and the run goes on as
long as it begins one. A byte that begins none is a run by itself. -/
structure Broken (run rest : Bytes) : Prop where
  given : run ≠ []
  noCharacter : ∀ character, ¬ String.utf8EncodeChar character <+: run ++ rest
  begun : run.length = 1 ∨ Begins run
  longest : ∀ next ∈ rest.head?, ¬ Begins (run ++ [next])

/-- Bytes are read from the front, character by character, and where no character stands by the
longest run that begins one. -/
inductive Reads : Bytes → Word → Prop where
  | nothing : Reads [] []
  | character (value : Char) {rest : Bytes} {word : Word} (reads : Reads rest word) :
      Reads (String.utf8EncodeChar value ++ rest) (.char value :: word)
  | broken {run rest : Bytes} {word : Word} (broken : Broken run rest) (reads : Reads rest word) :
      Reads (run ++ rest) (.invalid run :: word)

end Bytes

open Bytes

namespace Utf8

/-- The state that the first bytes of a character lead to. -/
structure Pending.Reached (pending : Pending) : Prop where
  sound : pending.Sound
  given : pending.taken ≠ []
  passable : pending.low ≤ pending.high
  same : ∀ bytes, scan none (pending.taken ++ bytes) = scan (some pending) bytes

/-- What has been taken can be completed to a character. -/
theorem completes_begins {later : Nat} {taken : Bytes} {value : Nat} {low high : UInt8}
    (completes : Completes taken value low high later) (least : 128 ≤ low.toNat)
    (most : high.toNat ≤ 191) (passable : low ≤ high) : Begins taken := by
  have bounds := UInt8.le_iff_toNat_le.1 passable
  induction later generalizing taken value low high with
  | zero =>
      have complete := completes (low.toNat - 128) (by omega) (by omega) (by omega)
      exact ⟨_, _, complete.symm⟩
  | succ later ih =>
      have complete := completes (low.toNat - 128) (by omega) (by omega) (by omega)
      obtain ⟨character, more⟩ := ih complete (by decide) (by decide) (by decide) (by decide)
      exact ⟨character, (List.prefix_append _ _).trans more⟩

theorem Pending.Reached.begins {pending : Pending} (reached : pending.Reached) :
    Begins pending.taken :=
  completes_begins reached.sound.completes reached.sound.least reached.sound.most reached.passable

/-- Where an invalid run is read, whatever follows, no character begins. -/
theorem not_begins {bytes run : Bytes}
    (read : ∀ rest, ∃ word, scan none (bytes ++ rest) = .invalid run :: word) : ¬ Begins bytes := by
  rintro ⟨character, rest, whole⟩
  obtain ⟨word, broken⟩ := read rest
  have same := scanChar character []
  rw [List.append_nil, ← whole, broken] at same
  exact Piece.noConfusion (List.cons.inj same).1

/-- A byte is a character, or it is invalid, or it leads on to a state. -/
theorem enter_cases (byte : UInt8) :
    (∃ character, enter byte = ([.char character], none)) ∨
    enter byte = ([.invalid [byte]], none) ∨
    ∃ pending : Pending, enter byte = ([], some pending) ∧ pending.low ≤ pending.high := by
  unfold enter
  split
  · exact .inl ⟨_, rfl⟩
  split
  · exact .inr (.inl rfl)
  split
  · exact .inr (.inr ⟨_, rfl, show (0x80 : UInt8) ≤ 0xBF by decide⟩)
  split
  · refine .inr (.inr ⟨_, rfl, ?_⟩)
    by_cases least : byte = 0xE0
    · subst least
      decide
    · simp only [if_neg least]
      split <;> decide
  split
  · refine .inr (.inr ⟨_, rfl, ?_⟩)
    by_cases least : byte = 0xF0
    · subst least
      decide
    · simp only [if_neg least]
      split <;> decide
  · exact .inr (.inl rfl)

theorem enter_reached {byte : UInt8} {pending : Pending} (entered : enter byte = ([], some pending))
    (passable : pending.low ≤ pending.high) : pending.Reached ∧ pending.taken = [byte] := by
  obtain ⟨sound, whole⟩ := enterSound byte
  rw [entered] at sound whole
  have taken : pending.taken = [byte] := whole
  refine ⟨⟨sound, by simp [taken], passable, fun bytes => ?_⟩, taken⟩
  rw [taken, List.singleton_append, scanCons, step, entered, List.nil_append]

/-- A byte that cannot go on with the character ends an invalid run. -/
theorem scan_cut {pending : Pending} {byte : UInt8}
    (outside : ¬ (pending.low ≤ byte ∧ byte ≤ pending.high)) (rest : Bytes) :
    scan (some pending) (byte :: rest) = .invalid pending.taken :: scan none (byte :: rest) := by
  simp only [scanCons, step, if_neg outside, List.cons_append]

/-- A byte that goes on with the character completes it or leads to the next state. -/
theorem reached_next {pending : Pending} {byte : UInt8} (reached : pending.Reached)
    (inside : pending.low ≤ byte ∧ byte ≤ pending.high) :
    (∃ character, String.utf8EncodeChar character = pending.taken ++ [byte]) ∨
    ∃ next : Pending, next.Reached ∧ next.taken = pending.taken ++ [byte] ∧
      ∀ rest, scan (some pending) (byte :: rest) = scan (some next) rest := by
  obtain ⟨sound, whole⟩ := takeSound reached.sound inside.1 inside.2
  cases later : pending.later with
  | zero =>
      simp only [Pending.take, later, Word.bytes, List.flatMap_cons, List.flatMap_nil, held,
        List.append_nil, Piece.bytes] at whole
      exact .inl ⟨_, whole⟩
  | succ more =>
      have moves : step (some pending) byte = ([], some ⟨pending.taken ++ [byte],
          pending.value * 64 + (byte.toNat - 0x80), more, 0x80, 0xBF⟩) := by
        simp only [step, if_pos inside, Pending.take, later]
      have scanned (rest : Bytes) := scanCons (some pending) byte rest
      simp only [moves, List.nil_append] at scanned
      refine .inr ⟨_, ⟨?_, by simp, show (0x80 : UInt8) ≤ 0xBF by decide, fun bytes => ?_⟩, rfl,
        scanned⟩
      · simp only [Pending.take, later] at sound
        exact sound
      · rw [List.append_assoc, reached.same, List.singleton_append, scanned]

/-- From a reached state on bytes end an invalid run, unless they complete a character. -/
theorem scan_broken {pending : Pending} {bytes : Bytes} (reached : pending.Reached)
    (noCharacter : ∀ character, ¬ String.utf8EncodeChar character <+: pending.taken ++ bytes) :
    ∃ run rest, pending.taken ++ bytes = run ++ rest ∧ Broken run rest ∧
      scan (some pending) bytes = .invalid run :: scan none rest := by
  induction bytes generalizing pending with
  | nil =>
      refine ⟨pending.taken, [], rfl, ⟨reached.given, noCharacter, .inr reached.begins, ?_⟩, rfl⟩
      simp
  | cons byte rest ih =>
      by_cases inside : pending.low ≤ byte ∧ byte ≤ pending.high
      · rcases reached_next reached inside with ⟨character, whole⟩ | ⟨next, onward, taken, moves⟩
        · refine absurd ?_ (noCharacter character)
          rw [whole]
          exact ⟨rest, by simp⟩
        · rw [moves]
          have same : pending.taken ++ byte :: rest = next.taken ++ rest := by simp [taken]
          rw [same] at noCharacter ⊢
          exact ih onward noCharacter
      · refine ⟨pending.taken, byte :: rest, rfl,
          ⟨reached.given, noCharacter, .inr reached.begins, ?_⟩, scan_cut inside rest⟩
        intro next first
        obtain rfl := Option.some.inj first
        refine @not_begins _ pending.taken fun others => ⟨scan none (byte :: others), ?_⟩
        rw [List.append_assoc, reached.same, List.singleton_append, scan_cut inside]

end Utf8

namespace Bytes

/-- Bytes start with a character, or with a run that breaks off, and so they are read. -/
theorem pieces_cases {bytes : Bytes} (given : bytes ≠ []) :
    (∃ character rest, bytes = String.utf8EncodeChar character ++ rest ∧
      pieces bytes = .char character :: pieces rest) ∨
    ∃ run rest, bytes = run ++ rest ∧ Broken run rest ∧
      pieces bytes = .invalid run :: pieces rest := by
  by_cases whole : ∃ character, String.utf8EncodeChar character <+: bytes
  · obtain ⟨character, rest, rfl⟩ := whole
    exact .inl ⟨character, rest, rfl, Utf8.scanChar character rest⟩
  right
  have noCharacter := not_exists.1 whole
  obtain ⟨byte, rest, rfl⟩ := List.exists_cons_of_ne_nil given
  rcases Utf8.enter_cases byte with ⟨character, entered⟩ | entered | ⟨pending, entered, passable⟩
  · obtain ⟨_, encoded⟩ := Utf8.enterSound byte
    simp only [entered, Word.bytes, List.flatMap_cons, List.flatMap_nil, Utf8.held,
      List.append_nil, Piece.bytes] at encoded
    refine absurd ?_ (noCharacter character)
    rw [encoded]
    exact ⟨rest, rfl⟩
  · have read (others : Bytes) :
        Utf8.scan none (byte :: others) = .invalid [byte] :: Utf8.scan none others := by
      rw [Utf8.scanCons, Utf8.step, entered, List.singleton_append]
    refine ⟨[byte], rest, rfl, ⟨by simp, noCharacter, .inl rfl, fun next _ => ?_⟩, read rest⟩
    exact @Utf8.not_begins _ [byte] fun others => ⟨_, read (next :: others)⟩
  · obtain ⟨reached, taken⟩ := Utf8.enter_reached entered passable
    have split := @Utf8.scan_broken pending rest reached
    rw [← reached.same, taken] at split
    exact split noCharacter

theorem reads_pieces (bytes : Bytes) : Reads bytes (pieces bytes) := by
  induction long : bytes.length using Nat.strongRecOn generalizing bytes with
  | ind count ih =>
      by_cases given : bytes = []
      · subst given
        exact .nothing
      rcases pieces_cases given with ⟨character, rest, rfl, read⟩ | ⟨run, rest, rfl, broken, read⟩
      · have some : 0 < (String.utf8EncodeChar character).length :=
          List.length_pos_iff.2 String.utf8EncodeChar_ne_nil
        rw [read]
        rw [List.length_append] at long
        exact .character character (ih _ (by omega) rest rfl)
      · have some : 0 < run.length := List.length_pos_iff.2 broken.given
        rw [read]
        rw [List.length_append] at long
        exact .broken broken (ih _ (by omega) rest rfl)

/-- No longer run breaks off where a run breaks off. -/
theorem Broken.longer {run more rest : Bytes} (broken : Broken run (more ++ rest))
    (longer : Broken (run ++ more) rest) : more = [] := by
  cases more with
  | nil => rfl
  | cons next later =>
      rcases longer.begun with single | begins
      · have given := List.length_pos_iff.2 broken.given
        simp only [List.length_append, List.length_cons] at single
        omega
      · obtain ⟨character, begins⟩ := begins
        refine absurd ⟨character, List.IsPrefix.trans ?_ begins⟩ (broken.longest next rfl)
        exact ⟨later, by simp⟩

/-- Bytes break off at one place. -/
theorem Broken.unique {run rest other others : Bytes} (left : Broken run rest)
    (right : Broken other others) (same : run ++ rest = other ++ others) :
    run = other ∧ rest = others := by
  rcases List.append_eq_append_iff.1 same with ⟨more, rfl, rfl⟩ | ⟨more, rfl, rfl⟩
  · obtain rfl := left.longer right
    simp
  · obtain rfl := right.longer left
    simp

theorem Reads.unique {bytes : Bytes} {word : Word} (reads : Reads bytes word) :
    word = pieces bytes := by
  induction reads with
  | nothing => rfl
  | character value reads ih =>
      rw [ih]
      exact (Utf8.scanChar value _).symm
  | @broken run rest word broken reads ih =>
      have given : run ++ rest ≠ [] := by simp [broken.given]
      rcases pieces_cases given with
        ⟨character, others, whole, _⟩ | ⟨other, others, same, right, read⟩
      · exact absurd ⟨others, whole.symm⟩ (broken.noCharacter character)
      · obtain ⟨rfl, rfl⟩ := broken.unique right same
        rw [read, ih]

end Bytes

end LingerChain
