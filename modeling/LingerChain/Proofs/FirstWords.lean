/-
This file reads the words of a command line by the first two of them alone, and shows that the
settings of the command come to the same.
-/

import LingerChain.CommandLine.Queue

namespace LingerChain

namespace Flag

def ofName? (name : String) : Option Flag := all.find? fun flag => flag.name = name

def ofLetter? (letter : Char) : Option Flag := all.find? fun flag => flag.letter = letter

end Flag

namespace Request

/-- A flag takes no value. -/
def ofFlag (flag : Flag) : Option Word → Reply
  | none => .requested flag
  | some value => .attachedValue flag value.lossy

def ofLetter? (piece : Piece) : Option Flag := piece.char?.bind Flag.ofLetter?

/-- The second word may still be a flag. Anything else starts the tail. -/
def afterHead (head : Word) : List Word → Request
  | [] => queue head []
  | word :: rest =>
      match Shape.ofWord word with
      | .escape => queue head rest
      | .long name attached =>
          match name.text? with
          | none => answered (unknownLong name true)
          | some text =>
              match Flag.ofName? text, attached with
              | none, _ => queue head (word :: rest)
              | some flag, none => headThen head (.requested flag)
              | some flag, some value => answered (ofFlag flag (some value))
      | .short first others =>
          match ofLetter? first with
          | some flag =>
              if others.all fun piece => (ofLetter? piece).isSome then
                headThen head (.requested flag)
              else queue head (word :: rest)
          | none => queue head (word :: rest)
      | .value => queue head (word :: rest)

def ofWords : List Word → Request
  | [] => nothing
  | word :: rest =>
      match Shape.ofWord word with
      | .escape =>
          match rest with
          | [] => nothing
          | head :: tail => queue head tail
      | .long name attached =>
          match name.text?.bind Flag.ofName? with
          | some flag => answered (ofFlag flag attached)
          | none => answered (unknownLong name false)
      | .short first others =>
          if Word.looksNumeric (first :: others) then afterHead word rest
          else
            match ofLetter? first with
            | some flag => answered (.requested flag)
            | none => answered (unknownShort first others)
      | .value => afterHead word rest

end Request

/-- The head has been taken, and no word behind it. -/
def Progress.behind (head : Word) : Progress := ⟨2, false, false, [(1, head)]⟩

namespace Command

theorem onlyValues_take {command : Command} {progress : Progress} {parameter : Parameter}
    (many : parameter.arity = .many) (word : Word) (only : command.onlyValues progress = true) :
    command.onlyValues (progress.take parameter word) = true := by
  unfold onlyValues at only ⊢
  unfold Progress.take
  rw [if_pos many]
  simp only [Bool.or_eq_true, Bool.and_eq_true] at only ⊢
  exact only.imp id fun within => ⟨trivial, within.2⟩

/-- Where every word is a value, a parameter that takes many values takes them all. -/
theorem read_values {command : Command} {progress : Progress} {parameter : Parameter}
    (there : command.positional? progress.place = some parameter) (many : parameter.arity = .many)
    (only : command.onlyValues progress = true) (words : List Word) :
    ∃ final : Progress, command.read progress words = command.finish final ∧
      final.given = progress.given ++ words.map (progress.place, ·) := by
  induction words generalizing progress with
  | nil => exact ⟨progress, rfl, by simp⟩
  | cons word rest ih =>
      have place : (progress.take parameter word).place = progress.place := by
        rw [Progress.take, if_pos many]
      obtain ⟨final, read, given⟩ := @ih (progress.take parameter word) (by rwa [place])
        (onlyValues_take many word only)
      have value : command.role progress word = .value := by rw [role, if_pos only]
      refine ⟨final, ?_, ?_⟩
      · simp only [Command.read, value, there, read]
      · rw [given, place, Progress.take_given]
        simp

/-- The flags of the command are the ones that stand in no place. -/
theorem flag_chain (spelt : Parameter → Bool) :
    chain.flag? spelt = Flag.all.find? fun flag => spelt (.ofFlag flag) := by
  have placed : (chain.positionals.find? fun parameter =>
      parameter.position = none ∧ spelt parameter) = none := rfl
  have flags : (fun parameter : Parameter => decide (parameter.position = none ∧ spelt parameter)) ∘
      Parameter.ofFlag = fun flag => spelt (.ofFlag flag) := by
    funext flag
    simp [Parameter.ofFlag]
  rw [flag?, parameters, List.find?_append, placed, Option.none_or, Command.flags, List.find?_map,
    flags]
  cases Flag.all.find? fun flag => spelt (.ofFlag flag) with
  | none => rfl
  | some flag => cases flag <;> rfl

theorem named_chain (name : String) : chain.named? name = Flag.ofName? name :=
  flag_chain _

theorem lettered_chain (piece : Piece) : chain.lettered? piece = Request.ofLetter? piece := by
  have lettered (letter : Char) :
      chain.flag? (fun parameter => parameter.letter = some letter) = Flag.ofLetter? letter := by
    simp [flag_chain, Parameter.ofFlag, Flag.ofLetter?]
  rw [lettered?, Request.ofLetter?, funext lettered]

theorem values_chain {progress : Progress} {head : Word} {tail : List Word}
    (given : progress.given = (1, head) :: tail.map (2, ·)) :
    progress.values chain.head = [head] ∧ progress.values chain.tail = tail := by
  unfold Progress.values
  rw [given]
  constructor
  · simp [chain]
  · simp [chain, List.filter_map, Function.comp_def]

theorem finish_chain {progress : Progress} {head : Word} {tail : List Word}
    (given : progress.given = (1, head) :: tail.map (2, ·)) :
    chain.finish progress = .queue head tail := by
  obtain ⟨heads, tails⟩ := values_chain given
  have nothing : chain.lacking progress = [] := rfl
  simp only [finish, nothing, heads, tails]

/-- Where only values follow, these are the tail. -/
theorem read_tail {progress : Progress} {head : Word} {tail : List Word}
    (place : progress.place = 2) (given : progress.given = (1, head) :: tail.map (2, ·))
    (only : chain.onlyValues progress = true) (words : List Word) :
    chain.read progress words = .queue head (tail ++ words) := by
  have there : chain.positional? progress.place = some chain.tail := by
    rw [place]
    rfl
  obtain ⟨final, read, all⟩ := read_values there rfl only words
  rw [read]
  apply finish_chain
  rw [all, given, place]
  simp

/-- Behind the head only the next word may still be a flag. -/
theorem read_behind (head : Word) (words : List Word) :
    chain.read (.behind head) words = Request.afterHead head words := by
  have refused (reply : Reply) : chain.refuse (.behind head) reply = .answered reply := rfl
  have answered (reply : Reply) : chain.answer (.behind head) reply = .headThen head reply := rfl
  have hyphens : chain.allows (.behind head) Parameter.hyphenValues = true := rfl
  have numbers : chain.allows (.behind head) Parameter.negativeNumbers = false := rfl
  have only : chain.onlyValues (.behind head) = false := rfl
  have there : chain.positional? (Progress.behind head).place = some chain.tail := rfl
  cases words with
  | nil => exact finish_chain rfl
  | cons word rest =>
      have kept : chain.read ((Progress.behind head).take chain.tail word) rest =
          .queue head (word :: rest) := @read_tail _ head [word] rfl rfl rfl rest
      cases shape : Shape.ofWord word with
      | escape =>
          simp only [Command.read, role, only, shape, Request.afterHead]
          exact @read_tail _ head [] rfl rfl rfl rest
      | long name attached =>
          simp only [Command.read, role, only, shape, longRole, hyphens, named_chain, there, kept,
            Request.afterHead]
          cases name.text? with
          | none => exact refused _
          | some text =>
              simp only
              cases Flag.ofName? text with
              | none => rfl
              | some flag =>
                  cases attached with
                  | none => exact answered _
                  | some value => exact refused _
      | short first others =>
          simp only [Command.read, role, only, shape, shortRole, hyphens, numbers, lettered_chain,
            there, kept, Request.afterHead]
          have any : (others.any fun piece => (Request.ofLetter? piece).isNone) =
              !(others.all fun piece => (Request.ofLetter? piece).isSome) := by
            simp [List.not_all_eq_any_not]
          rw [List.any_cons, any]
          cases Request.ofLetter? first with
          | none => rfl
          | some flag => cases others.all fun piece => (Request.ofLetter? piece).isSome <;> rfl
      | value =>
          simp only [Command.read, role, only, shape, there, kept, Request.afterHead]
          rfl

/-- The settings of the command come to the first two words. -/
theorem request_chain (words : List Word) : chain.request words = Request.ofWords words := by
  have refused (reply : Reply) : chain.refuse .start reply = .answered reply := rfl
  have answered (reply : Reply) : chain.answer .start reply = .answered reply := rfl
  have hyphens : chain.allows .start Parameter.hyphenValues = false := rfl
  have numbers : chain.allows .start Parameter.negativeNumbers = true := rfl
  have only : chain.onlyValues .start = false := rfl
  have there : chain.positional? Progress.start.place = some chain.head := rfl
  rw [request]
  cases words with
  | nil => rfl
  | cons word rest =>
      have kept : chain.read (Progress.start.take chain.head word) rest =
          Request.afterHead word rest := read_behind word rest
      cases shape : Shape.ofWord word with
      | escape =>
          simp only [Command.read, role, only, shape, Request.ofWords]
          cases rest with
          | nil => rfl
          | cons head tail =>
              exact @read_tail ⟨2, false, true, [(1, head)]⟩ head [] rfl rfl rfl tail
      | long name attached =>
          simp only [Command.read, role, only, shape, longRole, hyphens, named_chain,
            Request.ofWords]
          cases name.text? with
          | none => exact refused _
          | some text =>
              simp only [Option.bind_some]
              cases Flag.ofName? text with
              | none => exact refused _
              | some flag =>
                  cases attached with
                  | none => exact answered _
                  | some value => exact refused _
      | short first others =>
          simp only [Command.read, role, only, shape, shortRole, hyphens, numbers, lettered_chain,
            there, kept, Request.ofWords]
          cases Word.looksNumeric (first :: others) with
          | true => rfl
          | false =>
              cases Request.ofLetter? first with
              | none => exact refused _
              | some flag => exact answered _
      | value =>
          simp only [Command.read, role, only, shape, there, kept, Request.ofWords]
          rfl

end Command

/-- A command line is settled by its first two words. -/
theorem Queue.ofArguments_firstWords (program : Option Bytes) (arguments : List Bytes) :
    ofArguments program arguments =
      (Request.ofWords (arguments.map Bytes.pieces)).settle program := by
  rw [ofArguments, Command.request_chain]

end LingerChain
