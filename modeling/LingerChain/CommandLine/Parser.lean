/-
This file goes through the words of a command line and gives them to the parameters, as the settings
of the command allow.
-/

import LingerChain.CommandLine.Request
import LingerChain.CommandLine.Shape

namespace LingerChain

/-- A parser stands at the place of the next value. -/
structure Progress where
  place : Nat
  /-- The parameter at this place has taken a value and takes more. -/
  within : Bool
  escaped : Bool
  /-- The values with their places, in order. -/
  given : List (Nat × Word)

namespace Progress

def start : Progress := ⟨1, false, false, []⟩

def values (progress : Progress) (parameter : Parameter) : List Word :=
  (progress.given.filter fun value => parameter.position = some value.1).map Prod.snd

def has (progress : Progress) (parameter : Parameter) : Bool :=
  !(progress.values parameter).isEmpty

/-- The place stays the same as long as its parameter takes more values. -/
def take (progress : Progress) (parameter : Parameter) (word : Word) : Progress :=
  let given := progress.given ++ [(progress.place, word)]
  if parameter.arity = .many then ⟨progress.place, true, progress.escaped, given⟩
  else ⟨progress.place + 1, false, progress.escaped, given⟩

theorem take_given (progress : Progress) (parameter : Parameter) (word : Word) :
    (progress.take parameter word).given = progress.given ++ [(progress.place, word)] := by
  unfold take
  split <;> rfl

/-- No value is given to two parameters at different places. -/
theorem values_apart (progress : Progress) {first second : Parameter}
    (apart : first.position ≠ second.position) :
    (progress.values first).length + (progress.values second).length ≤ progress.given.length := by
  obtain ⟨place, within, escaped, given⟩ := progress
  simp only [values, List.length_map]
  induction given with
  | nil => simp
  | cons value rest ih =>
      by_cases here : first.position = some value.1
      · have other : second.position ≠ some value.1 := fun same => apart (here.trans same.symm)
        rw [List.filter_cons_of_pos (by simpa using here),
          List.filter_cons_of_neg (by simpa using other), List.length_cons, List.length_cons]
        omega
      · rw [List.filter_cons_of_neg (by simpa using here), List.filter_cons, List.length_cons]
        split
        · rw [List.length_cons]
          omega
        · omega

end Progress

/-- The role of a word says what a command makes of it. -/
inductive Role where
  | escape
  | value
  | asks (flag : Flag)
  | refused (reply : Reply)

namespace Command

variable (command : Command) (progress : Progress)

def allows (setting : Parameter → Bool) : Bool :=
  (command.positional? progress.place).any setting

/-- Every word is a value behind the escape, and among values that may begin with a dash. -/
def onlyValues : Bool :=
  progress.escaped || (progress.within && command.allows progress Parameter.hyphenValues)

/-- A flag takes no value. -/
def longRole (name : Word) (attached : Option Word) : Role :=
  match name.text? with
  | none => .refused (Request.unknownLong name (progress.has command.head))
  | some text =>
      match command.named? text, attached with
      | some flag, none => .asks flag
      | some flag, some value => .refused (.attachedValue flag value.lossy)
      | none, _ =>
          if command.allows progress Parameter.hyphenValues then .value
          else .refused (Request.unknownLong name (progress.has command.head))

/-- Of a group of flags the first one decides. -/
def shortRole (first : Piece) (others : Word) : Role :=
  if command.allows progress Parameter.negativeNumbers && Word.looksNumeric (first :: others) then
    .value
  else if command.allows progress Parameter.hyphenValues &&
      (first :: others).any fun piece => (command.lettered? piece).isNone then
    .value
  else
    match command.lettered? first with
    | some flag => .asks flag
    | none => .refused (Request.unknownShort first others)

def role (word : Word) : Role :=
  if command.onlyValues progress then .value
  else
    match Shape.ofWord word with
    | .escape => .escape
    | .long name attached => command.longRole progress name attached
    | .short first others => command.shortRole progress first others
    | .value => .value

/-- An answer waits until all values before it have been read. -/
def answer (reply : Reply) : Request :=
  match progress.values command.head with
  | [] => .answered reply
  | head :: _ =>
      match Request.readTail (progress.values command.tail) with
      | .ok _ => .headThen head reply
      | .error fault => .headThen head fault

/-- A refusal does not wait for the head, unless the tail has begun behind it. -/
def refuse (reply : Reply) : Request :=
  match progress.values command.head with
  | [] => .answered reply
  | head :: _ => if progress.has command.tail then .headThen head reply else .answered reply

def lacking : List Parameter :=
  command.positionals.filter fun parameter => parameter.required && !progress.has parameter

def finish : Request :=
  match command.lacking progress with
  | [] =>
      match progress.values command.head with
      | [] => .nothing
      | head :: _ => .queue head (progress.values command.tail)
  | missing => command.answer progress (.missing missing)

def read (command : Command) (progress : Progress) : List Word → Request
  | [] => command.finish progress
  | word :: rest =>
      match command.role progress word with
      | .escape => command.read { progress with escaped := true } rest
      | .value =>
          match command.positional? progress.place with
          | some parameter => command.read (progress.take parameter word) rest
          | none => command.refuse progress (.unexpected word)
      | .asks flag => command.answer progress (.requested flag)
      | .refused reply => command.refuse progress reply

def request (words : List Word) : Request := command.read .start words

theorem answer_queue {progress : Progress} {reply : Reply} {head : Word} {tail : List Word} :
    command.answer progress reply ≠ .queue head tail := by
  unfold answer
  split
  · simp
  · split <;> simp

theorem refuse_queue {progress : Progress} {reply : Reply} {head : Word} {tail : List Word} :
    command.refuse progress reply ≠ .queue head tail := by
  unfold refuse
  split
  · simp
  · split <;> simp

/-- A queue has the values of its head and tail from the words. -/
theorem read_queue {progress : Progress} {words tail : List Word} {head : Word}
    (read : command.read progress words = .queue head tail) :
    ∃ final : Progress, final.given.length ≤ progress.given.length + words.length ∧
      head ∈ final.values command.head ∧ final.values command.tail = tail := by
  induction words generalizing progress with
  | nil =>
      refine ⟨progress, Nat.le_refl _, ?_⟩
      simp only [Command.read, finish] at read
      split at read
      · split at read
        · contradiction
        · rename_i given
          injection read with first others
          exact ⟨by simp [given, first], others⟩
      · exact absurd read (answer_queue command)
  | cons word rest ih =>
      simp only [Command.read] at read
      split at read
      · obtain ⟨final, bound, values⟩ := ih read
        exact ⟨final, Nat.le_succ_of_le bound, values⟩
      · split at read
        · obtain ⟨final, bound, values⟩ := ih read
          rw [Progress.take_given, List.length_append] at bound
          exact ⟨final, by simpa [Nat.add_assoc, Nat.add_comm 1] using bound, values⟩
        · exact absurd read (refuse_queue command)
      · exact absurd read (answer_queue command)
      · exact absurd read (refuse_queue command)

/-- The head is a word that the tail does not have. -/
theorem request_queue (apart : command.head.position ≠ command.tail.position)
    {words tail : List Word} {head : Word} (found : command.request words = .queue head tail) :
    tail.length < words.length := by
  obtain ⟨final, bound, first, rfl⟩ := read_queue command found
  have heads := List.length_pos_of_mem first
  have both := final.values_apart apart
  have none : Progress.start.given.length = 0 := rfl
  omega

end Command

end LingerChain
