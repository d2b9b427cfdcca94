/-
This file holds what the words of a command line come to, and reads the values among them.
-/

import LingerChain.CommandLine.Reply

namespace LingerChain

/-- A request says what the words come to before any value is read. -/
inductive Request where
  | nothing
  | answered (reply : Reply)
  /-- The reply is given only if the head can be read. -/
  | headThen (head : Word) (reply : Reply)
  | queue (head : Word) (tail : List Word)

namespace Request

def unknownLong (name : Word) (headGiven : Bool) : Reply :=
  .unknownArgument ("--" ++ name.lossy) (Similarity.closest name.lossy) headGiven

/-- Of a group of letters the first one decides, and bytes that are no text stand together. -/
def unknownShort (first : Piece) (others : Word) : Reply :=
  match first with
  | .char letter => .unknownArgument ("-" ++ letter.toString) none false
  | .invalid _ => .unknownArgument ("-" ++ Word.lossy (first :: others)) none false

/-- A head is text, and the text is a duration. -/
def readHead (word : Word) : Except Reply Millis :=
  match word.text? with
  | none => .error .notText
  | some text =>
      match Millis.read text.toList with
      | .ok head => .ok head
      | .error fault => .error (.badHead text fault)

/-- The tail is text, whatever it says. -/
def readTail (words : List Word) : Except Reply (List String) :=
  match words.mapM Word.text? with
  | some tail => .ok tail
  | none => .error .notText

theorem readTailLength {words : List Word} {texts : List String}
    (read : readTail words = .ok texts) : texts.length = words.length := by
  unfold readTail at read
  split at read
  · rename_i tail mapped
    injection read with same
    subst same
    induction words generalizing tail with
    | nil => simp_all
    | cons word rest ih =>
        simp only [List.mapM_cons, Option.pure_def, Option.bind_eq_bind, Option.bind_eq_some_iff,
          Option.some.injEq] at mapped
        obtain ⟨text, _, texts, others, rfl⟩ := mapped
        simp [ih texts others]
  · contradiction

end Request

end LingerChain
