/-
This file reads quoted text back item by item and shows that no two queues, launches or failed
launches look the same in the log.
-/

import LingerChain.Log.Note
import LingerChain.Pattern.Escape
import LingerChain.Proofs.Argument
import LingerChain.Proofs.Fraction
import LingerChain.Proofs.RoundTrip
import LingerChain.Queue

namespace LingerChain

namespace Quoted

open Pattern (hexValue? charOfNat?)

/-- An item is what one plain letter or one escape stands for. -/
inductive Item where
  | char (value : Char)
  | byte (value : UInt8)
  deriving DecidableEq, Repr

namespace Item

def text : Item → List Char
  | char value => escapeChar value
  | byte value => escapeByte value

def bytes : Item → Bytes
  | char value => String.utf8EncodeChar value
  | byte value => [value]

def ofPiece : Piece → List Item
  | .char value => [char value]
  | .invalid bytes => bytes.map byte

end Item

/-- Reads the digits of a number up to the closing brace. -/
def readNumber (sofar : Nat) : List Char → Option (Nat × List Char)
  | [] => none
  | letter :: rest =>
      if letter = '\x7d' then some (sofar, rest)
      else do readNumber (sofar * 16 + (← hexValue? letter)) rest

/-- The letter behind the slash tells which item is written. -/
def readEscape : List Char → Option (Item × List Char)
  | '0' :: rest => some (.char '\x00', rest)
  | 't' :: rest => some (.char '\t', rest)
  | 'r' :: rest => some (.char '\r', rest)
  | 'n' :: rest => some (.char '\n', rest)
  | '"' :: rest => some (.char mark, rest)
  | '\\' :: rest => some (.char slash, rest)
  | 'u' :: '\x7b' :: rest => do
      let (number, behind) ← readNumber 0 rest
      return (.char (← charOfNat? number), behind)
  | 'x' :: high :: low :: rest => do
      return (.byte (UInt8.ofNat ((← hexValue? high) * 16 + (← hexValue? low))), rest)
  | _ => none

/-- The mark at the end is no item. -/
def readItem : List Char → Option (Item × List Char)
  | [] => none
  | letter :: rest =>
      if letter = mark then none
      else if letter = slash then readEscape rest
      else some (.char letter, rest)

theorem hexValue?_digitChar {value : Nat} (small : value < 16) :
    hexValue? value.digitChar = some value := by
  have every : ∀ digit : Fin 16, hexValue? digit.val.digitChar = some digit.val := by decide
  exact every ⟨value, small⟩

theorem hexValue?_hexDigit {value : Nat} (small : value < 16) :
    hexValue? (hexDigit value) = some value := by
  have every : ∀ digit : Fin 16, hexValue? (hexDigit digit.val) = some digit.val := by decide
  exact every ⟨value, small⟩

theorem readNumber_digit (sofar : Nat) {digit : Nat} (small : digit < 16) (rest : List Char) :
    readNumber sofar (digit.digitChar :: rest) = readNumber (sofar * 16 + digit) rest := by
  have value := hexValue?_digitChar small
  have brace : digit.digitChar ≠ '\x7d' := by
    intro same
    rw [same] at value
    contradiction
  rw [readNumber, if_neg brace, value]
  rfl

/-- The induction is on the number, whose last digit is read last. -/
theorem readNumber_toDigits (number : Nat) (rest : List Char) :
    readNumber 0 (Nat.toDigits 16 number ++ rest) = readNumber number rest := by
  induction number using Nat.strongRecOn generalizing rest with
  | ind number ih =>
      rcases Nat.lt_or_ge number 16 with small | large
      · rw [Nat.toDigits_of_lt_base small, List.singleton_append, readNumber_digit 0 small,
          Nat.zero_mul, Nat.zero_add]
      · rw [Nat.toDigits_of_base_le (by decide) large, List.append_assoc, List.singleton_append,
          ih (number / 16) (by omega), readNumber_digit _ (Nat.mod_lt number (by decide)),
          Nat.div_add_mod']

theorem charOfNat?_toNat (character : Char) : charOfNat? character.toNat = some character := by
  have valid : character.toNat.isValidChar := character.valid
  rw [charOfNat?, if_pos valid, Char.ofNat_toNat]

theorem readItem_escapeChar (character : Char) (rest : List Char) :
    readItem (escapeChar character ++ rest) = some (.char character, rest) := by
  unfold escapeChar
  split_ifs with zero tab back line marked slashed hidden
  · subst zero
    rfl
  · subst tab
    rfl
  · subst back
    rfl
  · subst line
    rfl
  · subst marked
    rfl
  · subst slashed
    rfl
  · have number : readNumber 0 (Nat.toDigits 16 character.toNat ++ '\x7d' :: rest) =
        some (character.toNat, rest) := readNumber_toDigits _ _
    rw [byNumber, List.append_assoc, List.append_assoc]
    change readEscape ('u' :: '\x7b' :: (Nat.toDigits 16 character.toNat ++ '\x7d' :: rest)) = _
    simp [readEscape, number, charOfNat?_toNat]
  · rw [List.singleton_append, readItem, if_neg marked, if_neg slashed]

theorem readItem_escapeByte (byte : UInt8) (rest : List Char) :
    readItem (escapeByte byte ++ rest) = some (.byte byte, rest) := by
  have less : byte.toNat < 256 := byte.toNat_lt
  have high : hexValue? (hexDigit (byte.toNat / 16)) = some (byte.toNat / 16) :=
    hexValue?_hexDigit (by omega)
  have low : hexValue? (hexDigit (byte.toNat % 16)) = some (byte.toNat % 16) :=
    hexValue?_hexDigit (by omega)
  change readEscape ('x' :: hexDigit (byte.toNat / 16) :: hexDigit (byte.toNat % 16) :: rest) = _
  simp only [readEscape, high, low, Option.bind_eq_bind, Option.bind_some, Option.pure_def]
  rw [Nat.div_add_mod', UInt8.ofNat_toNat]

/-- An item is read back from its text, whatever follows. -/
theorem readItem_text (item : Item) (rest : List Char) :
    readItem (item.text ++ rest) = some (item, rest) := by
  cases item with
  | char value => exact readItem_escapeChar value rest
  | byte value => exact readItem_escapeByte value rest

theorem readItem_mark (rest : List Char) : readItem (mark :: rest) = none := by
  rw [readItem, if_pos rfl]

/-- Between marks stands one row of items. -/
theorem items_unique {first second : List Item} {rest others : List Char}
    (same : first.flatMap Item.text ++ mark :: rest = second.flatMap Item.text ++ mark :: others) :
    first = second ∧ rest = others := by
  induction first generalizing second with
  | nil =>
      cases second with
      | nil => exact ⟨rfl, (List.cons.inj same).2⟩
      | cons item later =>
          have read := congrArg readItem same
          rw [List.flatMap_cons, List.append_assoc, readItem_text, List.flatMap_nil,
            List.nil_append, readItem_mark] at read
          contradiction
  | cons item later ih =>
      have read := congrArg readItem same
      rw [List.flatMap_cons, List.append_assoc, readItem_text] at read
      cases second with
      | nil =>
          rw [List.flatMap_nil, List.nil_append, readItem_mark] at read
          contradiction
      | cons other more =>
          rw [List.flatMap_cons, List.append_assoc, readItem_text] at read
          obtain ⟨rfl, behind⟩ := Prod.mk.inj (Option.some.inj read)
          obtain ⟨rfl, ends⟩ := ih behind
          exact ⟨rfl, ends⟩

theorem word_items (word : Word) :
    (Quoted.word word).toList =
      mark :: (word.flatMap Item.ofPiece).flatMap Item.text ++ [mark] := by
  have items (piece : Piece) : (Item.ofPiece piece).flatMap Item.text = escapePiece piece := by
    cases piece with
    | char value => exact List.flatMap_singleton Item.text _
    | invalid bytes => exact List.flatMap_map _ _ _
  rw [Quoted.word, String.toList_ofList, List.flatMap_assoc, funext items]

theorem bytes_items (word : Word) :
    (word.flatMap Item.ofPiece).flatMap Item.bytes = word.bytes := by
  have items (piece : Piece) : (Item.ofPiece piece).flatMap Item.bytes = piece.bytes := by
    cases piece with
    | char value => exact List.flatMap_singleton Item.bytes _
    | invalid bytes => exact (List.flatMap_map _ _ _).trans (List.flatMap_singleton' bytes)
  rw [List.flatMap_assoc, funext items, Word.bytes]

end Quoted

open Quoted

/-- Quoted bytes are read back, whatever stands behind the closing mark. -/
theorem quoteBytes_unique {first second : Bytes} {rest others : List Char}
    (same : (quoteBytes first).toList ++ rest = (quoteBytes second).toList ++ others) :
    first = second ∧ rest = others := by
  rw [quoteBytes, quoteBytes, word_items, word_items, List.cons_append, List.cons_append,
    List.append_assoc, List.append_assoc] at same
  obtain ⟨items, ends⟩ := items_unique (List.cons.inj same).2
  have bytes := congrArg (List.flatMap Item.bytes) items
  rw [bytes_items, bytes_items, bytesPieces, bytesPieces] at bytes
  exact ⟨bytes, ends⟩

theorem quote_unique {first second : String} {rest others : List Char}
    (same : (quote first).toList ++ rest = (quote second).toList ++ others) :
    first = second ∧ rest = others := by
  have encoded (text : String) : quote text = quoteBytes (encode text) := by
    rw [quote, quoteBytes, piecesEncode]
  rw [encoded, encoded] at same
  obtain ⟨bytes, ends⟩ := quoteBytes_unique same
  exact ⟨Bytes.encode_injective bytes, ends⟩

theorem quote_marked (text : String) : ∃ letters, (quote text).toList = mark :: letters :=
  ⟨_, word_items _⟩

/-- The texts behind the first one in a list stand behind commas. -/
def laterTexts (texts : List String) : List Char :=
  texts.flatMap fun text => ',' :: ' ' :: (quote text).toList

theorem quoteList_cons (text : String) (texts : List String) :
    (quoteList (text :: texts)).toList =
      '[' :: ((quote text).toList ++ laterTexts texts ++ [']']) := by
  have joined : (", ".intercalate ((text :: texts).map quote)).toList =
      (quote text).toList ++ laterTexts texts := by
    induction texts generalizing text with
    | nil => simp [laterTexts]
    | cons next more ih =>
        have split := ih next
        rw [List.map_cons] at split
        rw [List.map_cons, List.map_cons, String.intercalate_cons_cons, String.toList_append,
          String.toList_append, split]
        simp [laterTexts]
  have opening : "[".toList = ['['] := rfl
  have closing : "]".toList = [']'] := rfl
  rw [quoteList, String.toList_append, String.toList_append, joined, opening, closing,
    List.singleton_append, List.cons_append]

theorem laterTexts_unique {first second : List String} {rest others : List Char}
    (same : laterTexts first ++ ']' :: rest = laterTexts second ++ ']' :: others) :
    first = second ∧ rest = others := by
  induction first generalizing second with
  | nil =>
      cases second with
      | nil => exact ⟨rfl, (List.cons.inj same).2⟩
      | cons text more => simp [laterTexts] at same
  | cons text more ih =>
      cases second with
      | nil => simp [laterTexts] at same
      | cons other later =>
          simp only [laterTexts, List.flatMap_cons, List.cons_append, List.append_assoc,
            List.cons.injEq, true_and] at same
          obtain ⟨rfl, behind⟩ := quote_unique same
          obtain ⟨rfl, ends⟩ := ih behind
          exact ⟨rfl, ends⟩

/-- A quoted list is read back, whatever stands behind the closing bracket. -/
theorem quoteList_unique {first second : List String} {rest others : List Char}
    (same : (quoteList first).toList ++ rest = (quoteList second).toList ++ others) :
    first = second ∧ rest = others := by
  -- Behind the bracket of a list stands a mark, unless it is empty.
  have different {text : String} {more : List String} {rest others : List Char} :
      (quoteList []).toList ++ rest ≠ (quoteList (text :: more)).toList ++ others := by
    have empty : (quoteList []).toList = ['[', ']'] := by decide
    obtain ⟨letters, marked⟩ := quote_marked text
    simp [empty, quoteList_cons, marked, mark]
  cases first with
  | nil =>
      cases second with
      | nil => exact ⟨rfl, List.append_cancel_left same⟩
      | cons other later => exact absurd same different
  | cons text more =>
      cases second with
      | nil => exact absurd same.symm different
      | cons other later =>
          simp only [quoteList_cons, List.cons_append, List.append_assoc, List.cons.injEq,
            true_and, List.nil_append] at same
          obtain ⟨rfl, behind⟩ := quote_unique same
          obtain ⟨rfl, ends⟩ := laterTexts_unique behind
          exact ⟨rfl, ends⟩

/-- The decimal form of a duration has a sign and digits, and so no comma. -/
theorem Millis.text_letters (millis : Millis) : ∀ letter ∈ millis.text.toList, letter ≠ ',' := by
  obtain ⟨sign, digits, spelt, -, decimal, -⟩ := millis.text_denotes
  rw [spelt, List.forall_mem_append]
  refine ⟨by cases sign <;> simp [Sign.text], fun digit member => ?_⟩
  rintro rfl
  exact absurd (decimal ',' member) (by decide)

theorem Millis.text_injective {first second : Millis} (same : first.text = second.text) :
    first = second := by
  have denotes := first.text_denotes
  rw [same] at denotes
  exact denotes.unique second.text_denotes

namespace Queue

theorem toList_text (head : Millis) (tail : List String) :
    (text ⟨head, tail⟩).toList =
      "DurationQueue \x7b head: ".toList ++ (head.text.toList ++
        (", tail: ".toList ++ ((quoteList tail).toList ++ " \x7d".toList))) := by
  have written : text ⟨head, tail⟩ = "DurationQueue \x7b head: " ++ head.text ++ ", tail: " ++
      quoteList tail ++ " \x7d" := rfl
  rw [written, String.toList_append, String.toList_append, String.toList_append,
    String.toList_append, List.append_assoc, List.append_assoc, List.append_assoc]

/-- The head of a queue ends at the first comma, and the tail begins behind it. -/
theorem text_injective {first second : Queue} (same : first.text = second.text) :
    first = second := by
  obtain ⟨head, tail⟩ := first
  obtain ⟨other, texts⟩ := second
  have whole := congrArg String.toList same
  rw [toList_text, toList_text] at whole
  have apart (head : Millis) : ∀ letter ∈ head.text.toList, (letter != ',') = true :=
    fun letter member => bne_iff_ne.2 (head.text_letters letter member)
  obtain ⟨heads, tails⟩ := front_unique (apart head) (apart other) (by simp) (by simp)
    (List.append_cancel_left whole)
  obtain ⟨rfl, -⟩ := quoteList_unique (List.append_cancel_left tails)
  rw [Millis.text_injective (String.toList_inj.1 heads)]

end Queue

namespace Note

theorem message_spawned (executable : Bytes) (arguments : List String) (child : Nat) :
    ((spawned executable arguments child).message .full).toList =
      "Spawned ".toList ++ ((quoteBytes executable).toList ++
        ' ' :: ((quoteList arguments).toList ++ (" as ".toList ++ (toString child).toList))) := by
  have text : (spawned executable arguments child).message .full =
      "Spawned " ++ quoteBytes executable ++ " " ++ quoteList arguments ++ " as " ++
        toString child := rfl
  rw [text]
  simp

theorem message_spawned_injective {executable file : Bytes} {arguments texts : List String}
    {child number : Nat}
    (same : (spawned executable arguments child).message .full =
      (spawned file texts number).message .full) :
    executable = file ∧ arguments = texts ∧ child = number := by
  have whole := congrArg String.toList same
  rw [message_spawned, message_spawned] at whole
  obtain ⟨files, behind⟩ := quoteBytes_unique (List.append_cancel_left whole)
  obtain ⟨lists, ends⟩ := quoteList_unique (List.cons.inj behind).2
  have numbers := List.append_cancel_left ends
  rw [Nat.toString_eq_ofList_toDigits, Nat.toString_eq_ofList_toDigits, String.toList_ofList,
    String.toList_ofList] at numbers
  exact ⟨files, lists, toDigits_injective numbers⟩

end Note

namespace Failure

theorem message_noChild (executable : Bytes) (fault : SystemFault) :
    ((blocked (.noChild executable fault)).message .full).toList =
      "Could not spawn ".toList ++
        ((quoteBytes executable).toList ++ (": ".toList ++ fault.message.toList)) := by
  have text : (blocked (.noChild executable fault)).message .full =
      "Could not spawn " ++ quoteBytes executable ++ ": " ++ fault.message := rfl
  rw [text]
  simp

theorem message_noChild_injective {executable file : Bytes} {fault cause : SystemFault}
    (same : (blocked (.noChild executable fault)).message .full =
      (blocked (.noChild file cause)).message .full) :
    executable = file ∧ fault.message = cause.message := by
  have whole := congrArg String.toList same
  rw [message_noChild, message_noChild] at whole
  obtain ⟨files, behind⟩ := quoteBytes_unique (List.append_cancel_left whole)
  exact ⟨files, String.toList_inj.1 (List.append_cancel_left behind)⟩

end Failure

/-- No content of a text or a path makes two records look the same. Two queues are written alike
only if they are equal, two launches only if they agree in the file, the arguments and the number of
the child, and two launches that fail only if they agree in the file and the message of the
fault. -/
theorem quoted_unambiguous :
    (∀ first second : Queue, first.text = second.text ↔ first = second) ∧
    (∀ (executable file : Bytes) (arguments texts : List String) (child number : Nat),
      (Note.spawned executable arguments child).message .full =
          (Note.spawned file texts number).message .full ↔
        executable = file ∧ arguments = texts ∧ child = number) ∧
    ∀ (executable file : Bytes) (fault cause : SystemFault),
      (Failure.blocked (.noChild executable fault)).message .full =
          (Failure.blocked (.noChild file cause)).message .full ↔
        executable = file ∧ fault.message = cause.message := by
  refine ⟨fun first second => ⟨Queue.text_injective, congrArg Queue.text⟩,
    fun executable file arguments texts child number => ⟨Note.message_spawned_injective, ?_⟩,
    fun executable file fault cause => ⟨Failure.message_noChild_injective, ?_⟩⟩
  · rintro ⟨rfl, rfl, rfl⟩
    rfl
  · rintro ⟨rfl, messages⟩
    rw [← String.toList_inj, Failure.message_noChild, Failure.message_noChild, messages]

end LingerChain
