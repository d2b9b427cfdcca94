/-
This file gives the four forms of a command line that yields a queue and shows that there are no
others.
-/

import LingerChain.CommandLine.Queue
import LingerChain.Proofs.Numeral
import LingerChain.Proofs.Numeric
import LingerChain.Proofs.Token

namespace LingerChain

/-- The escape stands before the head or behind it, or the head stands alone or before a plain
text. -/
inductive Form where
  | escapeFirst
  | escapeSecond
  | headAlone
  | plainSecond
  deriving DecidableEq, Repr

/-- Each form of a command line spells out a queue. -/
inductive Spells : Form → List String → Queue → Prop where
  | escapeFirst {head : String} {millis : Millis} (denotes : Denotes head millis)
      (tail : List String) : Spells .escapeFirst ("--" :: head :: tail) ⟨millis, tail⟩
  | escapeSecond {head : String} {millis : Millis} (denotes : Denotes head millis)
      (tail : List String) : Spells .escapeSecond (head :: "--" :: tail) ⟨millis, tail⟩
  | headAlone {head : String} {millis : Millis} (denotes : Denotes head millis) :
      Spells .headAlone [head] ⟨millis, []⟩
  | plainSecond {head next : String} {millis : Millis} (denotes : Denotes head millis)
      (plain : Plain next) (tail : List String) :
      Spells .plainSecond (head :: next :: tail) ⟨millis, next :: tail⟩

/-- Behind the dash of a duration stands a digit. -/
theorem Denotes.dashed {text : String} {millis : Millis} (denotes : Denotes text millis)
    {second : Char} {others : List Char} (spelt : text.toList = '-' :: second :: others) :
    second.isDigit = true ∧ ∀ other ∈ others, other.isDigit = true := by
  obtain ⟨sign, digits, written, _, decimal, _⟩ := denotes
  rw [spelt] at written
  cases sign with
  | none =>
      subst written
      exact absurd (decimal '-' List.mem_cons_self) (by decide)
  | plus =>
      injection written with plus
      exact absurd plus (by decide)
  | minus =>
      injection written with _ written
      subst written
      exact List.forall_mem_cons.1 decimal

/-- A duration is a plain text, whatever its sign. -/
theorem Denotes.plain {text : String} {millis : Millis} (denotes : Denotes text millis) :
    Plain text where
  notEscape := by
    rintro rfl
    exact absurd (denotes.dashed rfl).1 (by decide)
  notAsked flag asks := by
    rcases asks_spelt.1 asks with spelt | ⟨others, spelt, _⟩
    · exact absurd (denotes.dashed spelt).1 (by decide)
    · exact absurd (denotes.dashed spelt).1 (by cases flag <;> decide)
  notAttached value flag attaches :=
    absurd (denotes.dashed (attaches_spelt.1 attaches)).1 (by decide)

/-- A text in first place stands for a head unless a dash stands before letters that do not look
like a number. -/
inductive Heads (text : String) : Prop where
  | undashed (first : text.toList.head? ≠ some '-')
  | dashed {letters : List Char} (spelt : text.toList = '-' :: letters)
      (numeric : letters = [] ∨ Numeric letters)

/-- A duration stands for a head, even if a dash stands before it. -/
theorem Denotes.heads {text : String} {millis : Millis} (denotes : Denotes text millis) :
    Heads text := by
  rcases spelt : text.toList with _ | ⟨first, letters⟩
  · exact .undashed (by simp [spelt])
  by_cases dash : first = '-'
  · subst dash
    refine .dashed spelt ?_
    rcases letters with _ | ⟨second, others⟩
    · exact .inl rfl
    · have decimal := denotes.dashed spelt
      exact .inr ⟨second :: others, [], [], by simp, List.cons_ne_nil _ _,
        List.forall_mem_cons.2 decimal, .inl rfl, .inl rfl⟩
  · exact .undashed (by simpa [spelt] using dash)

namespace Request

/-- A text that stands for a head is looked at as one. -/
theorem ofWords_heads {text : String} (heads : Heads text) (rest : List Word) :
    ofWords (Word.ofString text :: rest) = afterHead (Word.ofString text) rest := by
  cases heads with
  | undashed first =>
      rcases spelt : text.toList with _ | ⟨letter, others⟩
      · rw [Word.ofString, spelt]
        rfl
      · have different : letter ≠ '-' := by simpa [spelt] using first
        rw [Word.ofString, spelt, Word.ofChars, List.map_cons]
        unfold ofWords
        simp only [Shape.ofWord_undashed _ (piece_undashed different)]
  | @dashed letters spelt numeric =>
      rw [Word.ofString, spelt]
      rcases numeric with rfl | numeric
      · rfl
      -- A group of letters is refused in the first place unless it looks like a number.
      have looks := Word.looksNumeric_iff.2 ⟨letters, rfl, numeric⟩
      obtain ⟨digit, others, rfl, different⟩ := numeric.undashed
      simp only [ofWords, Word.ofChars, List.map_cons,
        Shape.ofWord_letters _ (piece_undashed different)]
      exact if_pos looks

theorem ofWords_denotes {head : String} {millis : Millis} (denotes : Denotes head millis)
    (rest : List Word) :
    ofWords (Word.ofString head :: rest) = afterHead (Word.ofString head) rest :=
  ofWords_heads denotes.heads rest

theorem text?_some {word : Word} {text : String} :
    word.text? = some text ↔ word = Word.ofString text := by
  constructor
  · intro read
    obtain ⟨characters, chars, rfl⟩ := Option.map_eq_some_iff.1 read
    rw [Word.ofString, String.toList_ofList]
    exact ofCharsChars chars
  · rintro rfl
    exact textOfString text

theorem readHead_ok {word : Word} {millis : Millis} :
    readHead word = .ok millis ↔ ∃ text, word = Word.ofString text ∧ Denotes text millis := by
  constructor
  · intro read
    unfold readHead at read
    split at read
    · contradiction
    · rename_i text given
      refine ⟨text, text?_some.1 given, Millis.read_ok.1 ?_⟩
      split at read
      · rename_i head parsed
        rw [parsed]
        injection read with same
        rw [same]
      · contradiction
  · rintro ⟨text, rfl, denotes⟩
    simp [readHead, textOfString, Millis.read_ok.2 denotes]

theorem readTail_ok {words : List Word} {texts : List String} :
    readTail words = .ok texts ↔ words = texts.map Word.ofString := by
  have mapped : words.mapM Word.text? = some texts ↔ words = texts.map Word.ofString := by
    induction words generalizing texts with
    | nil => cases texts <;> simp
    | cons word rest ih =>
        cases texts <;> simp [List.mapM_cons, Option.bind_eq_some_iff, text?_some, ih]
  rw [← mapped]
  unfold readTail
  split <;> simp_all

/-- A tail that cannot be read is no text, and nothing else can be wrong with it. -/
theorem readTail_error {words : List Word} {reply : Reply}
    (failed : readTail words = .error reply) : reply = .notText := by
  unfold readTail at failed
  split at failed
  · contradiction
  · exact (Except.error.inj failed).symm

theorem settle_ok {program : Option Bytes} {request : Request} {read : Queue} :
    request.settle program = .ok read ↔
      ∃ head tail, request = queue head tail ∧ readHead head = .ok read.head ∧
        readTail tail = .ok read.tail := by
  constructor
  · intro settled
    cases request with
    | nothing => contradiction
    | answered reply => contradiction
    | headThen head reply =>
        simp only [settle] at settled
        split at settled <;> contradiction
    | queue head tail =>
        simp only [settle] at settled
        split at settled
        · contradiction
        · rename_i millis headRead
          split at settled
          · contradiction
          · rename_i texts tailRead
            injection settled with same
            subst same
            exact ⟨head, tail, rfl, headRead, tailRead⟩
  · rintro ⟨head, tail, rfl, headRead, tailRead⟩
    simp only [settle, headRead, tailRead]

/-- A head that is read and a tail of texts settle a queue. -/
theorem settle_queue {head : String} {millis : Millis} (denotes : Denotes head millis)
    (tail : List String) (program : Option Bytes) :
    (queue (Word.ofString head) (tail.map Word.ofString)).settle program = .ok ⟨millis, tail⟩ :=
  settle_ok.2 ⟨_, _, rfl, readHead_ok.2 ⟨head, rfl, denotes⟩, readTail_ok.2 rfl⟩

theorem ofWord_escape {word : Word} (escape : Shape.ofWord word = .escape) :
    word = Word.ofString "--" := by
  unfold Shape.ofWord at escape
  split at escape
  · rfl
  · simp [Shape.ofLong] at escape
  · contradiction
  · contradiction

/-- Behind the head stands the tail, and the escape may stand between them. -/
theorem afterHead_queue {head first : Word} {words tail : List Word}
    (settled : afterHead head words = queue first tail) :
    first = head ∧ (words = Word.ofString "--" :: tail ∨ words = tail) := by
  cases words with
  | nil =>
      injection settled with sameHead sameTail
      exact ⟨sameHead.symm, .inr sameTail⟩
  | cons word rest =>
      have kept (same : queue head (word :: rest) = queue first tail) :
          first = head ∧ (word :: rest = Word.ofString "--" :: tail ∨ word :: rest = tail) := by
        injection same with sameHead sameTail
        exact ⟨sameHead.symm, .inr sameTail⟩
      cases shape : Shape.ofWord word with
      | escape =>
          simp only [afterHead, shape, queue.injEq] at settled
          exact ⟨settled.1.symm, .inl (by rw [ofWord_escape shape, settled.2])⟩
      | long name attached =>
          simp only [afterHead, shape] at settled
          repeat' split at settled
          all_goals first | contradiction | exact kept settled
      | short letter others =>
          simp only [afterHead, shape] at settled
          repeat' split at settled
          all_goals first | contradiction | exact kept settled
      | value =>
          simp only [afterHead, shape] at settled
          exact kept settled

/-- The head stands behind the escape or comes first. -/
theorem ofWords_queue {words tail : List Word} {head : Word}
    (settled : ofWords words = queue head tail) :
    words = Word.ofString "--" :: head :: tail ∨
      ∃ rest, words = head :: rest ∧ afterHead head rest = queue head tail := by
  cases words with
  | nil => contradiction
  | cons word rest =>
      have found (following : afterHead word rest = queue head tail) :
          ∃ others, word :: rest = head :: others ∧ afterHead head others = queue head tail := by
        obtain ⟨rfl, _⟩ := afterHead_queue following
        exact ⟨rest, rfl, following⟩
      unfold ofWords at settled
      cases shape : Shape.ofWord word with
      | escape =>
          rw [ofWord_escape shape]
          cases rest <;> simp_all
      | long name attached =>
          simp only [shape] at settled
          split at settled <;> contradiction
      | short first others =>
          simp only [shape] at settled
          split at settled
          · exact .inr (found settled)
          · split at settled <;> contradiction
      | value =>
          simp only [shape] at settled
          exact .inr (found settled)

end Request

theorem bytesOfString (text : String) : Word.bytes (Word.ofString text) = encode text :=
  wordBytesOfChars text.toList

/-- Arguments are read as texts exactly when they are the encodings of them. -/
theorem pieces_texts {arguments : List Bytes} {texts : List String} :
    arguments.map Bytes.pieces = texts.map Word.ofString ↔ arguments = texts.map encode := by
  constructor
  · intro same
    have read := congrArg (List.map Word.bytes) same
    simpa [Function.comp_def, bytesPieces, bytesOfString] using read
  · rintro rfl
    simp [Function.comp_def, piecesEncode]

namespace Queue

/-- A queue that is spelt out is read. -/
theorem ofArguments_spells {program : Option Bytes} {texts : List String} {form : Form}
    {queue : Queue} (spells : Spells form texts queue) :
    ofArguments program (texts.map encode) = .ok queue := by
  rw [ofArguments_firstWords, pieces_texts.2 rfl]
  cases spells with
  | escapeFirst denotes tail => exact Request.settle_queue denotes tail program
  | escapeSecond denotes tail =>
      rw [List.map_cons, List.map_cons, Request.ofWords_denotes denotes, Request.afterHead_escape]
      exact Request.settle_queue denotes tail program
  | headAlone denotes =>
      rw [List.map_cons, Request.ofWords_denotes denotes]
      exact Request.settle_queue denotes [] program
  | plainSecond denotes plain tail =>
      rw [List.map_cons, List.map_cons, Request.ofWords_denotes denotes,
        Request.afterHead_plain _ _ plain]
      exact Request.settle_queue denotes (_ :: tail) program

/-- A flag behind the head is answered once the head has been read. -/
theorem ofArguments_asks {head text : String} {millis : Millis} {flag : Flag}
    (denotes : Denotes head millis) (asks : Asks text flag) (rest : List String)
    (program : Option Bytes) :
    ofArguments program ((head :: text :: rest).map encode) =
      .error (.replied (commandName program) (.requested flag)) := by
  rw [ofArguments_firstWords, pieces_texts.2 rfl, List.map_cons, List.map_cons,
    Request.ofWords_denotes denotes, Request.afterHead_asks _ _ asks]
  simp only [Request.settle, Request.readHead_ok.2 ⟨head, rfl, denotes⟩]

/-- A value that is attached to a flag is one value too many. -/
theorem ofArguments_attaches {head text value : String} {millis : Millis} {flag : Flag}
    (denotes : Denotes head millis) (attaches : Attaches text value flag) (rest : List String)
    (program : Option Bytes) :
    ofArguments program ((head :: text :: rest).map encode) =
      .error (.replied (commandName program) (.attachedValue flag value)) := by
  rw [ofArguments_firstWords, pieces_texts.2 rfl, List.map_cons, List.map_cons,
    Request.ofWords_denotes denotes, Request.afterHead_attaches _ _ attaches]
  rfl

/-- A queue that is read is spelt out by the arguments. -/
theorem spells_ofArguments {program : Option Bytes} {arguments : List Bytes} {queue : Queue}
    (parsed : ofArguments program arguments = .ok queue) :
    ∃ texts form, arguments = texts.map encode ∧ Spells form texts queue := by
  obtain ⟨millis, tail⟩ := queue
  rw [ofArguments_firstWords] at parsed
  obtain ⟨headWord, tailWords, settled, headRead, tailRead⟩ := Request.settle_ok.1 parsed
  obtain ⟨head, rfl, denotes⟩ := Request.readHead_ok.1 headRead
  have tailTexts := Request.readTail_ok.1 tailRead
  subst tailTexts
  rcases Request.ofWords_queue settled with first | ⟨rest, first, following⟩
  · exact ⟨"--" :: head :: tail, .escapeFirst, pieces_texts.1 first, .escapeFirst denotes tail⟩
  rcases (Request.afterHead_queue following).2 with second | second
  · refine ⟨head :: "--" :: tail, .escapeSecond, pieces_texts.1 ?_, .escapeSecond denotes tail⟩
    rw [first, second]
    rfl
  subst second
  cases tail with
  | nil => exact ⟨[head], .headAlone, pieces_texts.1 first, .headAlone denotes⟩
  | cons next others =>
      have plain := Request.plain_afterHead _ _ following
      exact ⟨head :: next :: others, .plainSecond, pieces_texts.1 first,
        .plainSecond denotes plain others⟩

theorem ofArguments_ok {program : Option Bytes} {arguments : List Bytes} {queue : Queue} :
    ofArguments program arguments = .ok queue ↔
      ∃ texts form, arguments = texts.map encode ∧ Spells form texts queue := by
  constructor
  · exact spells_ofArguments
  · rintro ⟨texts, form, rfl, spells⟩
    exact ofArguments_spells spells

end Queue

/-- The escape denotes no duration. -/
theorem not_denotes_escape {millis : Millis} : ¬ Denotes "--" millis :=
  fun denotes => denotes.plain.notEscape rfl

/-- A list of texts has one form and spells out one queue. -/
theorem Spells.unique {first second : Form} {texts : List String} {queue other : Queue}
    (left : Spells first texts queue) (right : Spells second texts other) :
    first = second ∧ queue = other := by
  have same : queue = other := by
    have read := @Queue.ofArguments_spells none texts first queue left
    rw [Queue.ofArguments_spells right] at read
    exact (Except.ok.inj read).symm
  refine ⟨?_, same⟩
  cases left with
  | escapeFirst denotes tail =>
      cases right with
      | escapeFirst => rfl
      | escapeSecond denotes => exact absurd denotes not_denotes_escape
      | plainSecond denotes => exact absurd denotes not_denotes_escape
  | escapeSecond denotes tail =>
      cases right with
      | escapeFirst => exact absurd denotes not_denotes_escape
      | escapeSecond => rfl
      | plainSecond _ plain => exact absurd rfl plain.notEscape
  | headAlone denotes =>
      cases right
      rfl
  | plainSecond denotes plain tail =>
      cases right with
      | escapeFirst => exact absurd denotes not_denotes_escape
      | escapeSecond => exact absurd rfl plain.notEscape
      | plainSecond => rfl

namespace Queue

/-- The name of the program plays no part in what is read. -/
theorem ofCommandLine_ok {commandLine : List Bytes} {queue : Queue} :
    ofCommandLine commandLine = .ok queue ↔
      ∃ texts form, commandLine.tail = texts.map encode ∧ Spells form texts queue := by
  cases commandLine with
  | nil => exact ofArguments_ok
  | cons program arguments => exact ofArguments_ok

/-- A command line is read exactly if its arguments are texts in one of the four forms. A list of
texts has one form at most and spells out one queue, and the name of the program is not looked
at. -/
theorem ofCommandLine_forms :
    (∀ commandLine queue, ofCommandLine commandLine = .ok queue ↔
      ∃ texts form, commandLine.tail = texts.map encode ∧ Spells form texts queue) ∧
    (∀ texts first second queue other, Spells first texts queue → Spells second texts other →
      first = second ∧ queue = other) ∧
    ∀ commandLine other queue, commandLine.tail = other.tail →
      (ofCommandLine commandLine = .ok queue ↔ ofCommandLine other = .ok queue) := by
  refine ⟨fun _ _ => ofCommandLine_ok, fun _ _ _ _ _ => Spells.unique, ?_⟩
  intro commandLine other queue same
  rw [ofCommandLine_ok, ofCommandLine_ok, same]

/-- A negative duration behind the head is no flag. -/
theorem ofCommandLine_forms_negative :
    ∃ queue, ofCommandLine (["linger", "0", "-1"].map encode) = .ok queue ∧
      queue.tail = ["-1"] := by
  have zero : Denotes "0" Millis.zero := Millis.read_ok.1 rfl
  have minus : Denotes "-1" ⟨-1, by decide, by decide⟩ := Millis.read_ok.1 rfl
  exact ⟨_, (ofCommandLine_forms.1 _ _).2
    ⟨["0", "-1"], .plainSecond, rfl, .plainSecond zero minus.plain []⟩, rfl⟩

end Queue

end LingerChain
