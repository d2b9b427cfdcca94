/-
This file shows that encoded text is read back, and that reading loses no byte.
-/

import LingerChain.Text.Utf8

namespace LingerChain.Utf8

theorem scanCons (state : Option Pending) (byte : UInt8) (rest : Bytes) :
    scan state (byte :: rest) = (step state byte).1 ++ scan (step state byte).2 rest := by
  cases state <;> rfl

theorem toNatOfNat {value : Nat} (small : value < 256) : (UInt8.ofNat value).toNat = value := by
  simp [Nat.mod_eq_of_lt small]

theorem enterOne {value : Nat} (within : value < 128) :
    enter (UInt8.ofNat value) = ([.char (Char.ofNat value)], none) := by
  have read : (UInt8.ofNat value).toNat = value := toNatOfNat (by omega)
  unfold enter
  rw [if_pos (by rw [UInt8.lt_iff_toNat_lt, read]; exact within), read]

theorem enterTwo {lead : Nat} (least : 2 ≤ lead) (within : lead < 32) :
    enter (UInt8.ofNat (lead + 192)) =
      ([], some ⟨[UInt8.ofNat (lead + 192)], lead, 0, 0x80, 0xBF⟩) := by
  have read : (UInt8.ofNat (lead + 192)).toNat = lead + 192 := toNatOfNat (by omega)
  unfold enter
  rw [if_neg, if_neg, if_pos, read, Nat.add_sub_cancel]
  all_goals
    rw [UInt8.lt_iff_toNat_lt, read]
    simp
    try omega

theorem enterThree {lead : Nat} (within : lead < 16) :
    enter (UInt8.ofNat (lead + 224)) =
      ([], some ⟨[UInt8.ofNat (lead + 224)], lead, 1,
        if lead = 0 then 0xA0 else 0x80, if lead = 13 then 0x9F else 0xBF⟩) := by
  have read : (UInt8.ofNat (lead + 224)).toNat = lead + 224 := toNatOfNat (by omega)
  have least : UInt8.ofNat (lead + 224) = 0xE0 ↔ lead = 0 := by
    rw [← UInt8.toNat_inj, read]
    simp
  have surrogate : UInt8.ofNat (lead + 224) = 0xED ↔ lead = 13 := by
    rw [← UInt8.toNat_inj, read]
    simp
  unfold enter
  rw [if_neg, if_neg, if_neg, if_pos, read, Nat.add_sub_cancel]
  · simp only [least, surrogate]
  all_goals
    rw [UInt8.lt_iff_toNat_lt, read]
    simp
    try omega

theorem enterFour {lead : Nat} (within : lead < 5) :
    enter (UInt8.ofNat (lead + 240)) =
      ([], some ⟨[UInt8.ofNat (lead + 240)], lead, 2,
        if lead = 0 then 0x90 else 0x80, if lead = 4 then 0x8F else 0xBF⟩) := by
  have read : (UInt8.ofNat (lead + 240)).toNat = lead + 240 := toNatOfNat (by omega)
  have least : UInt8.ofNat (lead + 240) = 0xF0 ↔ lead = 0 := by
    rw [← UInt8.toNat_inj, read]
    simp
  have greatest : UInt8.ofNat (lead + 240) = 0xF4 ↔ lead = 4 := by
    rw [← UInt8.toNat_inj, read]
    simp
  unfold enter
  rw [if_neg, if_neg, if_neg, if_neg, if_pos, read, Nat.add_sub_cancel]
  · simp only [least, greatest]
  all_goals
    rw [UInt8.lt_iff_toNat_lt, read]
    simp
    try omega

/-- A later byte within the bounds adds its six bits. -/
theorem stepTake {pending : Pending} {part : Nat} (small : part < 64)
    (low : pending.low.toNat ≤ part + 128) (high : part + 128 ≤ pending.high.toNat) :
    step (some pending) (UInt8.ofNat (part + 128)) = pending.take (UInt8.ofNat (part + 128)) := by
  have read : (UInt8.ofNat (part + 128)).toNat = part + 128 := toNatOfNat (by omega)
  unfold step
  exact if_pos (by rw [UInt8.le_iff_toNat_le, UInt8.le_iff_toNat_le, read]; exact ⟨low, high⟩)

theorem scanLast {taken : Bytes} {value part : Nat} {low high : UInt8} {rest : Bytes}
    (small : part < 64) (least : low.toNat ≤ part + 128) (most : part + 128 ≤ high.toNat) :
    scan (some ⟨taken, value, 0, low, high⟩) (UInt8.ofNat (part + 128) :: rest) =
      .char (Char.ofNat (value * 64 + part)) :: scan none rest := by
  have read : (UInt8.ofNat (part + 128)).toNat = part + 128 := toNatOfNat (by omega)
  rw [scanCons, stepTake small least most]
  simp only [Pending.take, read, Nat.add_sub_cancel, List.singleton_append]

theorem scanMore {taken : Bytes} {value part later : Nat} {low high : UInt8} {rest : Bytes}
    (small : part < 64) (least : low.toNat ≤ part + 128) (most : part + 128 ≤ high.toNat) :
    scan (some ⟨taken, value, later + 1, low, high⟩) (UInt8.ofNat (part + 128) :: rest) =
      scan (some ⟨taken ++ [UInt8.ofNat (part + 128)], value * 64 + part, later, 0x80, 0xBF⟩)
        rest := by
  have read : (UInt8.ofNat (part + 128)).toNat = part + 128 := toNatOfNat (by omega)
  rw [scanCons, stepTake small least most]
  simp only [Pending.take, read, Nat.add_sub_cancel, List.nil_append]

/-- An encoded character is read as itself, whatever follows. -/
theorem scanChar (character : Char) (rest : Bytes) :
    scan none (String.utf8EncodeChar character ++ rest) = .char character :: scan none rest := by
  have valid : character.toNat < 0xD800 ∨ 0xDFFF < character.toNat ∧ character.toNat < 0x110000 :=
    character.valid
  have whole : Char.ofNat character.toNat = character := Char.ofNat_toNat character
  have code : character.val.toNat = character.toNat := rfl
  unfold String.utf8EncodeChar
  simp only [code]
  generalize character.toNat = value at valid whole
  subst whole
  split
  · rw [List.singleton_append, scanCons]
    simp only [step, @enterOne value (by omega), List.singleton_append]
  · split
    · simp only [List.cons_append, List.nil_append]
      rw [scanCons]
      simp only [step, @enterTwo (value / 64 % 32) (by omega) (by omega), List.nil_append]
      rw [scanLast (by omega) (by simp) (by simp; omega)]
      congr 3
      omega
    · split
      · simp only [List.cons_append, List.nil_append]
        rw [scanCons]
        simp only [step, @enterThree (value / 4096 % 16) (by omega), List.nil_append]
        rw [scanMore (by omega), scanLast (by omega) (by simp) (by simp; omega)]
        · congr 3
          omega
        · split
          · simp
            omega
          · simp
        · split <;> (simp; omega)
      · simp only [List.cons_append, List.nil_append]
        rw [scanCons]
        simp only [step, @enterFour (value / 262144 % 8) (by omega), List.nil_append]
        rw [scanMore (by omega), scanMore (by omega) (by simp) (by simp; omega),
          scanLast (by omega) (by simp) (by simp; omega)]
        · congr 3
          omega
        · split
          · simp
            omega
          · simp
        · split <;> (simp; omega)

/-- Whatever bytes may follow a sound beginning, they complete the encoding of a character. -/
def Completes (taken : Bytes) (value : Nat) (low high : UInt8) : Nat → Prop
  | 0 => ∀ part, part < 64 → low.toNat ≤ part + 128 → part + 128 ≤ high.toNat →
      String.utf8EncodeChar (Char.ofNat (value * 64 + part)) = taken ++ [UInt8.ofNat (part + 128)]
  | later + 1 => ∀ part, part < 64 → low.toNat ≤ part + 128 → part + 128 ≤ high.toNat →
      Completes (taken ++ [UInt8.ofNat (part + 128)]) (value * 64 + part) 0x80 0xBF later

theorem encodeValid {value : Nat} (valid : value < 0xD800 ∨ 0xDFFF < value ∧ value < 0x110000) :
    String.utf8EncodeChar (Char.ofNat value) =
      if value ≤ 127 then [UInt8.ofNat value]
      else if value ≤ 2047 then
        [UInt8.ofNat (value / 64 % 32 + 192), UInt8.ofNat (value % 64 + 128)]
      else if value ≤ 65535 then
        [UInt8.ofNat (value / 4096 % 16 + 224), UInt8.ofNat (value / 64 % 64 + 128),
          UInt8.ofNat (value % 64 + 128)]
      else
        [UInt8.ofNat (value / 262144 % 8 + 240), UInt8.ofNat (value / 4096 % 64 + 128),
          UInt8.ofNat (value / 64 % 64 + 128), UInt8.ofNat (value % 64 + 128)] := by
  have code : (Char.ofNat value).val.toNat = value := by
    unfold Char.ofNat
    rw [dif_pos valid]
    rfl
  unfold String.utf8EncodeChar
  simp only [code]

theorem ofNatEqual {byte : UInt8} {value : Nat} (same : value = byte.toNat) :
    UInt8.ofNat value = byte := by
  rw [same, UInt8.ofNat_toNat]

theorem completesTwo {byte : UInt8} (least : 194 ≤ byte.toNat) (most : byte.toNat < 224) :
    Completes [byte] (byte.toNat - 192) 0x80 0xBF 0 := by
  intro part small _ _
  rw [encodeValid (by omega), if_neg (by omega), if_pos (by omega),
    @ofNatEqual byte _ (by omega)]
  simp only [List.singleton_append]
  congr 3
  omega

theorem completesThree {byte low high : UInt8} (least : 224 ≤ byte.toNat)
    (most : byte.toNat < 240) (lowest : byte.toNat = 224 → 160 ≤ low.toNat)
    (highest : byte.toNat = 237 → high.toNat ≤ 159) :
    Completes [byte] (byte.toNat - 224) low high 1 := by
  intro first firstSmall firstLow firstHigh second secondSmall _ _
  rw [encodeValid (by omega), if_neg (by omega), if_neg (by omega), if_pos (by omega),
    @ofNatEqual byte _ (by omega)]
  simp only [List.cons_append, List.nil_append]
  congr 4 <;> omega

theorem completesFour {byte low high : UInt8} (least : 240 ≤ byte.toNat)
    (most : byte.toNat < 245) (lowest : byte.toNat = 240 → 144 ≤ low.toNat)
    (highest : byte.toNat = 244 → high.toNat ≤ 143) :
    Completes [byte] (byte.toNat - 240) low high 2 := by
  intro first firstSmall firstLow firstHigh second secondSmall _ _ third thirdSmall _ _
  rw [encodeValid (by omega), if_neg (by omega), if_neg (by omega), if_neg (by omega),
    @ofNatEqual byte _ (by omega)]
  simp only [List.cons_append, List.nil_append]
  congr 5 <;> omega


structure Pending.Sound (pending : Pending) : Prop where
  least : 128 ≤ pending.low.toNat
  most : pending.high.toNat ≤ 191
  completes : Completes pending.taken pending.value pending.low pending.high pending.later

/-- The bytes that have been taken but belong to no piece yet. -/
def held : Option Pending → Bytes
  | none => []
  | some pending => pending.taken

def Sound : Option Pending → Prop
  | none => True
  | some pending => pending.Sound

theorem enterSound (byte : UInt8) :
    Sound (enter byte).2 ∧ Word.bytes (enter byte).1 ++ held (enter byte).2 = [byte] := by
  have below (bound : UInt8) : byte < bound ↔ byte.toNat < bound.toNat := UInt8.lt_iff_toNat_lt
  have equal (other : UInt8) : byte = other ↔ byte.toNat = other.toNat := UInt8.toNat_inj.symm
  unfold enter
  split
  · rename_i one
    rw [below] at one
    have small : byte.toNat ≤ 127 := Nat.le_of_lt_succ one
    refine ⟨trivial, ?_⟩
    simp [Word.bytes, Piece.bytes, held]
    rw [encodeValid (by omega), if_pos small, UInt8.ofNat_toNat]
  · split
    · exact ⟨trivial, rfl⟩
    · rename_i notOne notInvalid
      rw [below] at notOne notInvalid
      have least : 194 ≤ byte.toNat := Nat.le_of_not_lt notInvalid
      split
      · rename_i two
        rw [below] at two
        exact ⟨⟨Nat.le_refl 128, Nat.le_refl 191, completesTwo least two⟩, rfl⟩
      · split
        · rename_i notTwo three
          rw [below] at notTwo three
          refine ⟨⟨?_, ?_, completesThree (Nat.le_of_not_lt notTwo) three ?_ ?_⟩, rfl⟩
          · dsimp only
            split <;> decide
          · dsimp only
            split <;> decide
          · intro first
            rw [if_pos ((equal 0xE0).2 first)]
            exact Nat.le_refl 160
          · intro first
            rw [if_pos ((equal 0xED).2 first)]
            exact Nat.le_refl 159
        · split
          · rename_i notThree four
            rw [below] at notThree four
            refine ⟨⟨?_, ?_, completesFour (Nat.le_of_not_lt notThree) four ?_ ?_⟩, rfl⟩
            · dsimp only
              split <;> decide
            · dsimp only
              split <;> decide
            · intro first
              rw [if_pos ((equal 0xF0).2 first)]
              exact Nat.le_refl 144
            · intro first
              rw [if_pos ((equal 0xF4).2 first)]
              exact Nat.le_refl 143
          · exact ⟨trivial, rfl⟩

theorem takeSound {pending : Pending} {byte : UInt8} (sound : pending.Sound)
    (low : pending.low ≤ byte) (high : byte ≤ pending.high) :
    Sound (pending.take byte).2 ∧
      Word.bytes (pending.take byte).1 ++ held (pending.take byte).2 = pending.taken ++ [byte] := by
  obtain ⟨taken, value, later, lowest, highest⟩ := pending
  obtain ⟨least, most, completes⟩ := sound
  simp only at least most completes low high
  rw [UInt8.le_iff_toNat_le] at low high
  have whole : UInt8.ofNat (byte.toNat - 128 + 128) = byte := ofNatEqual (by omega)
  have taking := completes
  cases later with
  | zero =>
      have complete := completes (byte.toNat - 128) (by omega) (by omega) (by omega)
      rw [whole] at complete
      refine ⟨trivial, ?_⟩
      simpa [Pending.take, Word.bytes, Piece.bytes, held] using complete
  | succ later =>
      have complete := completes (byte.toNat - 128) (by omega) (by omega) (by omega)
      rw [whole] at complete
      exact ⟨⟨Nat.le_refl 128, Nat.le_refl 191, complete⟩, rfl⟩

theorem stepSound {state : Option Pending} (byte : UInt8) (sound : Sound state) :
    Sound (step state byte).2 ∧
      Word.bytes (step state byte).1 ++ held (step state byte).2 = held state ++ [byte] := by
  cases state with
  | none => exact enterSound byte
  | some pending =>
      simp only [step]
      split
      · rename_i bounds
        exact takeSound sound bounds.1 bounds.2
      · have entered := enterSound byte
        refine ⟨entered.1, ?_⟩
        simpa [Word.bytes, Piece.bytes, held] using entered.2

theorem bytesScan {state : Option Pending} {bytes : Bytes} (sound : Sound state) :
    Word.bytes (scan state bytes) = held state ++ bytes := by
  induction bytes generalizing state with
  | nil => cases state <;> simp [scan, Word.bytes, Piece.bytes, held]
  | cons byte rest ih =>
      have stepped := stepSound byte sound
      have split := ih stepped.1
      rw [scanCons]
      simp only [Word.bytes, List.flatMap_append] at *
      rw [split, ← List.append_assoc, stepped.2]
      simp

/-- A byte of one character ends whatever stands before it and is read as itself. -/
theorem scanAppendOne {state : Option Pending} {value : Nat} (within : value < 128)
    (sound : Sound state) (bytes rest : Bytes) :
    scan state (bytes ++ UInt8.ofNat value :: rest) =
      scan state bytes ++ .char (Char.ofNat value) :: scan none rest := by
  induction bytes generalizing state with
  | nil =>
      have entered : enter (UInt8.ofNat value) = ([.char (Char.ofNat value)], none) :=
        enterOne within
      cases state with
      | none => simp [scan, step, entered]
      | some pending =>
          have least := sound.least
          have read : (UInt8.ofNat value).toNat = value := toNatOfNat (by omega)
          have outside :
              ¬ (pending.low ≤ UInt8.ofNat value ∧ UInt8.ofNat value ≤ pending.high) := by
            rw [UInt8.le_iff_toNat_le, read]
            omega
          simp [scan, step, entered, outside]
  | cons byte others ih =>
      rw [List.cons_append, scanCons, scanCons, ih (stepSound byte sound).1, List.append_assoc]

theorem scanEncodeChars (characters : List Char) :
    scan none (encodeChars characters) = Word.ofChars characters := by
  induction characters with
  | nil => rfl
  | cons character rest ih =>
      change scan none (String.utf8EncodeChar character ++ encodeChars rest) = _
      rw [scanChar, ih]
      rfl

end LingerChain.Utf8

namespace LingerChain

/-- Encoded text is read back piece by piece. -/
theorem piecesEncode (text : String) : Bytes.pieces (encode text) = Word.ofString text :=
  Utf8.scanEncodeChars text.toList

/-- Reading loses no byte. -/
theorem bytesPieces (bytes : Bytes) : Word.bytes (Bytes.pieces bytes) = bytes :=
  @Utf8.bytesScan none bytes trivial

theorem charsOfChars (characters : List Char) :
    (Word.ofChars characters).mapM Piece.char? = some characters := by
  induction characters with
  | nil => rfl
  | cons character rest ih => simp_all [Word.ofChars, Piece.char?]

theorem textOfString (text : String) : (Word.ofString text).text? = some text := by
  unfold Word.text? Word.ofString
  rw [charsOfChars, Option.map_some, String.ofList_toList]

theorem textEncode (text : String) : Bytes.text? (encode text) = some text := by
  unfold Bytes.text?
  rw [piecesEncode, textOfString]

theorem ofCharsChars {word : Word} {characters : List Char}
    (read : word.mapM Piece.char? = some characters) : word = Word.ofChars characters := by
  induction word generalizing characters with
  | nil => simp_all [Word.ofChars]
  | cons piece rest ih =>
      simp only [List.mapM_cons, Option.pure_def, Option.bind_eq_bind, Option.bind_eq_some_iff,
        Option.some.injEq] at read
      obtain ⟨character, first, others, later, rfl⟩ := read
      cases piece with
      | char value => simp_all [Word.ofChars, Piece.char?]
      | invalid bytes => simp [Piece.char?] at first

theorem wordBytesOfChars (characters : List Char) :
    Word.bytes (Word.ofChars characters) = encodeChars characters := by
  simp [Word.bytes, Word.ofChars, encodeChars, List.flatMap_map, Piece.bytes]

end LingerChain
