/-
This file says which characters are blank, and cuts them off a word.
-/

namespace LingerChain

/-- These are the characters of the property `White_Space`. -/
def isBlank (character : Char) : Bool :=
  character ∈ [' ', '\u0085', '\u00a0', '\u1680', '\u2028', '\u2029', '\u202f', '\u205f',
      '\u3000'] ||
    (0x9 ≤ character.toNat && character.toNat ≤ 0xD) ||
    (0x2000 ≤ character.toNat && character.toNat ≤ 0x200A)

def trim (word : List Char) : List Char :=
  ((word.dropWhile isBlank).reverse.dropWhile isBlank).reverse

end LingerChain
