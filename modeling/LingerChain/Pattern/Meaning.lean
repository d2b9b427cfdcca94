/-
This file says what the tree of a pattern means under its flags, if it means anything.
-/

import LingerChain.Pattern.Expression

namespace LingerChain.Pattern

/-- The flags that matter for the meaning. -/
structure Options where
  foldCases : Bool
  multiLine : Bool
  dotAll : Bool
  allCharacters : Bool
  returns : Bool
  deriving DecidableEq, Repr

namespace Options

def usual : Options := ⟨false, false, false, true, false⟩

def settle (options : Options) (settings : List Setting) : Options where
  foldCases := Flag.foldCases.settled settings options.foldCases
  multiLine := Flag.multiLine.settled settings options.multiLine
  dotAll := Flag.dotAll.settled settings options.dotAll
  allCharacters := Flag.allCharacters.settled settings options.allCharacters
  returns := Flag.returns.settled settings options.returns

end Options

namespace AsciiName

def lowers : List (Char × Char) := [('a', 'z')]

def uppers : List (Char × Char) := [('A', 'Z')]

def digits : List (Char × Char) := [('0', '9')]

def marks : List (Char × Char) := [('!', '/'), (':', '@'), ('[', '\x60'), ('\x7b', '~')]

def pairs : AsciiName → List (Char × Char)
  | alnum => digits ++ uppers ++ lowers
  | alpha => uppers ++ lowers
  | ascii => [('\x00', '\x7f')]
  | blank => [('\t', '\t'), (' ', ' ')]
  | cntrl => [('\x00', '\x1f'), ('\x7f', '\x7f')]
  | digit => digits
  | graph => [('!', '~')]
  | lower => lowers
  | print => [(' ', '~')]
  | punct => marks
  | space => [('\t', '\r'), (' ', ' ')]
  | upper => uppers
  | word => digits ++ uppers ++ lowers ++ [('_', '_')]
  | xdigit => digits ++ [('A', 'F'), ('a', 'f')]

def set (name : AsciiName) : CharSet := .ofPairs name.pairs

end AsciiName

namespace Shorthand

def ascii : Shorthand → AsciiName
  | digit => .digit
  | blank => .space
  | word => .word

end Shorthand

namespace Operator

def apply : Operator → CharSet → CharSet → CharSet
  | intersection => .intersection
  | difference => .difference
  | symmetricDifference => .symmetricDifference

end Operator

namespace Property

/-- Spaces and hyphens do not count in a name, nor do cases or `is` in front. -/
def plainName (name : List Char) : List Char :=
  let lower := name.map Char.toLower
  let isFirst := ['i', 's'].isPrefixOf lower
  let plain := (if isFirst then lower.drop 2 else lower).filter fun character =>
    character ∉ [' ', '_', '-'] && character.toNat < 0x80
  if isFirst && plain = ['c'] then ['i', 's', 'c'] else plain

/-- These names are first looked for among the values of a category. -/
def categoryNames : List (List Char) := [['c', 'f'], ['s', 'c'], ['l', 'c']]

/-- No property is known here. -/
def mistake : Property → Mistake
  | alone name =>
      if plainName name ∈ categoryNames then .unknownPropertyValue else .unknownProperty
  | valued => .unknownProperty

end Property

def refuse {A : Type} (mistake : Mistake) (extent : Extent) : Except Fault A :=
  .error ⟨mistake, extent, none⟩

/-- The cases of all characters are not known here, only those of ASCII. -/
def foldSet (options : Options) (extent : Extent) (set : CharSet) : Except Fault CharSet :=
  if ¬ options.foldCases then .ok set
  else if ¬ options.allCharacters then .ok set.foldCases
  else if set.isEmpty then .ok set
  else refuse .unknownCases extent

/-- Among bytes the complement of a set holds some that are no character. -/
def negateSet (options : Options) (negated : Bool) (extent : Extent) (set : CharSet) :
    Except Fault CharSet :=
  if ¬ negated then .ok set
  else if options.allCharacters then .ok set.complement
  else refuse .brokenEncoding extent

/-- Cases are folded before the complement is taken. -/
def closeSet (options : Options) (negated : Bool) (extent : Extent) (set : CharSet) :
    Except Fault CharSet := do
  negateSet options negated extent (← foldSet options extent set)

namespace Literal

/-- A byte above 127 is no character. -/
def value (options : Options) (literal : Literal) : Except Fault Char :=
  if ¬ options.allCharacters ∧ literal.mayBeByte ∧ 0x80 ≤ literal.character.toNat then
    refuse .brokenEncoding literal.extent
  else .ok literal.character

/-- Only ASCII characters are members of a set of bytes. -/
def member (options : Options) (literal : Literal) : Except Fault Char := do
  let character ← literal.value options
  if ¬ options.allCharacters ∧ 0x80 ≤ character.toNat then
    refuse .wideCharacter literal.extent
  else return character

/-- A literal folds by itself, even if it is no letter. -/
def expression (options : Options) (literal : Literal) : Except Fault Expression := do
  let character ← literal.value options
  return .one (← foldSet options literal.extent (.single character))

end Literal

namespace Shorthand

/-- The digits, blanks and words of all scripts are not known here. -/
def set (options : Options) (shorthand : Shorthand) (negated : Bool) (extent : Extent) :
    Except Fault CharSet :=
  if options.allCharacters then refuse .unknownShorthand extent
  else negateSet options negated extent shorthand.ascii.set

end Shorthand

namespace Property

def set (options : Options) (property : Property) (extent : Extent) : Except Fault CharSet :=
  refuse (if options.allCharacters then property.mistake else .wideCharacter) extent

end Property

namespace Members

mutual

def set (options : Options) : Members → Except Fault CharSet
  | none _ => .ok .empty
  | literal value => do return .single (← value.member options)
  | range first last => do
      let first ← first.member options
      let last ← last.member options
      return .between first last
  | ascii name negated extent => closeSet options negated extent name.set
  | shorthand value negated extent => value.set options negated extent
  | property value extent => value.set options extent
  | bracket negated inside extent => do
      closeSet options negated extent (← inside.set options)
  | union items _ => setOfAll options items
  | combined operator first second => do
      let firstSet ← first.set options
      let secondSet ← second.set options
      let secondSet ← foldSet options second.extent secondSet
      let firstSet ← foldSet options first.extent firstSet
      return operator.apply firstSet secondSet

def setOfAll (options : Options) : List Members → Except Fault CharSet
  | [] => .ok .empty
  | item :: rest => do
      let set ← item.set options
      return set.union (← setOfAll options rest)

end

end Members

/-- A dot is any character that does not end a line. -/
def dot (options : Options) (extent : Extent) : Except Fault Expression :=
  if ¬ options.allCharacters then refuse .brokenEncoding extent
  else
    let left :=
      if options.dotAll then []
      else if options.returns then [('\n', '\n'), ('\r', '\r')]
      else [('\n', '\n')]
    .ok (.one (CharSet.ofPairs left).complement)

namespace Anchor

def look (options : Options) : Anchor → Look
  | lineStart => if options.multiLine then .lineStart options.returns else .textStart
  | lineEnd => if options.multiLine then .lineEnd options.returns else .textEnd
  | textStart => .textStart
  | textEnd => .textEnd
  | word side => .word side !options.allCharacters

end Anchor

namespace Atom

def expression (options : Options) (extent : Extent) : Atom → Except Fault Expression
  | literal value => value.expression options
  | dot => Pattern.dot options extent
  | anchor value => .ok (.look (value.look options))
  | shorthand value negated => do return .one (← value.set options negated extent)
  | property value => do return .one (← value.set options extent)

end Atom

namespace Tree

mutual

/-- Flags hold from where they are set to the end of the group. -/
def expression (options : Options) : Tree → Except Fault (Expression × Options)
  | empty => .ok (.empty, options)
  | settings values => .ok (.empty, options.settle values)
  | atom value extent => do return (← value.expression options extent, options)
  | bracket negated inside extent => do
      return (.one (← closeSet options negated extent (← inside.set options)), options)
  | times inside least most _ => do
      let (expression, options) ← inside.expression options
      return (expression.repeated least most, options)
  | group captures values inside _ => do
      let (expression, _) ← inside.expression (options.settle values)
      return (if captures then .group expression else expression, options)
  | sequence items _ => expressionOfAll options items
  | choice branches _ => expressionOfAny options branches

def expressionOfAll (options : Options) : List Tree → Except Fault (Expression × Options)
  | [] => .ok (.empty, options)
  | item :: rest => do
      let (first, options) ← item.expression options
      let (second, options) ← expressionOfAll options rest
      return (first.beside second, options)

def expressionOfAny (options : Options) : List Tree → Except Fault (Expression × Options)
  | [] => .ok (.one .empty, options)
  | branch :: rest => do
      let (first, options) ← branch.expression options
      if rest.isEmpty then return (first, options)
      else
        let (second, options) ← expressionOfAny options rest
        return (first.or second, options)

end

end Tree

end LingerChain.Pattern
