/-
This file holds everything that can be wrong with a pattern, and the report on it.
-/

import LingerChain.Pattern.Extent
import LingerChain.Text.Lines

namespace LingerChain.Pattern

inductive Mistake where
  | unclosedBracket
  | noMember
  | reversedRange
  | noRangeEnd
  | noNumber
  | numberTooLarge
  | noHexDigits
  | noScalar
  | noHexDigit
  | unfinishedEscape
  | unknownEscape
  | danglingNegation
  | repeatedFlag
  | repeatedNegation
  | unfinishedFlags
  | unknownFlag
  | repeatedName
  | emptyName
  | noNameCharacter
  | unfinishedName
  | unclosedGroup
  | unopenedGroup
  | tooDeep
  | reversedCount
  | unclosedCount
  | nothingRepeated
  | unclosedWordSide
  | unknownWordSide
  | unfinishedWordSide
  | noPropertyName
  | backReference
  | lookAround
  | wideCharacter
  | brokenEncoding
  | unknownProperty
  | unknownPropertyValue
  | unknownShorthand
  | unknownCases
  deriving DecidableEq, Repr

/-- Groups and brackets may be nested up to this depth. -/
def depthLimit : Nat := 250

namespace Mistake

def message : Mistake → String
  | unclosedBracket => "unclosed character class"
  | noMember => "invalid escape sequence found in character class"
  | reversedRange => "invalid character class range, the start must be <= the end"
  | noRangeEnd => "invalid range boundary, must be a literal"
  | noNumber => "repetition quantifier expects a valid decimal"
  | numberTooLarge => "decimal literal invalid"
  | noHexDigits => "hexadecimal literal empty"
  | noScalar => "hexadecimal literal is not a Unicode scalar value"
  | noHexDigit => "invalid hexadecimal digit"
  | unfinishedEscape => "incomplete escape sequence, reached end of pattern prematurely"
  | unknownEscape => "unrecognized escape sequence"
  | danglingNegation => "dangling flag negation operator"
  | repeatedFlag => "duplicate flag"
  | repeatedNegation => "flag negation operator repeated"
  | unfinishedFlags => "expected flag but got end of regex"
  | unknownFlag => "unrecognized flag"
  | repeatedName => "duplicate capture group name"
  | emptyName => "empty capture group name"
  | noNameCharacter => "invalid capture group character"
  | unfinishedName => "unclosed capture group name"
  | unclosedGroup => "unclosed group"
  | unopenedGroup => "unopened group"
  | tooDeep =>
      "exceed the maximum number of nested parentheses/brackets (" ++ toString depthLimit ++ ")"
  | reversedCount => "invalid repetition count range, the start must be <= the end"
  | unclosedCount => "unclosed counted repetition"
  | nothingRepeated => "repetition operator missing expression"
  | unclosedWordSide =>
      "special word boundary assertion is either unclosed or contains an invalid character"
  | unknownWordSide =>
      "unrecognized special word boundary assertion, valid choices are: start, end, start-half " ++
        "or end-half"
  | unfinishedWordSide =>
      "found either the beginning of a special word boundary or a bounded repetition on a \\b " ++
        "with an opening brace, but no closing brace"
  | noPropertyName => "invalid Unicode character class"
  | backReference => "backreferences are not supported"
  | lookAround => "look-around, including look-ahead and look-behind, is not supported"
  | wideCharacter => "Unicode not allowed here"
  | brokenEncoding => "pattern can match invalid UTF-8"
  | unknownProperty => "Unicode property not found"
  | unknownPropertyValue => "Unicode property value not found"
  | unknownShorthand =>
      "Unicode-aware Perl class not found (make sure the unicode-perl feature is enabled)"
  | unknownCases =>
      "Unicode-aware case insensitivity matching is not available (make sure the unicode-case " ++
        "feature is enabled)"

end Mistake

/-- A fault is a mistake in its place. What it repeats has a place too. -/
structure Fault where
  mistake : Mistake
  extent : Extent
  earlier : Option Extent
  deriving DecidableEq, Repr

namespace Fault

def extents (fault : Fault) : List Extent :=
  match fault.earlier with
  | none => [fault.extent]
  | some earlier =>
      if earlier.precedes fault.extent then [earlier, fault.extent] else [fault.extent, earlier]

/-- Marks stand below the extents of a line, as far to the right as the extents are. -/
def marks : Nat → List Extent → List Char
  | _, [] => []
  | written, extent :: rest =>
      let gap := extent.start.column - 1 - written
      List.replicate gap ' ' ++ List.replicate extent.width '^' ++
        marks (written + gap + extent.width) rest

/-- A location may stand on a line that has not been begun yet. -/
def lineCount (pattern : List Char) : Nat :=
  (lines pattern).length + if pattern.getLast? = some '\n' then 1 else 0

def padLeft (width : Nat) (text : String) : List Char :=
  List.replicate (width - text.length) ' ' ++ text.toList

/-- Lines are numbered if there are several. -/
def lineHead (count number : Nat) : List Char :=
  if count ≤ 1 then List.replicate 4 ' '
  else padLeft (toString count).length (toString number) ++ [':', ' ']

/-- A line of the pattern is followed by a line of marks if anything is wrong on it. -/
def notated (count : Nat) (extents : List Extent) (number : Nat) (line : List Char) : List Char :=
  let found := extents.filter fun extent => extent.onOneLine && extent.start.line = number
  let head := lineHead count number
  let below :=
    if found = [] then [] else List.replicate head.length ' ' ++ marks 0 found ++ ['\n']
  head ++ line ++ ['\n'] ++ below

def notatedLines (count : Nat) (extents : List Extent) : Nat → List (List Char) → List Char
  | _, [] => []
  | number, line :: rest =>
      notated count extents number line ++ notatedLines count extents (number + 1) rest

/-- An extent over several lines is told by its first and its last column. -/
def across (extent : Extent) : String :=
  "on line " ++ toString extent.start.line ++ " (column " ++ toString extent.start.column ++
    ") through line " ++ toString extent.stop.line ++ " (column " ++
    toString (extent.stop.column - 1) ++ ")\n"

def divider : String := String.ofList (List.replicate 79 '~') ++ "\n"

def report (pattern : List Char) (fault : Fault) : String :=
  let quoted :=
    String.ofList (notatedLines (lineCount pattern) fault.extents 1 (lines pattern))
  let body :=
    if '\n' ∈ pattern then
      divider ++ quoted ++ divider ++
        String.join ((fault.extents.filter fun extent => !extent.onOneLine).map across)
    else quoted
  "regex parse error:\n" ++ body ++ "error: " ++ fault.mistake.message

end Fault

end LingerChain.Pattern
