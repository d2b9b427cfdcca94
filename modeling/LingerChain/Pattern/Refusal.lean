/-
This file turns the text of a pattern into an expression, or says why there is none.
-/

import LingerChain.Pattern.Meaning
import LingerChain.Pattern.Reading
import LingerChain.Pattern.Size

namespace LingerChain.Pattern

inductive Refusal where
  | faulty (pattern : List Char) (fault : Fault)
  | tooLarge
  /-- The pattern asks for words in all scripts. -/
  | asksForWords
  deriving DecidableEq, Repr

namespace Refusal

def message : Refusal → String
  | faulty pattern fault => fault.report pattern
  | tooLarge => "Compiled regex exceeds size limit of " ++ toString sizeLimit ++ " bytes."
  | asksForWords => "error building NFA"

end Refusal

namespace Expression

/-- The text is read and understood before the expression is measured. -/
def ofText (pattern : List Char) : Except Refusal Expression :=
  match Tree.read pattern >>= Tree.expression .usual with
  | .error fault => .error (.faulty pattern fault)
  | .ok (expression, _) =>
      if sizeLimit < expression.size then .error .tooLarge
      else if expression.asksForWords then .error .asksForWords
      else .ok expression

end Expression

end LingerChain.Pattern
