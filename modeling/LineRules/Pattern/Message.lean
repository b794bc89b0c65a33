/-
  LineRules.Pattern.Message — what is said about a pattern that is refused.
-/

import LineRules.Pattern.Ast

namespace LineRules.Pattern

/-- What is wrong with the text of a pattern; a pattern that is only too large has no such
    fault. -/
def Error.fault? : Error → Option String
  | .groupUnclosed => some "unclosed group"
  | .groupUnopened => some "unopened group"
  | .groupName => some "invalid group name"
  | .groupNameRepeated => some "duplicate group name"
  | .lookAround => some "look-around is not supported"
  | .badFlags => some "invalid flags"
  | .nothingToRepeat => some "repetition without an expression"
  | .badCount => some "invalid repetition count"
  | .badEscape => some "unrecognized escape sequence"
  | .badHex => some "invalid hexadecimal literal"
  | .badProperty => some "unknown character property"
  | .badClass => some "invalid character class"
  | .classUnclosed => some "unclosed character class"
  | .badBoundary => some "invalid word boundary"
  | .needsUnicode => some "not allowed without Unicode"
  | .notText => some "can match invalid text"
  | .tooDeep => some "nested too deeply"
  | .tooLarge => none

def Error.message (e : Error) : String :=
  match e.fault? with
  | some fault => "regex parse error: " ++ fault
  | none => "Compiled regex exceeds size limit of 10485760 bytes."

end LineRules.Pattern
