/-
  LineRules.Unicode.Category — general categories.

  Each code point has one general category. A category's short name has two letters, of
  which the first names its group: `L` holds `Lu`, `Ll`, `Lt`, `Lm` and `Lo`.
-/

import LineRules.Unicode.CategoryTable
import LineRules.Unicode.CodeSet

namespace LineRules.Unicode

inductive Category where
  | uppercaseLetter | lowercaseLetter | titlecaseLetter | modifierLetter | otherLetter
  | nonspacingMark | spacingMark | enclosingMark
  | decimalNumber | letterNumber | otherNumber
  | connectorPunctuation | dashPunctuation | openPunctuation | closePunctuation
  | initialPunctuation | finalPunctuation | otherPunctuation
  | mathSymbol | currencySymbol | modifierSymbol | otherSymbol
  | spaceSeparator | lineSeparator | paragraphSeparator
  | control | format | surrogate | privateUse | unassigned
  deriving DecidableEq, Repr

namespace Category

/-- Short and long names, in lower case; a few categories have a third name. -/
def names : List (Category × List String) := [
  (.uppercaseLetter, ["lu", "uppercaseletter"]), (.lowercaseLetter, ["ll", "lowercaseletter"]),
  (.titlecaseLetter, ["lt", "titlecaseletter"]), (.modifierLetter, ["lm", "modifierletter"]),
  (.otherLetter, ["lo", "otherletter"]), (.nonspacingMark, ["mn", "nonspacingmark"]),
  (.spacingMark, ["mc", "spacingmark"]), (.enclosingMark, ["me", "enclosingmark"]),
  (.decimalNumber, ["nd", "decimalnumber", "digit"]), (.letterNumber, ["nl", "letternumber"]),
  (.otherNumber, ["no", "othernumber"]), (.connectorPunctuation, ["pc", "connectorpunctuation"]),
  (.dashPunctuation, ["pd", "dashpunctuation"]), (.openPunctuation, ["ps", "openpunctuation"]),
  (.closePunctuation, ["pe", "closepunctuation"]), (.initialPunctuation, ["pi", "initialpunctuation"]),
  (.finalPunctuation, ["pf", "finalpunctuation"]), (.otherPunctuation, ["po", "otherpunctuation"]),
  (.mathSymbol, ["sm", "mathsymbol"]), (.currencySymbol, ["sc", "currencysymbol"]),
  (.modifierSymbol, ["sk", "modifiersymbol"]), (.otherSymbol, ["so", "othersymbol"]),
  (.spaceSeparator, ["zs", "spaceseparator"]), (.lineSeparator, ["zl", "lineseparator"]),
  (.paragraphSeparator, ["zp", "paragraphseparator"]), (.control, ["cc", "control", "cntrl"]),
  (.format, ["cf", "format"]), (.surrogate, ["cs", "surrogate"]),
  (.privateUse, ["co", "privateuse"]), (.unassigned, ["cn", "unassigned"])]

def groups : List (List String × List Category) := [
  (["l", "letter"], [uppercaseLetter, lowercaseLetter, titlecaseLetter, modifierLetter, otherLetter]),
  (["lc", "casedletter"], [uppercaseLetter, lowercaseLetter, titlecaseLetter]),
  (["m", "mark", "combiningmark"], [nonspacingMark, spacingMark, enclosingMark]),
  (["n", "number"], [decimalNumber, letterNumber, otherNumber]),
  (["p", "punctuation", "punct"], [connectorPunctuation, dashPunctuation, openPunctuation, closePunctuation,
    initialPunctuation, finalPunctuation, otherPunctuation]),
  (["s", "symbol"], [mathSymbol, currencySymbol, modifierSymbol, otherSymbol]),
  (["z", "separator"], [spaceSeparator, lineSeparator, paragraphSeparator]),
  (["c", "other"], [control, format, surrogate, privateUse, unassigned])]

def ofShortName? (name : List Char) : Option Category :=
  let name := String.ofList (name.map Char.toLower)
  (names.find? fun row => row.2.head? = some name).map (·.1)

def starts : List (Nat × Category) :=
  (CodeSet.words categoryText.toList).filterMap fun w =>
    let cut := w.length - 2
    (ofShortName? (w.drop cut)).map fun cat => (CodeSet.hexValue (w.take cut), cat)

def runsOf : List (Nat × Category) → List (Nat × Nat × Category)
  | [] => []
  | [(lo, cat)] => [(lo, CodeSet.maxCode, cat)]
  | (lo, cat) :: (next, cat') :: rest => (lo, next - 1, cat) :: runsOf ((next, cat') :: rest)

def runs : List (Nat × Nat × Category) := runsOf starts

def codes (cats : List Category) : CodeSet :=
  CodeSet.ofIntervals ((runs.filter fun r => cats.contains r.2.2).map fun r => (r.1, r.2.1)).reverse

end Category

end LineRules.Unicode
