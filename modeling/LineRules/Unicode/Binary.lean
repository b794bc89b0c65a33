/-
  LineRules.Unicode.Binary — properties that a code point has or has not.

  Some are listed in a table. Others follow from categories, case maps and listed ones, by
  the definitions of the standard.
-/

import LineRules.Unicode.CaseTable
import LineRules.Unicode.Category
import LineRules.Unicode.PropertyTable
import LineRules.Unicode.Word

namespace LineRules.Unicode

/-- The set that a row of a table of names and intervals holds. -/
def lookupText (table : List (List String × String)) (name : String) : Option CodeSet :=
  (table.find? fun row => row.1.contains name).map fun row => CodeSet.ofText row.2

def listed (name : String) : CodeSet := (lookupText propertyText name).getD []

def lowercase : CodeSet := (Category.codes [.lowercaseLetter]).union (listed "otherlowercase")

def uppercase : CodeSet := (Category.codes [.uppercaseLetter]).union (listed "otheruppercase")

def cased : CodeSet := (lowercase.union uppercase).union (Category.codes [.titlecaseLetter])

def letters : CodeSet :=
  Category.codes [.uppercaseLetter, .lowercaseLetter, .titlecaseLetter, .modifierLetter, .otherLetter]

def alphabetic : CodeSet :=
  (((letters.union (Category.codes [.letterNumber])).union (listed "otherlowercase")).union
    (listed "otheruppercase")).union (listed "otheralphabetic")

def graphemeExtend : CodeSet :=
  (Category.codes [.nonspacingMark, .enclosingMark]).union (listed "othergraphemeextend")

def graphemeBase : CodeSet :=
  ((Category.codes [.control, .format, .surrogate, .privateUse, .unassigned, .lineSeparator,
    .paragraphSeparator]).union graphemeExtend).compl

/-- Marks, modifiers and the punctuation of words do not decide whether a text is cased. -/
def caseIgnorable : CodeSet :=
  (Category.codes [.nonspacingMark, .enclosingMark, .format, .modifierLetter, .modifierSymbol]).union
    (CodeSet.ofText "27 2E 3A B7 387 55F 5F4 2018-2019 2024 2027 FE13 FE52 FE55 FF07 FF0E FF1A")

def defaultIgnorable : CodeSet :=
  ((listed "otherdefaultignorablecodepoint").union
    ((Category.codes [.format]).union (listed "variationselector"))).diff
    ((listed "prependedconcatenationmark").union (CodeSet.ofText "FFF9-FFFB 13430-1343F"))

/-! ## Identifiers -/

def idStart : CodeSet :=
  ((letters.union (Category.codes [.letterNumber])).diff
    ((listed "patternsyntax").union (listed "patternwhitespace"))).union (listed "otheridstart")

def idContinue : CodeSet :=
  (idStart.union (Category.codes [.nonspacingMark, .spacingMark, .decimalNumber, .connectorPunctuation])).union
    (listed "otheridcontinue")

/-- Members of ID_Continue that stop being identifiers under compatibility normalization. -/
def xidDropped : CodeSet :=
  CodeSet.ofText "37A 309B-309C FC5E-FC63 FDFA-FDFB FE70 FE72 FE74 FE76 FE78 FE7A FE7C FE7E"

def xidStart : CodeSet := idStart.diff (xidDropped.union (CodeSet.ofText "E33 EB3 FF9E-FF9F"))

def xidContinue : CodeSet := idContinue.diff xidDropped

/-! ## Case maps -/

def movedBy (pairs : List (Nat × Nat)) : CodeSet := CodeSet.ofIntervals (pairs.map fun p => (p.1, p.1)).reverse

def changesWhenLowercased : CodeSet := (movedBy lowerMap.toPairs).insert 0x130 0x130

def changesWhenUppercased : CodeSet :=
  (movedBy upperMap.toPairs).union (movedBy (upperLong.map fun r => (r.1, 0)))

/-- Title case differs from upper case for digraphs, Georgian and letters with iota below. -/
def changesWhenTitlecased : CodeSet :=
  (changesWhenUppercased.diff
    (CodeSet.ofText "1C5 1C8 1CB 1F2 10D0-10FA 10FD-10FF 1F88-1F8F 1F98-1F9F 1FA8-1FAF 1FBC 1FCC 1FFC")).union
    (CodeSet.ofText "1C4 1C7 1CA 1F1")

/-- Full folding moves more than the simple one, but not the same members of each class. -/
def changesWhenCasefolded : CodeSet :=
  ((movedBy foldMap.toPairs).union
    (CodeSet.ofText "B5 DF 130 149 345 3C2 587 13F8-13FD 1C88 1E9A 1F80-1F87 1F90-1F97 1FA0-1FA7 1FB2-1FB4 1FB7
      1FC2-1FC4 1FC7 1FF2-1FF4 1FF7 AB70-ABBF FB00-FB05 FB13-FB17")).diff
    (CodeSet.ofText "3B9 3BC 3C3 13A0-13F5 1FBE 1FD3 1FE3 A64B")

/-! ## By name -/

def derived? (name : String) : Option CodeSet :=
  match name with
  | "alpha" | "alphabetic" => some alphabetic
  | "lower" | "lowercase" => some lowercase
  | "upper" | "uppercase" => some uppercase
  | "cased" => some cased
  | "ci" | "caseignorable" => some caseIgnorable
  | "math" => some ((Category.codes [.mathSymbol]).union (listed "othermath"))
  | "wspace" | "whitespace" | "space" => some blankCodes
  | "di" | "defaultignorablecodepoint" => some defaultIgnorable
  | "grext" | "graphemeextend" => some graphemeExtend
  | "grbase" | "graphemebase" => some graphemeBase
  | "ids" | "idstart" => some idStart
  | "idc" | "idcontinue" => some idContinue
  | "xids" | "xidstart" => some xidStart
  | "xidc" | "xidcontinue" => some xidContinue
  | "cwl" | "changeswhenlowercased" => some changesWhenLowercased
  | "cwu" | "changeswhenuppercased" => some changesWhenUppercased
  | "cwt" | "changeswhentitlecased" => some changesWhenTitlecased
  | "cwcm" | "changeswhencasemapped" =>
    some ((changesWhenLowercased.union changesWhenUppercased).union changesWhenTitlecased)
  | "cwcf" | "changeswhencasefolded" => some changesWhenCasefolded
  | _ => none

def binary? (name : String) : Option CodeSet :=
  match derived? name with
  | some s => some s
  | none => lookupText propertyText name

end LineRules.Unicode
