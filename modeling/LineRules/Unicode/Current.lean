/-
  LineRules.Unicode.Current — single characters, by the newest version of the standard.

  Patterns go by version 16, as `Property` gives it. The case of text and what is shown as it is in
  quoted text go by version 17, which adds characters and counts `ʕ` among the letters without
  case; so do letters and digits (`Alphanumeric`).
-/

import LineRules.Unicode.Binary

namespace LineRules.Unicode

/-! ## What version 17 adds -/

def newCodes : CodeSet :=
  CodeSet.ofText "88F C5C CDC 1ACF-1ADD 1AE0-1AEB 20C1 2B96 A7CE-A7CF A7D2 A7D4 A7F1 FBC3-FBD2 FD90-FD91
    FDC8-FDCE 10940-10959 10EC5-10EC7 10ED0-10ED8 10EFA-10EFB 11B60-11B67 11DB0-11DDB 11DE0-11DE9 16EA0-16EB8
    16EBB-16ED3 16FF2-16FF6 187F8-187FF 18D09-18D1E 18D80-18DF2 1CCFA-1CCFC 1CEBA-1CED0 1CEE0-1CEF0 1E6C0-1E6DE
    1E6E0-1E6F5 1E6FE-1E6FF 1F6D8 1F777-1F77A 1F8D0-1F8D8 1FA54-1FA57 1FA8A 1FA8E 1FAC8 1FACD 1FAEA 1FAEF 1FBFA
    2B73A-2B73F 2CEA2-2CEAD 323B0-33479"

def newCased : CodeSet := CodeSet.ofText "A7CE-A7CF A7D2 A7D4 A7F1 16EA0-16EB8 16EBB-16ED3"

def newNonspacing : CodeSet :=
  CodeSet.ofText "1ACF-1ADD 1AE0-1AEB 10EFA-10EFB 11B60 11B62-11B64 11B66 1E6E3 1E6E6 1E6EE-1E6EF 1E6F5"

def newCaseIgnorable : CodeSet :=
  newNonspacing.union (CodeSet.ofText "A7F1 10EC5 11DD9 16FF2-16FF3 1E6FF")

def newLowerMap : CodeMap := [(0xA7CE, 0xA7CE, 1, 0xA7CF), (0xA7D2, 0xA7D4, 2, 0xA7D3), (0x16EA0, 0x16EB8, 1, 0x16EBB)]

def newUpperMap : CodeMap := [(0xA7CF, 0xA7CF, 1, 0xA7CE), (0xA7D3, 0xA7D5, 2, 0xA7D2), (0x16EBB, 0x16ED3, 1, 0x16EA0)]

/-! ## Classes of characters -/

def isCased (c : Char) : Bool := (cased.contains c.toNat && c ≠ 'ʕ') || newCased.contains c.toNat

def isCaseIgnorable (c : Char) : Bool := caseIgnorable.contains c.toNat || newCaseIgnorable.contains c.toNat

def attachedMarks : CodeSet :=
  (graphemeExtend.inter (Category.codes [.nonspacingMark, .spacingMark, .enclosingMark])).union newNonspacing

/-- Code points that no character to look at stands for: controls, formats, private and
    unassigned ones, separators, and what is ignored unless it is known. -/
def invisible : CodeSet :=
  ((Category.codes [.control, .format, .surrogate, .privateUse, .unassigned, .spaceSeparator, .lineSeparator,
    .paragraphSeparator]).union defaultIgnorable).diff newCodes

def isPlain (c : Char) : Bool :=
  c = ' ' || !(invisible.contains c.toNat || attachedMarks.contains c.toNat)

end LineRules.Unicode
