/-
  LineRules.Pattern.Classes — the code points that a class stands for under the flags in force.

  Under ignored case a class is closed under case folding before it is negated. Without
  Unicode only ASCII is told apart: a set that would leave ASCII is refused, since it could
  match part of a character.
-/

import LineRules.Pattern.Ast
import LineRules.Unicode.Folding
import LineRules.Unicode.Property

namespace LineRules.Pattern

open Unicode (CodeSet)

/-- The set with its case variants if case is ignored, then negated if asked. -/
def foldNegate (fs : Flags) (negated : Bool) (s : CodeSet) : Except Error CodeSet :=
  let s := if fs.ignoreCase then if fs.unicode then Unicode.foldClosure s else Unicode.foldClosureAscii s else s
  if !negated then .ok s else if fs.unicode then .ok s.compl else .error .notText

def Posix.codes : Posix → CodeSet
  | .alnum => [(0x30, 0x39), (0x41, 0x5A), (0x61, 0x7A)]
  | .alpha => [(0x41, 0x5A), (0x61, 0x7A)]
  | .ascii => [(0x00, 0x7F)]
  | .blank => [(0x09, 0x09), (0x20, 0x20)]
  | .cntrl => [(0x00, 0x1F), (0x7F, 0x7F)]
  | .digit => [(0x30, 0x39)]
  | .graph => [(0x21, 0x7E)]
  | .lower => [(0x61, 0x7A)]
  | .print => [(0x20, 0x7E)]
  | .punct => [(0x21, 0x2F), (0x3A, 0x40), (0x5B, 0x60), (0x7B, 0x7E)]
  | .space => [(0x09, 0x0D), (0x20, 0x20)]
  | .upper => [(0x41, 0x5A)]
  | .word => [(0x30, 0x39), (0x41, 0x5A), (0x5F, 0x5F), (0x61, 0x7A)]
  | .xdigit => [(0x30, 0x39), (0x41, 0x46), (0x61, 0x66)]

def Shorthand.codes (unicode : Bool) : Shorthand → CodeSet
  | .digit => if unicode then Unicode.digitCodes else Posix.digit.codes
  | .space => if unicode then Unicode.blankCodes else Posix.space.codes
  | .word => if unicode then Unicode.wordCodes else Posix.word.codes

/-- A class such as `\w`; its sets are closed under case folding as they are. -/
def shorthandCodes (fs : Flags) (kind : Shorthand) (negated : Bool) : Except Error CodeSet :=
  let s := kind.codes fs.unicode
  if !negated then .ok s else if fs.unicode then .ok s.compl else .error .notText

def PropertyQuery.codes? : PropertyQuery → Option CodeSet
  | .name chars => Unicode.property? chars
  | .value chars expected => Unicode.propertyValue? chars expected

def propertyCodes (fs : Flags) (query : PropertyQuery) (negated : Bool) : Except Error CodeSet :=
  if !fs.unicode then .error .needsUnicode
  else
    match query.codes? with
    | some s => foldNegate fs negated s
    | none => .error .badProperty

def memberCode (fs : Flags) (l : Literal) : Except Error Nat :=
  if fs.unicode ∨ l.char.toNat < 0x80 then .ok l.char.toNat
  else if l.byte ∧ l.char.toNat < 0x100 then .error .notText
  else .error .needsUnicode

mutual

def SetExpr.codes (fs : Flags) : SetExpr → Except Error CodeSet
  | .empty => .ok []
  | .literal l => (memberCode fs l).map fun c => [(c, c)]
  | .range lo hi =>
    match memberCode fs lo, memberCode fs hi with
    | .ok a, .ok b => .ok [(a, b)]
    | .error e, _ => .error e
    | _, .error e => .error e
  | .shorthand kind negated => shorthandCodes fs kind negated
  | .posix kind negated => foldNegate fs negated kind.codes
  | .property query negated => propertyCodes fs query negated
  | .nested negated body =>
    match SetExpr.codes fs body with
    | .ok s => foldNegate fs negated s
    | .error e => .error e
  | .union items => SetExpr.codesAll fs items
  | .op kind lhs rhs =>
    match SetExpr.codes fs lhs, SetExpr.codes fs rhs with
    | .error e, _ => .error e
    | _, .error e => .error e
    | .ok s, .ok t =>
      match foldNegate fs false s, foldNegate fs false t with
      | .ok s, .ok t =>
        match kind with
        | .inter => .ok (s.inter t)
        | .diff => .ok (s.diff t)
        | .symmDiff => .ok (s.symmDiff t)
      | .error e, _ => .error e
      | _, .error e => .error e

def SetExpr.codesAll (fs : Flags) : List SetExpr → Except Error CodeSet
  | [] => .ok []
  | item :: rest =>
    match SetExpr.codes fs item, SetExpr.codesAll fs rest with
    | .ok s, .ok t => .ok (t.union s)
    | .error e, _ => .error e
    | _, .error e => .error e

end

def dotCodes (fs : Flags) : Except Error CodeSet :=
  if !fs.unicode then .error .notText
  else if fs.dotAll then .ok [(0, CodeSet.maxCode)]
  else if fs.crlf then .ok (CodeSet.compl [(0x0A, 0x0A), (0x0D, 0x0D)])
  else .ok (CodeSet.compl [(0x0A, 0x0A)])

end LineRules.Pattern
