/-
  LineRules.Pattern.Meaning — what a pattern means once the flags in force are known.

  Literals and classes become sets of code points, anchors become conditions on a position.
-/

import LineRules.Pattern.Classes
import LineRules.Pattern.Node

namespace LineRules.Pattern

def Literal.node (fs : Flags) (l : Literal) : Except Error Node :=
  let c := l.char.toNat
  if !fs.unicode ∧ l.byte ∧ 0x80 ≤ c ∧ c < 0x100 then .error .notText
  else if !fs.ignoreCase then .ok (.text [c])
  else if fs.unicode then .ok (.ofSet false (Unicode.foldClosure [(c, c)]))
  else .ok (.ofSet true (Unicode.foldClosureAscii [(c, c)]))

def Assertion.look (fs : Flags) : Assertion → Look
  | .lineStart => if fs.multiLine then .lineStart fs.crlf else .textStart
  | .lineEnd => if fs.multiLine then .lineEnd fs.crlf else .textEnd
  | .textStart => .textStart
  | .textEnd => .textEnd
  | .boundary => .boundary fs.unicode
  | .notBoundary => .notBoundary fs.unicode
  | .wordStart => .wordStart fs.unicode
  | .wordEnd => .wordEnd fs.unicode
  | .wordStartHalf => .wordStartHalf fs.unicode
  | .wordEndHalf => .wordEndHalf fs.unicode

mutual

/-- The meaning of a tree, and the flags in force after it. -/
def Node.ofAst (fs : Flags) : Ast → Except Error (Node × Flags)
  | .empty => .ok (.empty, fs)
  | .flags changes => .ok (.empty, fs.setAll changes)
  | .literal l => (l.node fs).map fun n => (n, fs)
  | .dot => (dotCodes fs).map fun s => (.ofSet false s, fs)
  | .assertion a => .ok (.look (a.look fs), fs)
  | .shorthand kind negated => (shorthandCodes fs kind negated).map fun s => (.ofSet (!fs.unicode) s, fs)
  | .property query negated => (propertyCodes fs query negated).map fun s => (.ofSet false s, fs)
  | .set negated body =>
    match SetExpr.codes fs body with
    | .ok s => (foldNegate fs negated s).map fun s => (.ofSet (!fs.unicode) s, fs)
    | .error e => .error e
  | .repetition min max greedy body =>
    match Node.ofAst fs body with
    | .ok (n, _) => .ok (Node.repeated min max (greedy != fs.swapGreed) n, fs)
    | .error e => .error e
  | .group (.plain changes) body =>
    match Node.ofAst (fs.setAll changes) body with
    | .ok (n, _) => .ok (n, fs)
    | .error e => .error e
  | .group (.capture index name) body =>
    match Node.ofAst fs body with
    | .ok (n, _) => .ok (.capture index name n, fs)
    | .error e => .error e
  | .alt branches => (Node.ofAsts fs branches).map fun r => (Node.alternation r.1, r.2)
  | .cat items => (Node.ofAsts fs items).map fun r => (Node.concat r.1, r.2)

/-- The meanings of trees; flags that one sets hold for the following ones. -/
def Node.ofAsts (fs : Flags) : List Ast → Except Error (List Node × Flags)
  | [] => .ok ([], fs)
  | a :: rest =>
    match Node.ofAst fs a with
    | .error e => .error e
    | .ok (n, fs) =>
      match Node.ofAsts fs rest with
      | .error e => .error e
      | .ok (ns, fs) => .ok (n :: ns, fs)

end

end LineRules.Pattern
