/-
  LineRules.Rule — rules as they are written and as they are tried.

  A row gives the five fields of a rule. `Rule.ofRow` checks a row: its pattern must be a
  pattern on its own before it is tied to the start of the line, so that no bracket of the
  tie can pair with one in the pattern, and a buffer must have a name. A pattern that comes
  ready-made is tied to the start of the line when it is tried.
-/

import LineRules.Filter
import LineRules.Guard
import LineRules.Pattern.Message

namespace LineRules

inductive RowPattern where
  | text (source : String)
  | made (pattern : Pattern)

structure Row where
  guard : Guard := .any
  transition : Transition := .stay
  pattern : RowPattern
  /-- A row without a path stores nothing. -/
  path : Option PathText := none
  filter : Filter := .captures

inductive RowError where
  | invalidPattern (source : String) (cause : Pattern.Error)
  | emptyBufferName (path : PathText)
  deriving DecidableEq, Repr

structure Rule where
  /-- The place of the rule in its table. -/
  index : Nat
  guard : Guard
  transition : Transition
  pattern : Pattern
  /-- The pattern itself matches at the start of a line only. -/
  anchored : Bool
  path : Option Path
  filter : Filter

namespace Rule

/-- The text of a pattern tied to the start of the text. The line end keeps a comment at the
    end of the pattern from taking the closing bracket in. -/
def tie (verbose : Bool) (source : String) : String :=
  if verbose then "\\A(?:" ++ source ++ "\n)" else "\\A(?:" ++ source ++ ")"

/-- The pattern of a row, and whether it is tied to the start of the text. -/
def makePattern (flags : Pattern.Flags) : RowPattern → Except RowError (Pattern × Bool)
  | .made p => .ok (p, false)
  | .text source =>
    match Pattern.Node.ofText flags source with
    | .error e => .error (.invalidPattern source e)
    | .ok _ =>
      match Pattern.compile flags (tie flags.verbose source) with
      | .error e => .error (.invalidPattern source e)
      | .ok p => .ok (p, true)

def makePath : Option PathText → Except RowError (Option Path)
  | none => .ok none
  | some text =>
    match Path.ofText? text with
    | some p => .ok (some p)
    | none => .error (.emptyBufferName text)

/-- The rule that a row describes; a wrong pattern is found before a wrong path. -/
def ofRow (flags : Pattern.Flags) (index : Nat) (row : Row) : Except RowError Rule :=
  match makePattern flags row.pattern with
  | .error e => .error e
  | .ok (pattern, anchored) =>
    match makePath row.path with
    | .error e => .error e
    | .ok path => .ok ⟨index, row.guard, row.transition, pattern, anchored, path, row.filter⟩

def match? (r : Rule) (line : String) : Option Match :=
  if r.anchored then r.pattern.find? line else r.pattern.findAtStart? line

def describe (r : Rule) : String :=
  "#" ++ toString r.index ++ " [" ++ r.guard.describe ++ "] -> " ++ r.transition.describe
    ++ " /" ++ r.pattern.source ++ "/ path=" ++ (match r.path with
      | some p => p.describe
      | none => "-")
    ++ " filter=" ++ r.filter.describe

end Rule

end LineRules
