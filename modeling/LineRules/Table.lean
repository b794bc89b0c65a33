/-
  LineRules.Table — tables of rules.

  A table is made from its rows once, before any line is read. The first row that is refused
  decides the error.
-/

import LineRules.Rule

namespace LineRules

/-- Why a table is refused. Rules are counted from 0. -/
inductive TableError where
  | notSequence
  | empty
  | ruleNotSequence (rule : Nat)
  | wrongArity (rule found : Nat)
  | invalidField (rule : Nat) (field expected : String)
  | invalidPattern (rule : Nat) (source : String) (cause : Pattern.Error)
  | emptyBufferName (rule : Nat) (path : PathText)
  deriving DecidableEq, Repr

namespace TableError

def inRule (rule : Nat) (text : String) : String := "rule " ++ toString rule ++ ": " ++ text

def message : TableError → String
  | .notSequence => "rule table must be a sequence of 5-element sequences"
  | .empty => "rule table must not be empty"
  | .ruleNotSequence rule =>
    inRule rule "expected a sequence, one level of brackets or a comma is missing somewhere"
  | .wrongArity rule found =>
    inRule rule ("must contain 5 elements (ifstate, gotostate, pattern, datapath and outfilter), found "
      ++ toString found)
  | .invalidField rule field expected => inRule rule ("field `" ++ field ++ "` must be " ++ expected)
  | .invalidPattern rule source _ => inRule rule ("invalid pattern `" ++ source ++ "`")
  | .emptyBufferName rule path => inRule rule ("buffer path `" ++ path.describe ++ "` has no buffer name")

def fullMessage (e : TableError) : String :=
  match e with
  | .invalidPattern _ _ cause => e.message ++ ": " ++ cause.message
  | _ => e.message

def ofRowError (rule : Nat) : RowError → TableError
  | .invalidPattern source cause => .invalidPattern rule source cause
  | .emptyBufferName path => .emptyBufferName rule path

end TableError

structure Table where
  rules : List Rule

namespace Table

def rulesFrom (flags : Pattern.Flags) (index : Nat) : List Row → Except TableError (List Rule)
  | [] => .ok []
  | row :: rest =>
    match Rule.ofRow flags index row with
    | .error e => .error (.ofRowError index e)
    | .ok rule =>
      match rulesFrom flags (index + 1) rest with
      | .error e => .error e
      | .ok rules => .ok (rule :: rules)

def ofRows (flags : Pattern.Flags) (rows : List Row) : Except TableError Table :=
  if rows.isEmpty then .error .empty
  else
    match rulesFrom flags 0 rows with
    | .error e => .error e
    | .ok rules => .ok ⟨rules⟩

def size (t : Table) : Nat := t.rules.length

def isEmpty (t : Table) : Bool := t.rules.isEmpty

def describe (t : Table) : List String := t.rules.map Rule.describe

end Table

end LineRules
