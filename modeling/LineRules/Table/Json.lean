/-
  LineRules.Table.Json — tables written as JSON.

  A table is an array of rows, a row an array of five fields: the states in which the rule is
  tried, the state to go to, the pattern, the path and the filter. `rowsOfJson` checks the
  shape of a document and names the first row and field that do not fit.
-/

import LineRules.Json.Reader
import LineRules.Table
import LineRules.Value.Json

namespace LineRules.Table

/-- The texts of an array, if it holds nothing else. -/
def textsOf? : List Json → Option (List String)
  | [] => some []
  | .string s :: rest => (textsOf? rest).map (s :: ·)
  | _ :: _ => none

def guardOfJson? : Json → Option Guard
  | .null => some .any
  | .string s => some (Guard.ofText s)
  | .array items => (textsOf? items).map Guard.ofNames
  | _ => none

def transitionOfJson? : Json → Option Transition
  | .null => some .stay
  | .string s => some (Transition.ofText s)
  | _ => none

def patternOfJson? : Json → Option RowPattern
  | .string s => some (.text s)
  | _ => none

def pathOfJson? : Json → Option (Option PathText)
  | .null => some none
  | .string s => some (some (.dotted s))
  | .array items => (textsOf? items).map fun parts => some (.segments parts)
  | _ => none

def filterOfJson? : Json → Option Filter
  | .null => some .captures
  | .string s => some (Filter.ofText s)
  | .object entries => some (.literal (Value.ofJson (.object entries)))
  | _ => none

/-- What a field yields, or the error that names it. -/
def field {α : Type} (rule : Nat) (name expected : String) : Option α → Except TableError α
  | some a => .ok a
  | none => .error (.invalidField rule name expected)

def rowOfFields (rule : Nat) (guard transition pattern path filter : Json) : Except TableError Row := do
  let guard ← field rule "ifstate" "a string, an array of strings or null" (guardOfJson? guard)
  let transition ← field rule "gotostate" "a string or null" (transitionOfJson? transition)
  let pattern ← field rule "pattern" "a string" (patternOfJson? pattern)
  let path ← field rule "datapath" "a string, an array of strings or null" (pathOfJson? path)
  let filter ← field rule "outfilter" "null, a string or an object" (filterOfJson? filter)
  return { guard, transition, pattern, path, filter }

def rowOfJson (rule : Nat) : Json → Except TableError Row
  | .array [guard, transition, pattern, path, filter] => rowOfFields rule guard transition pattern path filter
  | .array fields => .error (.wrongArity rule fields.length)
  | _ => .error (.ruleNotSequence rule)

def rowsFrom (rule : Nat) : List Json → Except TableError (List Row)
  | [] => .ok []
  | j :: rest =>
    match rowOfJson rule j with
    | .error e => .error e
    | .ok row =>
      match rowsFrom (rule + 1) rest with
      | .error e => .error e
      | .ok rows => .ok (row :: rows)

def rowsOfJson : Json → Except TableError (List Row)
  | .array [] => .error .empty
  | .array rows => rowsFrom 0 rows
  | _ => .error .notSequence

inductive LoadError where
  | notJson
  | table (cause : TableError)
  deriving DecidableEq, Repr

def LoadError.message : LoadError → String
  | .notJson => "rule table is not valid JSON: syntax error"
  | .table cause => cause.fullMessage

def rowsOfText (text : String) : Except LoadError (List Row) :=
  match Json.read? text with
  | none => .error .notJson
  | some j =>
    match rowsOfJson j with
    | .error e => .error (.table e)
    | .ok rows => .ok rows

def ofText (flags : Pattern.Flags) (text : String) : Except LoadError Table :=
  match rowsOfText text with
  | .error e => .error e
  | .ok rows =>
    match ofRows flags rows with
    | .error e => .error (.table e)
    | .ok t => .ok t

end LineRules.Table
