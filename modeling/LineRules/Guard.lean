/-
  LineRules.Guard — in which states a rule may be tried, and what follows when it fires.

  A guard admits every state or the states it names. A transition keeps the state, moves to
  another one, lets the following rules try the same line, or ends the scan.
-/

import LineRules.Text.Quoted
import LineRules.Text.Split
import LineRules.Unicode.Word

namespace LineRules

inductive Guard where
  | any
  | states (names : List String)
  deriving DecidableEq, Repr

namespace Guard

/-- The guard for these names. Blanks around a name do not count; without any name left the
    guard admits every state. -/
def ofNames (names : List String) : Guard :=
  match (names.map Unicode.trim).filter (· ≠ "") with
  | [] => .any
  | names => .states names

def ofText (text : String) : Guard := ofNames (Text.pieces ',' text)

def admits : Guard → String → Bool
  | .any, _ => true
  | .states names, state => names.contains state

def names : Guard → List String
  | .any => []
  | .states names => names

def describe : Guard → String
  | .any => "*"
  | .states names => String.intercalate "," names

end Guard

inductive Transition where
  /-- Keep the state and go on to the next line. -/
  | stay
  /-- Move to a state and go on to the next line. -/
  | goto (state : String)
  /-- Keep the state and let the following rules try the same line. -/
  | proceed
  /-- End the scan. -/
  | stop
  deriving DecidableEq, Repr

namespace Transition

def proceedText : String := "__continue__"

def stopText : String := "__stop__"

def ofText (text : String) : Transition :=
  let text := Unicode.trim text
  if text = "" then .stay
  else if text = proceedText then .proceed
  else if text = stopText then .stop
  else .goto text

def text : Transition → String
  | .stay => ""
  | .goto state => state
  | .proceed => proceedText
  | .stop => stopText

def describe : Transition → String
  | .stay => "Stay"
  | .goto state => "Goto(" ++ Text.quote state ++ ")"
  | .proceed => "Continue"
  | .stop => "Stop"

end Transition

end LineRules
