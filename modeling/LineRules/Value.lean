/-
  LineRules.Value — the values that a scan collects.

  A value is a text, a mapping or a list; leaves are always texts. Mappings keep the order of
  their keys. The module holds look-ups (`get?`, `at?`), the compact JSON text of a value
  (`render`), its text inside other text (`display`) and the text that describes it
  (`describe`).
-/

import LineRules.Entries
import LineRules.Json.Text
import LineRules.Text.Quoted
import LineRules.Text.Split

namespace LineRules

inductive Value where
  | str (text : String)
  | map (entries : List (String × Value))
  | list (items : List Value)
  deriving Repr, BEq, Inhabited

namespace Value

def emptyMap : Value := .map []

def text? : Value → Option String
  | .str s => some s
  | _ => none

def entries? : Value → Option (Entries Value)
  | .map m => some m
  | _ => none

def items? : Value → Option (List Value)
  | .list l => some l
  | _ => none

def get? (v : Value) (key : String) : Option Value := v.entries?.bind fun m => Entries.find? m key

def follow? (v : Value) : List String → Option Value
  | [] => some v
  | key :: keys => (v.get? key).bind fun child => child.follow? keys

/-- Follow a dotted path; empty keys are passed over. -/
def at? (v : Value) (path : String) : Option Value := v.follow? ((Text.pieces '.' path).filter (· ≠ ""))

structure MissingKey where
  key : String
  deriving DecidableEq, Repr

def MissingKey.message (e : MissingKey) : String := "no entry found for key " ++ Text.quote e.key

def entry (v : Value) : List String → Except MissingKey Value
  | [] => .ok v
  | key :: keys =>
    match v.get? key with
    | some child => child.entry keys
    | none => .error ⟨key⟩

def isText (v : Value) (s : String) : Bool := v.text? == some s

/-! ## JSON text -/

mutual

def render : Value → List Char
  | .str s => Json.quoteChars s.toList
  | .map m => '{' :: (renderEntries m ++ ['}'])
  | .list l => '[' :: (renderItems l ++ [']'])

def renderEntries : List (String × Value) → List Char
  | [] => []
  | (k, v) :: rest =>
    Json.quoteChars k.toList ++ ':' :: (render v ++ match rest with
      | [] => []
      | _ :: _ => ',' :: renderEntries rest)

def renderItems : List Value → List Char
  | [] => []
  | v :: rest => render v ++ match rest with
      | [] => []
      | _ :: _ => ',' :: renderItems rest

end

def compact (v : Value) : String := String.ofList v.render

/-- Texts stand for themselves, mappings and lists are written as compact JSON. -/
def display : Value → String
  | .str s => s
  | v => v.compact

mutual

/-- JSON over several lines, indented by two spaces for each level. -/
def layout (indent : List Char) : Value → List Char
  | .str s => Json.quoteChars s.toList
  | .map [] => ['{', '}']
  | .map (e :: m) => '{' :: (layoutEntries (' ' :: ' ' :: indent) (e :: m) ++ '\n' :: (indent ++ ['}']))
  | .list [] => ['[', ']']
  | .list (v :: l) => '[' :: (layoutItems (' ' :: ' ' :: indent) (v :: l) ++ '\n' :: (indent ++ [']']))

def layoutEntries (indent : List Char) : List (String × Value) → List Char
  | [] => []
  | (k, v) :: rest =>
    '\n' :: (indent ++ Json.quoteChars k.toList ++ ':' :: ' ' :: (layout indent v ++ match rest with
      | [] => []
      | _ :: _ => ',' :: layoutEntries indent rest))

def layoutItems (indent : List Char) : List Value → List Char
  | [] => []
  | v :: rest =>
    '\n' :: (indent ++ (layout indent v ++ match rest with
      | [] => []
      | _ :: _ => ',' :: layoutItems indent rest))

end

def pretty (v : Value) : String := String.ofList (v.layout [])

/-! ## Description -/

mutual

def describe : Value → String
  | .str s => "Str(" ++ Text.quote s ++ ")"
  | .map m => r"Map({" ++ describeEntries m ++ r"})"
  | .list l => "List([" ++ describeItems l ++ "])"

def describeEntries : List (String × Value) → String
  | [] => ""
  | (k, v) :: rest =>
    Text.quote k ++ ": " ++ describe v ++ match rest with
      | [] => ""
      | _ :: _ => ", " ++ describeEntries rest

def describeItems : List Value → String
  | [] => ""
  | v :: rest => describe v ++ match rest with
      | [] => ""
      | _ :: _ => ", " ++ describeItems rest

end

/-! ## Keys -/

mutual

def Distinct : Value → Prop
  | .str _ => True
  | .map m => Entries.Distinct m ∧ DistinctEntries m
  | .list l => DistinctItems l

def DistinctEntries : List (String × Value) → Prop
  | [] => True
  | (_, v) :: rest => Distinct v ∧ DistinctEntries rest

def DistinctItems : List Value → Prop
  | [] => True
  | v :: rest => Distinct v ∧ DistinctItems rest

end

end Value

end LineRules
