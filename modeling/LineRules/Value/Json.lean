/-
  LineRules.Value.Json — values and JSON documents.

  A document becomes a value whose leaves are texts: `null` is empty, truth values and
  numbers are written out. A value becomes a document of strings, arrays and objects, with
  the keys of its objects sorted.
-/

import LineRules.Json
import LineRules.Value

namespace LineRules.Value

mutual

def ofJson : Json → Value
  | .null => .str ""
  | .bool true => .str "true"
  | .bool false => .str "false"
  | .number n => .str n.text
  | .string s => .str s
  | .array items => .list (ofJsonItems items)
  | .object entries => .map (ofJsonEntries entries)

def ofJsonItems : List Json → List Value
  | [] => []
  | j :: rest => ofJson j :: ofJsonItems rest

def ofJsonEntries : List (String × Json) → List (String × Value)
  | [] => []
  | (k, j) :: rest => (k, ofJson j) :: ofJsonEntries rest

end

mutual

def toJson : Value → Json
  | .str s => .string s
  | .map m => .ofMembers (toJsonEntries m)
  | .list l => .array (toJsonItems l)

def toJsonItems : List Value → List Json
  | [] => []
  | v :: rest => toJson v :: toJsonItems rest

def toJsonEntries : List (String × Value) → List (String × Json)
  | [] => []
  | (k, v) :: rest => (k, toJson v) :: toJsonEntries rest

end

end LineRules.Value
