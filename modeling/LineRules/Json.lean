/-
  LineRules.Json — JSON documents and the text of their numbers.

  Objects are kept sorted by key, each key once. A number that has neither fraction nor
  exponent and fits 64 bits is a whole number; any other is a double.
-/

import LineRules.Decimal.Shortest
import LineRules.Json.Text

namespace LineRules

inductive Json.Number where
  | natural (n : Nat)
  /-- The number `-n`. -/
  | negative (n : Nat)
  | real (x : Float)

inductive Json where
  | null
  | bool (b : Bool)
  | number (n : Json.Number)
  | string (s : String)
  | array (items : List Json)
  | object (entries : List (String × Json))

namespace Json

/-- How doubles are written: positional from `10 ^ -5` up to `10 ^ 16`, always with a
    point, otherwise with an exponent that shows its sign. -/
def realText (x : Float) : String :=
  let sign := if x.toBits.toNat < 0x8000000000000000 then "" else "-"
  if x.toBits.toNat % 0x8000000000000000 = 0 then sign ++ "0.0"
  else
    let d := Decimal.shortest x
    let digits := Nat.toDigits 10 d.digits
    -- the number is 0.digits * 10 ^ point
    let point := d.exponent + digits.length
    let body : List Char :=
      if 0 ≤ d.exponent ∧ point ≤ 16 then digits ++ List.replicate d.exponent.toNat '0' ++ ['.', '0']
      else if 0 < point ∧ point ≤ 16 then digits.take point.toNat ++ '.' :: digits.drop point.toNat
      else if -5 < point ∧ point ≤ 0 then '0' :: '.' :: (List.replicate (-point).toNat '0' ++ digits)
      else
        let mantissa := match digits with
          | first :: second :: rest => first :: '.' :: second :: rest
          | _ => digits
        let e := point - 1
        mantissa ++ 'e' :: (if e < 0 then '-' else '+') :: Nat.toDigits 10 e.natAbs
    sign ++ String.ofList body

def Number.text : Number → String
  | .natural n => toString n
  | .negative n => "-" ++ toString n
  | .real x => realText x

mutual

def render : Json → List Char
  | .null => ['n', 'u', 'l', 'l']
  | .bool true => ['t', 'r', 'u', 'e']
  | .bool false => ['f', 'a', 'l', 's', 'e']
  | .number n => n.text.toList
  | .string s => quoteChars s.toList
  | .array items => '[' :: (renderItems items ++ [']'])
  | .object entries => '{' :: (renderEntries entries ++ ['}'])

def renderItems : List Json → List Char
  | [] => []
  | v :: rest => render v ++ match rest with
      | [] => []
      | _ :: _ => ',' :: renderItems rest

def renderEntries : List (String × Json) → List Char
  | [] => []
  | (k, v) :: rest =>
    quoteChars k.toList ++ ':' :: (render v ++ match rest with
      | [] => []
      | _ :: _ => ',' :: renderEntries rest)

end

def compact (j : Json) : String := String.ofList j.render

/-! ## Look-ups -/

def text? : Json → Option String
  | .string s => some s
  | _ => none

def items? : Json → Option (List Json)
  | .array items => some items
  | _ => none

/-- The member of an object under `key`; `null` if there is none. -/
def member (j : Json) (key : String) : Json :=
  match j with
  | .object entries => (entries.lookup key).getD .null
  | _ => .null

/-- Insert into sorted entries; an entry with the same key is replaced. -/
def insertSorted (key : String) (value : Json) : List (String × Json) → List (String × Json)
  | [] => [(key, value)]
  | (k, v) :: rest =>
    if key = k then (key, value) :: rest
    else if key < k then (key, value) :: (k, v) :: rest
    else (k, v) :: insertSorted key value rest

/-- The object with these members; of members with one key the last counts. -/
def ofMembers (members : List (String × Json)) : Json :=
  .object (members.foldl (fun entries m => insertSorted m.1 m.2 entries) [])

end Json

end LineRules
