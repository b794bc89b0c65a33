/-
  LineRules.Template — text with placeholders that a context fills in.

  `{field}` stands for the text of a context entry, `{{` and `}}` for single braces; a lone
  `}` and a `{` that nothing closes stand for themselves. A field names an entry and may go on
  into mappings and lists, `{record[name].size}`; what follows `:` or `!` is left out.
  Expansion never fails: a missing entry or child shows up as a text that says so.
-/

import LineRules.Context
import LineRules.Unicode.Word

namespace LineRules.Template

/-! ## Fields -/

mutual

/-- The keys of a chain such as `[name].sub`; the chain ends where neither `[` nor `.` follows. -/
def accessors : List Char → List (List Char)
  | [] => []
  | '[' :: rest => bracketed [] rest
  | '.' :: rest => dotted [] rest
  | _ :: _ => []

/-- A key up to `]` or the end; `key` holds what was read, last first. -/
def bracketed (key : List Char) : List Char → List (List Char)
  | [] => [key.reverse]
  | c :: rest => if c = ']' then key.reverse :: accessors rest else bracketed (c :: key) rest

/-- A key up to the next `[` or `.` or the end. -/
def dotted (key : List Char) : List Char → List (List Char)
  | [] => [key.reverse]
  | c :: rest =>
    if c = '[' then key.reverse :: bracketed [] rest
    else if c = '.' then key.reverse :: dotted [] rest
    else dotted (c :: key) rest

end

structure Field where
  head : String
  keys : List String
  deriving DecidableEq, Repr

def Field.ofChars (cs : List Char) : Field :=
  let name := Unicode.trimChars (cs.takeWhile fun c => c ≠ ':' ∧ c ≠ '!')
  let isHead (c : Char) : Bool := c ≠ '[' ∧ c ≠ '.'
  { head := String.ofList (name.takeWhile isHead)
    keys := (accessors (name.dropWhile isHead)).map String.ofList }

def decimalValue? (cs : List Char) : Option Nat :=
  if cs.isEmpty then none
  else cs.foldl (fun n c =>
    n.bind fun n => if '0' ≤ c ∧ c ≤ '9' then some (10 * n + (c.toNat - '0'.toNat)) else none) (some 0)

/-- List positions fit 64 bits. -/
def maxPosition : Nat := 0xFFFFFFFFFFFFFFFF

/-- A list position: decimal digits, perhaps after `+`, of a number that is not too large. -/
def position? (key : String) : Option Nat :=
  let digits := match key.toList with
    | '+' :: rest => rest
    | cs => cs
  (decimalValue? digits).filter (· ≤ maxPosition)

/-- The child of a value under a key: of a mapping by name, of a list by position. -/
def child? (v : Value) (key : String) : Option Value :=
  match v with
  | .map m => Entries.find? m key
  | .list items => (position? key).bind fun i => items[i]?
  | .str _ => none

def walk (v : Value) : List String → String
  | [] => v.display
  | key :: keys =>
    match child? v key with
    | some child => walk child keys
    | none => "_" ++ key ++ "_not_found"

def lookup (c : Context) (field : List Char) : String :=
  let f := Field.ofChars field
  match c.get? f.head with
  | some v => walk v f.keys
  | none => "UNKNOWN_CONTEXT_KEY_" ++ f.head

/-! ## Expansion -/

mutual

def expandChars (c : Context) : List Char → List Char
  | [] => []
  | '{' :: '{' :: rest => '{' :: expandChars c rest
  | '}' :: '}' :: rest => '}' :: expandChars c rest
  | '{' :: rest => expandField c [] rest
  | x :: rest => x :: expandChars c rest

/-- Inside a placeholder; `field` holds what was read, last first. -/
def expandField (c : Context) (field : List Char) : List Char → List Char
  | [] => '{' :: field.reverse
  | x :: rest =>
    if x = '}' then (lookup c field.reverse).toList ++ expandChars c rest
    else expandField c (x :: field) rest

end

def expand (template : String) (c : Context) : String := String.ofList (expandChars c template.toList)

end LineRules.Template
