/-
  LineRules.Tree — writing values into a tree.

  A place is a list of segments. Mappings on the way are created where nothing or something
  else stands; a list segment appends, on the way a new mapping and at the end the value.
  A list stays a list: what is stored there is appended. A mapping stored over a mapping is
  merged into it key by key, any other value replaces what was there.
-/

import LineRules.Key
import LineRules.Value

namespace LineRules

/-- A step of a place: a key, and whether the place is an element of the list there. -/
structure Segment where
  key : String
  list : Bool
  deriving DecidableEq, Repr

namespace Segment

/-- The segment that a text stands for; `[]` at the end marks a list. -/
def ofText (text : String) : Segment :=
  match text.toList.reverse with
  | ']' :: '[' :: rest => ⟨Key.ofText (String.ofList rest.reverse), true⟩
  | _ => ⟨Key.ofText text, false⟩

def text (s : Segment) : String := if s.list then s.key ++ "[]" else s.key

end Segment

namespace Tree

/-- The mapping under a key; no entries if something else or nothing is there. -/
def mappingAt (m : Entries Value) (key : String) : Entries Value :=
  match Entries.find? m key with
  | some (.map es) => es
  | _ => []

def listAt (m : Entries Value) (key : String) : List Value :=
  match Entries.find? m key with
  | some (.list items) => items
  | _ => []

def storeLast (m : Entries Value) (s : Segment) (value : Value) : Entries Value :=
  if s.list then Entries.insert m s.key (.list (listAt m s.key ++ [value]))
  else
    match Entries.find? m s.key with
    | some (.list items) => Entries.insert m s.key (.list (items ++ [value]))
    | _ =>
      match value with
      | .map es => Entries.insert m s.key (.map (Entries.insertAll (mappingAt m s.key) es))
      | other => Entries.insert m s.key other

def storeAt (m : Entries Value) (value : Value) : Segment → List Segment → Entries Value
  | s, [] => storeLast m s value
  | s, next :: rest =>
    if s.list then
      Entries.insert m s.key (.list (listAt m s.key ++ [.map (storeAt [] value next rest)]))
    else Entries.insert m s.key (.map (storeAt (mappingAt m s.key) value next rest))

/-- Write a value at a place. At the root a mapping is merged; nothing else can stand there. -/
def store? (m : Entries Value) (place : List Segment) (value : Value) : Option (Entries Value) :=
  match place with
  | s :: rest => some (storeAt m value s rest)
  | [] =>
    match value with
    | .map es => some (Entries.insertAll m es)
    | _ => none

end Tree

end LineRules
