/-
  LineRules.Context — what a scan remembers from line to line.

  A context is a dictionary of values in order of first insertion. `perform` also answers what
  was under the key before. Buffers are ordinary entries that hold a mapping: `openFresh` starts
  a buffer anew, `openKept` keeps a mapping that is there and starts anew otherwise.
-/

import LineRules.Value

namespace LineRules

structure Context where
  entries : Entries Value := []
  deriving Repr, Inhabited

namespace Context

def empty : Context := ⟨[]⟩

def ofPairs (pairs : List (String × Value)) : Context := ⟨Entries.ofPairs pairs⟩

def get? (c : Context) (key : String) : Option Value := Entries.find? c.entries key

def insert (c : Context) (key : String) (value : Value) : Context := ⟨Entries.insert c.entries key value⟩

def remove (c : Context) (key : String) : Context := ⟨Entries.erase c.entries key⟩

def insertAll (c : Context) (entries : Entries Value) : Context := ⟨Entries.insertAll c.entries entries⟩

inductive Operation where
  | insert (key : String) (value : Value)
  | remove (key : String)
  | get (key : String)
  deriving Repr

def Operation.key : Operation → String
  | .insert key _ => key
  | .remove key => key
  | .get key => key

def perform (c : Context) : Operation → Option Value × Context
  | .insert key value =>
    match Entries.exchange c.entries key value with
    | (old, entries) => (old, ⟨entries⟩)
  | .remove key =>
    match Entries.withdraw c.entries key with
    | (old, entries) => (old, ⟨entries⟩)
  | .get key => (c.get? key, c)

def size (c : Context) : Nat := c.entries.length

def isEmpty (c : Context) : Bool := c.entries.isEmpty

/-- The mapping that an entry holds; no entries if there is none or it is no mapping. -/
def mappingAt (c : Context) (key : String) : Entries Value :=
  match c.get? key with
  | some (.map m) => m
  | _ => []

def openFresh (c : Context) (name : String) : Context := c.insert name .emptyMap

/-- Make sure that the buffer `name` holds a mapping, the one it holds already if it does. -/
def openKept (c : Context) (name : String) : Context := c.insert name (.map (c.mappingAt name))

/-- An entry as a value to store; a missing one counts as an empty mapping. -/
def fetch (c : Context) (name : String) : Value := (c.get? name).getD .emptyMap

end Context

end LineRules
