/-
  LineRules.Pattern.Node — what is matched, in a normal form.

  A node is built by `concat`, `alternation`, `repeated` and `ofSet`, which keep it normal: parts
  in sequence are not nested, adjacent texts are one text, a set of one character is a text,
  alternatives that are single characters are one set. Alternatives that begin with the same
  parts have those parts only once, in front of what differs:

    a*x|a*y   is   a*(?:x|y)

  Repetitions in front then go as far as any alternative allows before the first one is
  preferred to the second, so the normal form decides which match is found.
-/

import LineRules.Pattern.Ast
import LineRules.Unicode.CodeSet

namespace LineRules.Pattern

open Unicode (CodeSet)

/-- Conditions on a position, `unicode` telling which characters make up words. -/
inductive Look where
  | textStart
  | textEnd
  | lineStart (crlf : Bool)
  | lineEnd (crlf : Bool)
  | boundary (unicode : Bool)
  | notBoundary (unicode : Bool)
  | wordStart (unicode : Bool)
  | wordEnd (unicode : Bool)
  | wordStartHalf (unicode : Bool)
  | wordEndHalf (unicode : Bool)
  deriving DecidableEq, Repr

inductive Node where
  | empty
  /-- One character after another, at least one. -/
  | text (codes : List Nat)
  /-- One character of a set. A set that was written without Unicode is marked as such, and is
      another node than the same set written with it. -/
  | set (ascii : Bool) (codes : CodeSet)
  | look (l : Look)
  /-- A part, and the parts after it. -/
  | cat (a b : Node)
  /-- An alternative, and those after it; the first one is preferred. -/
  | alt (a b : Node)
  | capture (index : Nat) (name : Option String) (body : Node)
  | repetition (min : Nat) (max : Option Nat) (greedy : Bool) (body : Node)
  deriving DecidableEq, Repr, Inhabited

namespace Node

def fail : Node := .set true []

def ofSet (ascii : Bool) (s : CodeSet) : Node :=
  match s with
  | [] => fail
  | [(lo, hi)] => if lo = hi then .text [lo] else .set ascii s
  | s => .set ascii s

/-! ## Sequences -/

def parts : Node → List Node
  | .empty => []
  | .cat a b => a :: b.parts
  | n => [n]

def ofParts : List Node → Node
  | [] => .empty
  | [n] => n
  | n :: m :: rest => .cat n (ofParts (m :: rest))

/-- Put a part before others. A text is joined with one that follows it. -/
def consPart : Node → List Node → List Node
  | .text s, .text t :: rest => .text (s ++ t) :: rest
  | n, rest => n :: rest

def concat (ns : List Node) : Node := ofParts ((ns.flatMap parts).foldr consPart [])

/-! ## Alternatives -/

def branches : Node → List Node
  | .alt a b => a :: b.branches
  | n => [n]

def ofBranches : List Node → Node
  | [] => fail
  | [n] => n
  | n :: m :: rest => .alt n (ofBranches (m :: rest))

def single? : Node → Option Nat
  | .text [c] => some c
  | _ => none

def codes? : Node → Option CodeSet
  | .set _ s => some s
  | _ => none

def isSequence : Node → Bool
  | .cat _ _ => true
  | _ => false

def commonPrefix : List Node → List Node → List Node
  | a :: s, b :: t => if a = b then a :: commonPrefix s t else []
  | _, _ => []

def commonParts : List (List Node) → List Node
  | [] => []
  | [s] => s
  | s :: rest => commonPrefix s (commonParts rest)

/-- The parts that all branches begin with, if each branch is a sequence. -/
def shared (bs : List Node) : List Node := if bs.all isSequence then commonParts (bs.map parts) else []

def weight : Node → Nat
  | .cat a b => a.weight + b.weight + 1
  | .alt a b => a.weight + b.weight + 1
  | .capture _ _ body => body.weight + 1
  | .repetition _ _ _ body => body.weight + 1
  | _ => 1

/-- Alternatives in normal form. Every step down takes a part off each branch, so their weight
    bounds the number of steps. -/
def alternationWithin : Nat → List Node → Node
  | 0, ns => ofBranches (ns.flatMap branches)
  | fuel + 1, ns =>
    match ns.flatMap branches with
    | [] => fail
    | [n] => n
    | bs =>
      match bs.mapM single?, bs.mapM codes? with
      | some cs, _ => ofSet false (CodeSet.ofIntervals (cs.map fun c => (c, c)))
      | none, some sets => ofSet false (sets.foldl CodeSet.union [])
      | none, none =>
        match shared bs with
        | [] => ofBranches bs
        | front => concat (front ++ [alternationWithin fuel (bs.map fun b => concat (b.parts.drop front.length))])

def alternation (ns : List Node) : Node := alternationWithin (ns.foldl (fun k n => k + n.weight) 1) ns

/-! ## Repetitions -/

/-- Can match without taking a character. -/
def nullable : Node → Bool
  | .empty => true
  | .text _ => false
  | .set _ _ => false
  | .look _ => true
  | .cat a b => a.nullable && b.nullable
  | .alt a b => a.nullable || b.nullable
  | .capture _ _ body => body.nullable
  | .repetition min _ _ body => min = 0 || body.nullable

/-- Never takes a character. -/
def blank : Node → Bool
  | .empty => true
  | .text _ => false
  | .set _ _ => false
  | .look _ => true
  | .cat a b => a.blank && b.blank
  | .alt a b => a.blank && b.blank
  | .capture _ _ body => body.blank
  | .repetition _ _ _ body => body.blank

/-- A repetition. What never takes a character is tried at most once, none at all is nothing,
    and exactly one is the body itself. -/
def repeated (min : Nat) (max : Option Nat) (greedy : Bool) (body : Node) : Node :=
  let (min, max) := if body.blank then (Nat.min min 1, some (Nat.min (max.getD 1) 1)) else (min, max)
  match min, max with
  | 0, some 0 => .empty
  | 1, some 1 => body
  | min, max => .repetition min max greedy body

/-! ## Groups -/

def groups : Node → List (Nat × Option String)
  | .empty => []
  | .text _ => []
  | .set _ _ => []
  | .look _ => []
  | .cat a b => a.groups ++ b.groups
  | .alt a b => a.groups ++ b.groups
  | .capture index name body => (index, name) :: body.groups
  | .repetition _ _ _ body => body.groups

/-- The names of the groups by number, from group 0 on; a number without a group has none. -/
def groupNames (n : Node) : List (Option String) :=
  let groups := n.groups
  let count := groups.foldl (fun k g => max k (g.1 + 1)) 1
  (List.range count).map fun i => (groups.lookup i).bind id

end Node

end LineRules.Pattern
