/-
  LineRules.Unicode.CodeSet — sets of code points as closed intervals.

  A set is a list of intervals that ascend and do not touch, whose ends are no surrogates.
  `insert` keeps that form, and so do the set operations. `ofText` reads a set written as
  hexadecimal intervals, `41-5A 61`.
-/

namespace LineRules.Unicode

/-- Closed intervals of code points, ascending and not touching one another. -/
abbrev CodeSet := List (Nat × Nat)

namespace CodeSet

def maxCode : Nat := 0x10FFFF

def contains : CodeSet → Nat → Bool
  | [], _ => false
  | (lo, hi) :: rest, n => if n < lo then false else if n ≤ hi then true else contains rest n

def insert : CodeSet → Nat → Nat → CodeSet
  | [], lo, hi => [(lo, hi)]
  | (a, b) :: rest, lo, hi =>
    if hi + 1 < a then (lo, hi) :: (a, b) :: rest
    else if b + 1 < lo then (a, b) :: insert rest lo hi
    else insert rest (min a lo) (max b hi)

def ofIntervals (intervals : List (Nat × Nat)) : CodeSet :=
  intervals.foldl (fun s i => insert s i.1 i.2) []

/-- Intervals that touch are joined, and the joined one goes on from where it ends. -/
def union : CodeSet → CodeSet → CodeSet
  | [], t => t
  | i :: s, [] => i :: s
  | (a, b) :: s, (c, d) :: t =>
    if b + 1 < c then (a, b) :: union s ((c, d) :: t)
    else if d + 1 < a then (c, d) :: union ((a, b) :: s) t
    else if b ≤ d then union s ((min a c, d) :: t)
    else union ((min a c, b) :: s) t
termination_by s t => s.length + t.length

/-- The code point after, where the surrogates are passed over. -/
def succ (n : Nat) : Nat := if n = 0xD7FF then 0xE000 else n + 1

def pred (n : Nat) : Nat := if n = 0xE000 then 0xD7FF else n - 1

/-- What lies beyond the intervals, from `start` on. Two intervals that meet around the
    surrogates have nothing between them but their own ends, which are taken in order. -/
def complFrom (start : Nat) : CodeSet → CodeSet
  | [] => if start ≤ maxCode then [(start, maxCode)] else []
  | (a, b) :: rest => (min start (pred a), max start (pred a)) :: complFrom (succ b) rest

def compl : CodeSet → CodeSet
  | (0, b) :: rest => complFrom (succ b) rest
  | s => complFrom 0 s

def inter : CodeSet → CodeSet → CodeSet
  | [], _ => []
  | _ :: _, [] => []
  | (a, b) :: s, (c, d) :: t =>
    let rest := if b < d then inter s ((c, d) :: t) else inter ((a, b) :: s) t
    if max a c ≤ min b d then (max a c, min b d) :: rest else rest
termination_by s t => s.length + t.length

def cutFrom (lo hi : Nat) : CodeSet → CodeSet
  | [] => [(lo, hi)]
  | (a, b) :: rest =>
    if b < lo then cutFrom lo hi rest
    else if hi < a then [(lo, hi)]
    else
      let after := if b < hi then cutFrom (succ b) hi rest else []
      if lo < a then (lo, pred a) :: after else after

def diff (s t : CodeSet) : CodeSet := s.flatMap fun i => cutFrom i.1 i.2 t

def symmDiff (s t : CodeSet) : CodeSet := diff (union s t) (inter s t)

def isAscii (s : CodeSet) : Bool := s.all fun i => i.2 < 0x80

/-! ## Sets written as text -/

def hexDigit? (c : Char) : Option Nat :=
  if '0' ≤ c ∧ c ≤ '9' then some (c.toNat - '0'.toNat)
  else if 'a' ≤ c ∧ c ≤ 'f' then some (c.toNat - 'a'.toNat + 10)
  else if 'A' ≤ c ∧ c ≤ 'F' then some (c.toNat - 'A'.toNat + 10)
  else none

def hexValue (digits : List Char) : Nat :=
  digits.foldl (fun n c => match hexDigit? c with | some d => 16 * n + d | none => n) 0

def words : List Char → List (List Char)
  | [] => []
  | c :: rest =>
    if c = ' ' ∨ c = '\n' then [] :: words rest
    else match words rest with
      | [] => [[c]]
      | w :: ws => (c :: w) :: ws

/-- Read intervals such as `41-5A 61`. -/
def ofText (text : String) : CodeSet :=
  ((words text.toList).filter fun w => !w.isEmpty).map fun w =>
    let lo := w.takeWhile (· ≠ '-')
    let hi := (w.dropWhile (· ≠ '-')).drop 1
    (hexValue lo, if hi.isEmpty then hexValue lo else hexValue hi)

end CodeSet

end LineRules.Unicode
