/-
  LineRules.Unicode.Folding — simple case folding of sets.

  `foldClosure` adds to a set every code point that simple case folding identifies with a
  member.
-/

import LineRules.Unicode.CaseTable

namespace LineRules.Unicode

def foldPairs : List (Nat × Nat) := foldMap.toPairs

/-- The set together with all case variants of its members. -/
def foldClosure (s : CodeSet) : CodeSet :=
  let withImages := foldPairs.foldl (fun t p => if s.contains p.1 then t.insert p.2 p.2 else t) s
  foldPairs.foldl (fun t p => if withImages.contains p.2 then t.insert p.1 p.1 else t) withImages

/-- The set together with the other case of its ASCII letters. -/
def foldClosureAscii (s : CodeSet) : CodeSet :=
  (List.range 26).foldl (fun t k =>
    let upper := 0x41 + k
    let lower := 0x61 + k
    if s.contains upper || s.contains lower then (CodeSet.insert t upper upper).insert lower lower else t) s

end LineRules.Unicode
