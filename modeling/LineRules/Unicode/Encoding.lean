/-
  LineRules.Unicode.Encoding — code points as bytes.

  `encode` gives the one to four bytes of a code point. `byteRows` cuts an interval of code
  points into rows of byte intervals: a row stands for all code points whose first byte lies in
  its first interval, whose second byte lies in the second one, and so on.
-/

import LineRules.Unicode.CodeSet

namespace LineRules.Unicode

def encode (n : Nat) : List Nat :=
  if n < 0x80 then [n]
  else if n < 0x800 then [0xC0 + n / 0x40, 0x80 + n % 0x40]
  else if n < 0x10000 then [0xE0 + n / 0x1000, 0x80 + n / 0x40 % 0x40, 0x80 + n % 0x40]
  else [0xF0 + n / 0x40000, 0x80 + n / 0x1000 % 0x40, 0x80 + n / 0x40 % 0x40, 0x80 + n % 0x40]

def cutAtSurrogates (i : Nat × Nat) : List (Nat × Nat) :=
  if i.1 < 0xE000 ∧ 0xD7FF < i.2 then
    (if i.1 ≤ 0xD7FF then [(i.1, 0xD7FF)] else []) ++ (if 0xE000 ≤ i.2 then [(0xE000, i.2)] else [])
  else [i]

def cutAfter (last : Nat) (i : Nat × Nat) : List (Nat × Nat) :=
  if i.1 ≤ last ∧ last < i.2 then [(i.1, last), (last + 1, i.2)] else [i]

/-- The end of an interval, from the last multiple of `size` in it on, if that block is not full. -/
def cutTail (size : Nat) (i : Nat × Nat) : List (Nat × Nat) :=
  if i.1 / size ≠ i.2 / size ∧ (i.2 + 1) % size ≠ 0 then
    [(i.1, i.2 - i.2 % size - 1), (i.2 - i.2 % size, i.2)]
  else [i]

/-- An interval that begins or ends inside a block of `size` code points loses that part of the
    block; ASCII is one block. -/
def cutBlocks (size : Nat) (i : Nat × Nat) : List (Nat × Nat) :=
  if i.2 < 0x80 then [i]
  else if i.1 / size ≠ i.2 / size ∧ i.1 % size ≠ 0 then
    let next := i.1 - i.1 % size + size
    (i.1, next - 1) :: cutTail size (next, i.2)
  else cutTail size i

def byteRows (i : Nat × Nat) : List (List (Nat × Nat)) :=
  let oneLength := (((cutAtSurrogates i).flatMap (cutAfter 0x7F)).flatMap (cutAfter 0x7FF)).flatMap (cutAfter 0xFFFF)
  let whole := ((oneLength.flatMap (cutBlocks 0x40)).flatMap (cutBlocks 0x1000)).flatMap (cutBlocks 0x40000)
  whole.map fun (lo, hi) => (encode lo).zip (encode hi)

end LineRules.Unicode
