/-
  LineRules.Decimal.Shortest — the shortest decimal that reads back as a binary number.

  A finite positive double is `m * 2 ^ q`; every real strictly between the midpoints to its
  two neighbours rounds to it, and so do the midpoints themselves if `m` is even.
  `shortest` tries grids of one to seventeen significant digits. On each grid only the two
  points next to the value can hit, the first grid with a hit wins, and of two hits the
  nearer is taken.
-/

namespace LineRules

/-- The number `digits * 10 ^ exponent`. -/
structure Decimal where
  digits : Nat
  exponent : Int
  deriving DecidableEq, Repr

namespace Decimal

/-- The positive number `m * 2 ^ q`, with the interval of reals that round to it: from
    `lo` to `hi` in units of `2 ^ (q - 2)`, ends included if `closed`. -/
structure Rounding where
  m : Nat
  q : Int
  lo : Nat
  hi : Nat
  closed : Bool
  deriving DecidableEq, Repr

/-- The rounding interval of the finite positive double with the given bits. Below a power of
    two the neighbours are half as far apart. -/
def Rounding.ofBits (bits : Nat) : Rounding :=
  let fraction : Nat := bits % 0x10000000000000
  let biased : Nat := bits / 0x10000000000000 % 0x800
  let m : Nat := if biased = 0 then fraction else 0x10000000000000 + fraction
  let q : Int := if biased = 0 then -1074 else (biased : Int) - 1075
  { m, q, lo := if fraction = 0 ∧ 1 < biased then 4 * m - 1 else 4 * m - 2, hi := 4 * m + 2, closed := m % 2 == 0 }

/-- Powers as a pair of factors, one for each side of a comparison. -/
def splitPower (base : Nat) (e : Int) : Nat × Nat :=
  if 0 ≤ e then (Nat.pow base e.toNat, 1) else (1, Nat.pow base (-e).toNat)

def compareScaled (a : Nat) (q : Int) (b : Nat) (p : Int) : Ordering :=
  let (t, t') := splitPower 2 q
  let (d, d') := splitPower 10 p
  compare (a * t * d') (b * d * t')

/-- The point `b * 10 ^ p` of a grid rounds to the number. -/
def Rounding.covers (r : Rounding) (b : Nat) (p : Int) : Bool :=
  let low := compareScaled r.lo (r.q - 2) b p
  let high := compareScaled r.hi (r.q - 2) b p
  (low == .lt || (r.closed && low == .eq)) && (high == .gt || (r.closed && high == .eq))

/-- The largest `b` with `b * 10 ^ p ≤ m * 2 ^ q`. -/
def floorOnGrid (m : Nat) (q p : Int) : Nat :=
  let (t, t') := splitPower 2 q
  let (d, d') := splitPower 10 p
  m * t * d' / (d * t')

/-- Of two neighbours on the grid, the one nearer to the value; the even one if both are as near. -/
def nearer (m : Nat) (q : Int) (b : Nat) (p : Int) : Nat :=
  match compareScaled (2 * m) q (2 * b + 1) p with
  | .lt => b
  | .gt => b + 1
  | .eq => if b % 2 = 0 then b else b + 1

/-- The least `e` with `m * 2 ^ q < 10 ^ e`, searched upwards. -/
def magnitudeFrom (m : Nat) (q : Int) : Nat → Int → Int
  | 0, e => e
  | fuel + 1, e => if compareScaled m q 1 e == .lt then e else magnitudeFrom m q fuel (e + 1)

def Rounding.onGrid? (r : Rounding) (p : Int) : Option Nat :=
  let b := floorOnGrid r.m r.q p
  match r.covers b p, r.covers (b + 1) p with
  | true, true => some (nearer r.m r.q b p)
  | true, false => some b
  | false, true => some (b + 1)
  | false, false => none

/-- Try grids of `n`, `n + 1`, … significant digits. -/
def Rounding.search (r : Rounding) (magnitude : Int) : Nat → Nat → Decimal
  | 0, n => ⟨floorOnGrid r.m r.q (magnitude - n), magnitude - n⟩
  | fuel + 1, n =>
    match r.onGrid? (magnitude - n) with
    | some b => ⟨b, magnitude - n⟩
    | none => search r magnitude fuel (n + 1)

/-- A lower estimate of the magnitude: `m * 2 ^ q` is at least `2 ^ (log2 m + q)`, and the
    logarithm of 2 is about 0.30103. -/
def magnitudeEstimate (m : Nat) (q : Int) : Int := ((m.log2 : Int) + q) * 30103 / 100000 - 1

def Rounding.shortest (r : Rounding) : Decimal :=
  r.search (magnitudeFrom r.m r.q 6 (magnitudeEstimate r.m r.q)) 17 1

def stripZeros : Nat → Decimal → Decimal
  | 0, d => d
  | fuel + 1, d => if d.digits % 10 = 0 ∧ d.digits ≠ 0 then stripZeros fuel ⟨d.digits / 10, d.exponent + 1⟩ else d

def shortest (x : Float) : Decimal := stripZeros 20 (Rounding.ofBits (x.toBits.toNat % 0x8000000000000000)).shortest

end Decimal

end LineRules
