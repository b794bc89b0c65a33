/-
  LineRules.Json.Reader — reading JSON text.

  The reader is strict: no comments, no trailing commas, no byte order mark, no raw control
  characters or lone surrogates in strings, nothing after the document. Arrays and objects
  nest at most 127 deep, and a number must lie within the range of doubles. Every reader
  takes the characters that are left and returns those that it leaves. Blanks before a value
  or before members change nothing (`readValue_blanks`, `readMembers_blanks`).
-/

import LineRules.Json

namespace LineRules.Json

def maxDepth : Nat := 127

def isBlank (c : Char) : Bool := c = ' ' || c = '\n' || c = '\t' || c = '\r'

def skipBlank (cs : List Char) : List Char := cs.dropWhile isBlank

/-! ## Strings -/

def hexDigit? (c : Char) : Option Nat :=
  if '0' ≤ c ∧ c ≤ '9' then some (c.toNat - '0'.toNat)
  else if 'a' ≤ c ∧ c ≤ 'f' then some (c.toNat - 'a'.toNat + 10)
  else if 'A' ≤ c ∧ c ≤ 'F' then some (c.toNat - 'A'.toNat + 10)
  else none

def hex4? (a b c d : Char) : Option Nat := do
  let a ← hexDigit? a
  let b ← hexDigit? b
  let c ← hexDigit? c
  let d ← hexDigit? d
  return ((a * 16 + b) * 16 + c) * 16 + d

def simpleEscape? (c : Char) : Option Char :=
  match c with
  | '"' => some '"'
  | '\\' => some '\\'
  | '/' => some '/'
  | 'b' => some '\x08'
  | 'f' => some '\x0c'
  | 'n' => some '\n'
  | 'r' => some '\r'
  | 't' => some '\t'
  | _ => none

/-- The rest of a string, after its opening quote; `done` holds what was read, last first. -/
def readString (done : List Char) : List Char → Option (String × List Char)
  | [] => none
  | '"' :: rest => some (String.ofList done.reverse, rest)
  | '\\' :: 'u' :: a :: b :: c :: d :: rest =>
    match hex4? a b c d with
    | none => none
    | some n =>
      if 0xDC00 ≤ n ∧ n ≤ 0xDFFF then none
      else if 0xD800 ≤ n ∧ n ≤ 0xDBFF then
        match rest with
        | '\\' :: 'u' :: a :: b :: c :: d :: rest =>
          match hex4? a b c d with
          | none => none
          | some low =>
            if 0xDC00 ≤ low ∧ low ≤ 0xDFFF then
              readString (Char.ofNat (0x10000 + (n - 0xD800) * 0x400 + (low - 0xDC00)) :: done) rest
            else none
        | _ => none
      else readString (Char.ofNat n :: done) rest
  | '\\' :: c :: rest =>
    match simpleEscape? c with
    | some e => readString (e :: done) rest
    | none => none
  | c :: rest => if c.toNat < 0x20 ∨ c = '\\' then none else readString (c :: done) rest

/-! ## Numbers -/

def maxSignificand : Nat := 0xFFFFFFFFFFFFFFFF

def maxExponent : Int := 0x7FFFFFFF

def minExponent : Int := -0x80000000

def digit? (c : Char) : Option Nat := if '0' ≤ c ∧ c ≤ '9' then some (c.toNat - '0'.toNat) else none

def powerOfTen (e : Nat) : Float := Float.ofScientific 1 false e

/-- The double `f * 10 ^ e`, one step for every 308 powers; nothing if it is out of range. -/
def scale? : Nat → Float → Int → Option Float
  | 0, f, _ => some f
  | fuel + 1, f, e =>
    if e.natAbs ≤ 308 then
      if 0 ≤ e then
        let x := f * powerOfTen e.natAbs
        if x == 1.0 / 0.0 then none else some x
      else some (f / powerOfTen e.natAbs)
    else if f == 0.0 then some f
    else if 0 ≤ e then none
    else scale? fuel (f / powerOfTen 308) (e + 308)

def realNumber? (positive : Bool) (significand : Nat) (e : Int) : Option Number :=
  (scale? 8 (UInt64.ofNat significand).toFloat e).map fun x => .real (if positive then x else -x)

/-- The digits of an exponent after the first; `none` stands for an exponent out of range. -/
def readExponentDigits (e : Int) : List Char → Option Int × List Char
  | [] => (some e, [])
  | c :: rest =>
    match digit? c with
    | none => (some e, c :: rest)
    | some d =>
      if e * 10 + d > maxExponent then (none, rest.dropWhile fun c => (digit? c).isSome)
      else readExponentDigits (e * 10 + d) rest

def readExponent (positive : Bool) (significand : Nat) (start : Int) (cs : List Char) : Option (Number × List Char) :=
  let (upward, cs) := match cs with
    | '+' :: rest => (true, rest)
    | '-' :: rest => (false, rest)
    | _ => (true, cs)
  match cs with
  | [] => none
  | c :: rest =>
    match digit? c with
    | none => none
    | some d =>
      match readExponentDigits d rest with
      | (some e, rest) =>
        let e := if upward then min (start + e) maxExponent else max (start - e) minExponent
        (realNumber? positive significand e).map fun n => (n, rest)
      | (none, rest) =>
        if significand ≠ 0 ∧ upward then none else some (.real (if positive then 0.0 else -0.0), rest)

/-- What may follow the digits of a number that has a fraction or is very long. -/
def finishReal (positive : Bool) (significand : Nat) (e : Int) (cs : List Char) : Option (Number × List Char) :=
  match cs with
  | 'e' :: rest => readExponent positive significand e rest
  | 'E' :: rest => readExponent positive significand e rest
  | _ => (realNumber? positive significand e).map fun n => (n, cs)

/-- The digits after the point; digits that no longer fit the significand do not count. -/
def readFraction (positive : Bool) (start : Int) (significand : Nat) (e : Int) :
    List Char → Option (Number × List Char)
  | [] => if e = start then none else finishReal positive significand e []
  | c :: rest =>
    match digit? c with
    | none => if e = start then none else finishReal positive significand e (c :: rest)
    | some d =>
      if significand * 10 + d > maxSignificand then
        finishReal positive significand e (rest.dropWhile fun c => (digit? c).isSome)
      else readFraction positive start (significand * 10 + d) (e - 1) rest

/-- The digits of a whole part whose significand is full: each one only raises the exponent. -/
def readLongInteger (positive : Bool) (significand : Nat) (e : Int) : List Char → Option (Number × List Char)
  | [] => finishReal positive significand e []
  | c :: rest =>
    if (digit? c).isSome then readLongInteger positive significand (e + 1) rest
    else if c = '.' then readFraction positive e significand e rest
    else finishReal positive significand e (c :: rest)

def wholeNumber (positive : Bool) (n : Nat) : Number :=
  if positive then .natural n
  else if n = 0 ∨ 0x8000000000000000 < n then .real (-(UInt64.ofNat n).toFloat)
  else .negative n

def readWhole (positive : Bool) (significand : Nat) : List Char → Option (Number × List Char)
  | [] => some (wholeNumber positive significand, [])
  | c :: rest =>
    match digit? c with
    | some d =>
      if significand * 10 + d > maxSignificand then readLongInteger positive significand 1 rest
      else readWhole positive (significand * 10 + d) rest
    | none =>
      if c = '.' then readFraction positive 0 significand 0 rest
      else if c = 'e' ∨ c = 'E' then readExponent positive significand 0 rest
      else some (wholeNumber positive significand, c :: rest)

/-- A number after its sign; a leading zero stands alone. -/
def readNumber (positive : Bool) : List Char → Option (Number × List Char)
  | [] => none
  | c :: rest =>
    match digit? c with
    | none => none
    | some 0 =>
      match rest with
      | [] => some (wholeNumber positive 0, [])
      | c' :: _ => if (digit? c').isSome then none else readWhole positive 0 rest
    | some d => readWhole positive d rest

/-! ## Documents -/

def expect : List Char → List Char → Option (List Char)
  | [], cs => some cs
  | _ :: _, [] => none
  | w :: word, c :: cs => if w = c then expect word cs else none

mutual

/-- A value, blanks before it included. `fuel` bounds the number of calls, `depth` the
    nesting that is still allowed. -/
def readValue : Nat → Nat → List Char → Option (Json × List Char)
  | 0, _, _ => none
  | fuel + 1, depth, cs =>
    match skipBlank cs with
    | [] => none
    | 'n' :: rest => (expect ['u', 'l', 'l'] rest).map fun rest => (.null, rest)
    | 't' :: rest => (expect ['r', 'u', 'e'] rest).map fun rest => (.bool true, rest)
    | 'f' :: rest => (expect ['a', 'l', 's', 'e'] rest).map fun rest => (.bool false, rest)
    | '"' :: rest => (readString [] rest).map fun r => (.string r.1, r.2)
    | '-' :: rest => (readNumber false rest).map fun r => (.number r.1, r.2)
    | '[' :: rest =>
      match depth with
      | 0 => none
      | depth + 1 =>
        match skipBlank rest with
        | ']' :: rest => some (.array [], rest)
        | _ => (readItems fuel depth rest).map fun r => (.array r.1, r.2)
    | '{' :: rest =>
      match depth with
      | 0 => none
      | depth + 1 =>
        match skipBlank rest with
        | '}' :: rest => some (.object [], rest)
        | _ => (readMembers fuel depth rest).map fun r => (ofMembers r.1, r.2)
    | c :: rest => (readNumber true (c :: rest)).map fun r => (.number r.1, r.2)

def readItems : Nat → Nat → List Char → Option (List Json × List Char)
  | 0, _, _ => none
  | fuel + 1, depth, cs =>
    match readValue fuel depth cs with
    | none => none
    | some (v, rest) =>
      match skipBlank rest with
      | ',' :: rest => (readItems fuel depth rest).map fun r => (v :: r.1, r.2)
      | ']' :: rest => some ([v], rest)
      | _ => none

def readMembers : Nat → Nat → List Char → Option (List (String × Json) × List Char)
  | 0, _, _ => none
  | fuel + 1, depth, cs =>
    match skipBlank cs with
    | '"' :: rest =>
      match readString [] rest with
      | none => none
      | some (key, rest) =>
        match skipBlank rest with
        | ':' :: rest =>
          match readValue fuel depth rest with
          | none => none
          | some (v, rest) =>
            match skipBlank rest with
            | ',' :: rest => (readMembers fuel depth rest).map fun r => ((key, v) :: r.1, r.2)
            | '}' :: rest => some ([(key, v)], rest)
            | _ => none
        | _ => none
    | _ => none

end

def readWithin? (depth : Nat) (text : String) : Option Json :=
  let cs := text.toList
  match readValue (2 * cs.length + 2) depth cs with
  | some (v, rest) => if (skipBlank rest).isEmpty then some v else none
  | none => none

def read? (text : String) : Option Json := readWithin? maxDepth text

/-! ## Blanks -/

theorem skipBlank_append {blanks : List Char} (h : ∀ c ∈ blanks, isBlank c = true) (cs : List Char) :
    skipBlank (blanks ++ cs) = skipBlank cs := List.dropWhile_append_of_pos h

theorem skipBlank_cons {c : Char} (h : isBlank c = false) (cs : List Char) : skipBlank (c :: cs) = c :: cs :=
  List.dropWhile_cons_of_neg (by simp [h])

section Blanks

variable {blanks : List Char} (hblanks : ∀ c ∈ blanks, isBlank c = true) (fuel depth : Nat) (cs : List Char)

include hblanks in
theorem readValue_blanks : readValue fuel depth (blanks ++ cs) = readValue fuel depth cs := by
  cases fuel with
  | zero => rfl
  | succ fuel => rw [readValue, readValue, skipBlank_append hblanks]

include hblanks in
theorem readMembers_blanks : readMembers fuel depth (blanks ++ cs) = readMembers fuel depth cs := by
  cases fuel with
  | zero => rfl
  | succ fuel => rw [readMembers, readMembers, skipBlank_append hblanks]

end Blanks

end LineRules.Json
