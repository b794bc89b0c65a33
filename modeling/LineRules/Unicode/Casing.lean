/-
  LineRules.Unicode.Casing — lower case and upper case of text.

  These are the full maps of the standard: a character may become several, and a capital
  sigma becomes a final sigma where a cased letter precedes it and none follows,
  case-ignorable characters aside.
-/

import LineRules.Unicode.Current

namespace LineRules.Unicode

/-- The lower case of a character that is not a capital sigma. -/
def lowerChar (c : Char) : List Char :=
  if c = 'İ' then ['i', '\u0307'] else [Char.ofNat (newLowerMap.apply (lowerMap.apply c.toNat))]

def upperChar (c : Char) : List Char :=
  match upperLong.lookup c.toNat with
  | some codes => codes.map Char.ofNat
  | none => [Char.ofNat (newUpperMap.apply (upperMap.apply c.toNat))]

/-- The first character that is not case-ignorable is cased. -/
def meetsCased (cs : List Char) : Bool :=
  match cs.dropWhile isCaseIgnorable with
  | c :: _ => isCased c
  | [] => false

/-- Lower case of `cs`, where `before` is the text already passed, last character first. -/
def lowerFrom (before : List Char) : List Char → List Char
  | [] => []
  | c :: rest =>
    if c = 'Σ' then
      (if meetsCased before && !meetsCased rest then 'ς' else 'σ') :: lowerFrom (c :: before) rest
    else lowerChar c ++ lowerFrom (c :: before) rest

def lowerChars (cs : List Char) : List Char := lowerFrom [] cs

def lower (s : String) : String := String.ofList (lowerChars s.toList)

def upper (s : String) : String := String.ofList (s.toList.flatMap upperChar)

end LineRules.Unicode
