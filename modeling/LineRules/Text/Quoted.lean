/-
  LineRules.Text.Quoted — text in double quotes, as descriptions and messages show it.

  Quotes, backslashes and the usual control characters get a backslash; every other character
  that is not plainly visible is shown by its code point, `\u{301}`.
-/

import LineRules.Unicode.Current

namespace LineRules.Text

def hexDigits (n : Nat) : List Char := Nat.toDigits 16 n

def quoteChar (c : Char) : List Char :=
  if c = '"' then ['\\', '"']
  else if c = '\\' then ['\\', '\\']
  else if c = '\n' then ['\\', 'n']
  else if c = '\r' then ['\\', 'r']
  else if c = '\t' then ['\\', 't']
  else if c.toNat = 0 then ['\\', '0']
  else if Unicode.isPlain c then [c]
  else ['\\', 'u', '{'] ++ hexDigits c.toNat ++ ['}']

def quote (s : String) : String := String.ofList (['"'] ++ s.toList.flatMap quoteChar ++ ['"'])

end LineRules.Text
