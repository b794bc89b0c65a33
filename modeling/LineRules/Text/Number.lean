/-
  LineRules.Text.Number — whole numbers of 32 bits read from text.

  A number is a row of decimal digits, perhaps after `+`. What is wrong with a text is the
  first thing that is wrong with it from the left: a character that is no digit, or a digit
  with which the number no longer fits.
-/

namespace LineRules.Text

inductive NumberError where
  | empty
  | invalidDigit
  | tooLarge
  deriving DecidableEq, Repr

def NumberError.message : NumberError → String
  | .empty => "cannot parse integer from empty string"
  | .invalidDigit => "invalid digit found in string"
  | .tooLarge => "number too large to fit in target type"

/-- Read digits; `n` is the number that the digits before them denote. -/
def readDigits (n : Nat) : List Char → Except NumberError Nat
  | [] => .ok n
  | c :: rest =>
    if '0' ≤ c ∧ c ≤ '9' then
      let n := 10 * n + (c.toNat - '0'.toNat)
      if n < 0x100000000 then readDigits n rest else .error .tooLarge
    else .error .invalidDigit

def readNumber (text : String) : Except NumberError UInt32 :=
  match text.toList with
  | [] => .error .empty
  | ['+'] => .error .invalidDigit
  | '+' :: digits => (readDigits 0 digits).map UInt32.ofNat
  | digits => (readDigits 0 digits).map UInt32.ofNat

end LineRules.Text
