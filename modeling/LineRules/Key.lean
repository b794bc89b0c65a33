/-
  LineRules.Key — keys made from text.

  A key is lower case, holds word characters only, and no two underscores stand side by side
  in it. `Key.ofText` cuts white space and other characters off both ends of a text and turns
  every run of other characters inside into one underscore.
-/

import LineRules.Unicode.Casing
import LineRules.Unicode.Word

namespace LineRules.Key

open Unicode (isWord)

/-- Without characters at either end that are no word characters. -/
def strip (cs : List Char) : List Char :=
  ((cs.dropWhile fun c => !isWord c).reverse.dropWhile fun c => !isWord c).reverse

/-- Every run of characters that are no word characters becomes one underscore. `inGap` says
    that such a run has begun. -/
def joinGaps (inGap : Bool) : List Char → List Char
  | [] => []
  | c :: rest =>
    if isWord c then c :: joinGaps false rest
    else if inGap then joinGaps true rest
    else '_' :: joinGaps true rest

/-- Every run of underscores becomes one. `after` says that an underscore was just kept. -/
def squeeze (after : Bool) : List Char → List Char
  | [] => []
  | c :: rest =>
    if c = '_' then if after then squeeze true rest else '_' :: squeeze true rest
    else c :: squeeze false rest

def normalize (cs : List Char) : List Char :=
  squeeze false (joinGaps false (strip (Unicode.lowerChars (Unicode.trimChars cs))))

def ofText (text : String) : String := String.ofList (normalize text.toList)

end LineRules.Key
