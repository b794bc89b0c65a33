/-
  LineRules.Unicode.Script — the code points of a script.

  Every code point has one script. The extended script holds besides the code points that
  several scripts share; they are taken away from the script for what is common or inherited.
-/

import LineRules.Unicode.CodeSet
import LineRules.Unicode.ScriptTable

namespace LineRules.Unicode

def scriptRow? (name : String) : Option (String × String) :=
  (scriptText.find? fun row => row.1.contains name).map (·.2)

def script? (name : String) : Option CodeSet := (scriptRow? name).map fun row => CodeSet.ofText row.1

def scriptExtension? (name : String) : Option CodeSet :=
  (scriptRow? name).map fun row => (CodeSet.ofText row.1).symmDiff (CodeSet.ofText row.2)

end LineRules.Unicode
