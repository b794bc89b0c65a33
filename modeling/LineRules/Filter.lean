/-
  LineRules.Filter — how the value that a rule stores is built.

  A filter stores the named groups of the match, a fixed value, an entry of the context, a
  template filled in, or what a function makes of the match and the context. Only a function
  can refuse, and only a function can replace the context.
-/

import LineRules.Path
import LineRules.Pattern

namespace LineRules

/-- What a filter makes of a match: the value to store, and the context to go on with if it is
    to be replaced. -/
structure Filtered where
  value : Value
  context : Option Context := none
  deriving Repr

abbrev FilterFunction := Match → Context → Except String Filtered

inductive Filter where
  /-- The mapping of the named groups. -/
  | captures
  | literal (value : Value)
  /-- The context entry with this name. -/
  | entry (name : String)
  | template (text : String)
  | function (run : FilterFunction)

instance : Inhabited Filter := ⟨.captures⟩

namespace Filter

/-- The filter that a text stands for: after `<` the name of a context entry, otherwise a
    template. -/
def ofText (text : String) : Filter :=
  match text.toList with
  | '<' :: name => .entry (String.ofList (Unicode.trimChars name))
  | _ => .template text

def isFunction : Filter → Bool
  | .function _ => true
  | _ => false

def describe : Filter → String
  | .captures => "None"
  | .literal v => "Literal(" ++ v.describe ++ ")"
  | .entry name => "BackRef(" ++ Text.quote name ++ ")"
  | .template text => "Template(" ++ Text.quote text ++ ")"
  | .function _ => "Func(<function>)"

def apply (f : Filter) (m : Match) (captured : Entries Value) (c : Context) : Except String Filtered :=
  match f with
  | .captures => .ok ⟨.map captured, none⟩
  | .literal v => .ok ⟨v, none⟩
  | .entry name => .ok ⟨c.fetch name, none⟩
  | .template text => .ok ⟨.str (Template.expand text c), none⟩
  | .function run => run m c

end Filter

end LineRules
