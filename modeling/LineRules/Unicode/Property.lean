/-
  LineRules.Unicode.Property — sets of code points by the name of a property.

  Names match loosely: case, spaces, `_`, `-` and a leading `is` do not count. A name alone
  is a binary property, a general category or a script; `name=value` names a general
  category, a script, a script extension, an age or what a code point does at a border.
-/

import LineRules.Unicode.Age
import LineRules.Unicode.Breaks

namespace LineRules.Unicode

def looseName (name : List Char) : String :=
  let clean (cs : List Char) := (cs.filter fun c => c.toNat < 0x80 ∧ c ≠ ' ' ∧ c ≠ '_' ∧ c ≠ '-').map Char.toLower
  match name with
  | a :: b :: rest =>
    if a.toLower = 'i' ∧ b.toLower = 's' then
      let cut := clean rest
      String.ofList (if cut = ['c'] then ['i', 's', 'c'] else cut)
    else String.ofList (clean name)
  | _ => String.ofList (clean name)

/-- The members of a general category or of a group of them. `any`, `assigned` and `ascii`
    count as categories; surrogates are no characters and have no set. -/
def generalCategory? (name : String) : Option CodeSet :=
  match name with
  | "any" => some [(0, CodeSet.maxCode)]
  | "assigned" => some (Category.codes [.unassigned]).compl
  | "ascii" => some [(0, 0x7F)]
  | _ =>
    match Category.groups.find? fun row => row.1.contains name with
    | some (_, cats) => some (Category.codes cats)
    | none =>
      match Category.names.find? fun row => row.2.contains name with
      | some (.surrogate, _) => none
      | some (cat, _) => some (Category.codes [cat])
      | none => none

def property? (name : List Char) : Option CodeSet :=
  let name := looseName name
  match binary? name with
  | some s => some s
  | none =>
    match generalCategory? name with
    | some s => some s
    | none => script? name

def propertyValue? (name value : List Char) : Option CodeSet :=
  let value := looseName value
  match looseName name with
  | "gc" | "generalcategory" => generalCategory? value
  | "sc" | "script" => script? value
  | "scx" | "scriptextensions" => scriptExtension? value
  | "age" => age? value
  | "gcb" | "graphemeclusterbreak" => GraphemeBreak.codes? value
  | "wb" | "wordbreak" => WordBreak.codes? value
  | "sb" | "sentencebreak" => SentenceBreak.codes? value
  | _ => none

end LineRules.Unicode
