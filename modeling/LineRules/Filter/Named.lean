/-
  LineRules.Filter.Named — filter functions that go by a name.

  They transform the matched text, read numbers from it, count, or change the context as a
  whole. `FilterFunction.named?` finds one by its name.
-/

import LineRules.Filter
import LineRules.Text.Number

namespace LineRules.FilterFunction

def upper : FilterFunction := fun m _ => .ok ⟨.str (Unicode.upper m.whole), none⟩

def groups : FilterFunction := fun m _ => .ok ⟨.list ((List.range m.spans.length).map fun i => .str (m.group i)), none⟩

def dump : FilterFunction := fun _ c => .ok ⟨.map c.entries, none⟩

/-- The number in the entry `count`, 0 if there is none. -/
def countIn (c : Context) : UInt32 :=
  match (c.get? "count").bind Value.text? with
  | some text => (Text.readNumber text).toOption.getD 0
  | none => 0

def count : FilterFunction := fun m c =>
  let n := toString (countIn c + 1).toNat
  .ok ⟨.str (m.whole ++ "#" ++ n), some (c.insert "count" (.str n))⟩

def reset : FilterFunction := fun m _ => .ok ⟨.str m.whole, some .empty⟩

/-- An empty mapping; the entry `rec` becomes a mapping that holds the matched text. -/
def seed : FilterFunction := fun m c =>
  .ok ⟨.emptyMap, some (c.insert "rec" (.map [("kind", .str m.whole)]))⟩

/-- The entry that the matched text names, which is removed. -/
def forget : FilterFunction := fun m c => .ok ⟨(c.get? m.whole).getD (.str "none"), some (c.remove m.whole)⟩

def int : FilterFunction := fun m _ =>
  match Text.readNumber (m.namedGroup "n") with
  | .ok n => .ok ⟨.str (toString n.toNat), none⟩
  | .error e => .error e.message

def fail : FilterFunction := fun m _ => .error ("refused " ++ m.whole)

def named? (name : String) : Option FilterFunction :=
  match name with
  | "upper" => some upper
  | "groups" => some groups
  | "dump" => some dump
  | "count" => some count
  | "reset" => some reset
  | "seed" => some seed
  | "forget" => some forget
  | "int" => some int
  | "fail" => some fail
  | _ => none

end LineRules.FilterFunction
