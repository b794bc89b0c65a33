/-
  LineRules.Pattern — regular expressions that never backtrack.

  Patterns have literals, classes, groups, alternation, greedy and lazy repetition, anchors
  and inline flags, but neither look-around nor back-references. `Pattern.compile` reads a
  pattern, `Pattern.find?` finds the leftmost match, and of the matches that begin there the
  one that comes first in the order of alternatives and repetitions of the normal form.
-/

import LineRules.Pattern.Meaning
import LineRules.Pattern.Reader
import LineRules.Pattern.Run
import LineRules.Pattern.Size

namespace LineRules

structure Pattern where
  source : String
  program : Pattern.Program
  /-- The names of the groups by number. -/
  groupNames : List (Option String)
  deriving Repr, Inhabited

/-- A match: where each group begins and ends, by number, and the names of the groups. -/
structure Match where
  text : List Char
  spans : List (Option (Nat × Nat))
  groupNames : List (Option String)
  deriving DecidableEq, Repr

namespace Pattern

/-- What the text of a pattern means under the given flags, if it is not too large. -/
def Node.ofText (flags : Flags) (source : String) : Except Error Node := do
  let ast ← Ast.read flags.verbose source.toList
  let (node, _) ← Node.ofAst flags ast
  if node.fits then return node else .error .tooLarge

def compile (flags : Flags) (source : String) : Except Error Pattern := do
  let node ← Node.ofText flags source
  return { source, program := Program.ofNode node, groupNames := (Node.capture 0 none node).groupNames }

def spansOf : Slots → List (Option (Nat × Nat))
  | first :: last :: rest =>
    (match first, last with
      | some a, some b => some (a, b)
      | _, _ => none) :: spansOf rest
  | _ => []

def matchOf (p : Pattern) (text : List Char) (slots : Slots) : Match where
  text := text
  spans := spansOf slots
  groupNames := p.groupNames

/-- The leftmost match in a text. -/
def find? (p : Pattern) (text : String) : Option Match :=
  (p.program.search 0 none text.toList).map (p.matchOf text.toList)

/-- The match that begins with the text. If there is one, it is the leftmost. -/
def findAtStart? (p : Pattern) (text : String) : Option Match :=
  (p.program.matchAt 0 none text.toList).map (p.matchOf text.toList)

end Pattern

namespace Match

def group? (m : Match) (i : Nat) : Option String :=
  (m.spans[i]?.bind id).map fun s => String.ofList ((m.text.drop s.1).take (s.2 - s.1))

/-- The text of a group, empty if it took no part. -/
def group (m : Match) (i : Nat) : String := (m.group? i).getD ""

def whole (m : Match) : String := m.group 0

def named (m : Match) : List (String × String) :=
  (m.groupNames.zipIdx).filterMap fun (name, i) => name.map fun n => (n, m.group i)

def namedGroup (m : Match) (name : String) : String := (m.named.lookup name).getD ""

def start? (m : Match) : Option Nat := (m.spans.head?.bind id).map (·.1)

end Match

end LineRules
