/-
  LineRules.Path — where a rule stores its value.

  A path is written as dotted text or as a list of segments; dots inside braces do not
  separate. A first segment that begins with `>` or `>>` names a buffer of the context, which
  `>` starts anew and `>>` keeps; any other path leads into the output tree. Segments are
  templates, expanded and normalized when a rule fires.
-/

import LineRules.Template
import LineRules.Tree

namespace LineRules

inductive PathText where
  | dotted (text : String)
  | segments (parts : List String)
  deriving DecidableEq, Repr

namespace PathText

/-- The pieces between dots outside braces; `depth` counts the braces that are open. -/
def cutDots (depth : Nat) : List Char → List (List Char)
  | [] => [[]]
  | c :: rest =>
    if c = '.' ∧ depth = 0 then [] :: cutDots 0 rest
    else
      match cutDots (if c = '{' then depth + 1 else if c = '}' then depth - 1 else depth) rest with
      | [] => [[c]]
      | piece :: pieces => (c :: piece) :: pieces

def splitDotted (text : String) : List String := (cutDots 0 text.toList).map String.ofList

/-- The segments of a path; empty dotted text is the root. -/
def toSegments : PathText → List String
  | .dotted text => if text = "" then [] else splitDotted text
  | .segments parts => parts

def describe : PathText → String
  | .dotted text => "Dotted(" ++ Text.quote text ++ ")"
  | .segments parts => "Segments([" ++ String.intercalate ", " (parts.map Text.quote) ++ "])"

end PathText

inductive BufferMode where
  | fresh
  | kept
  deriving DecidableEq, Repr

inductive Root where
  | tree
  | buffer (name : String) (mode : BufferMode)
  deriving DecidableEq, Repr

namespace Root

def sign : Root → Option String
  | .tree => none
  | .buffer name .fresh => some (">" ++ name)
  | .buffer name .kept => some (">>" ++ name)

end Root

/-- A path that was checked: its root and the templates of its segments. -/
structure Path where
  root : Root
  segments : List String
  deriving DecidableEq, Repr

namespace Path

def bufferSign? (segment : String) : Option (BufferMode × String) :=
  match segment.toList with
  | '>' :: rest =>
    match rest.dropWhile Unicode.isBlank with
    | '>' :: name => some (.kept, String.ofList (Unicode.trimChars name))
    | _ => some (.fresh, String.ofList (Unicode.trimChars rest))
  | _ => none

/-- The path that a text stands for; nothing if it names a buffer without a name. -/
def ofText? (text : PathText) : Option Path :=
  match text.toSegments with
  | [] => some ⟨.tree, []⟩
  | first :: rest =>
    match bufferSign? first with
    | none => some ⟨.tree, first :: rest⟩
    | some (mode, name) => if name = "" then none else some ⟨.buffer name mode, rest⟩

def describe (p : Path) : String :=
  String.intercalate "." (((p.root.sign.getD "") :: p.segments).filter (· ≠ ""))

def place (p : Path) (c : Context) : List Segment := p.segments.map fun t => Segment.ofText (Template.expand t c)

def location (p : Path) (place : List Segment) : String :=
  String.intercalate "." (p.root.sign.toList ++ place.map Segment.text)

/-- Get the buffer of a path ready: one that is started anew is emptied. -/
def prepare (p : Path) (c : Context) : Context :=
  match p.root with
  | .tree => c
  | .buffer name .fresh => c.openFresh name
  | .buffer name .kept => c.openKept name

end Path

end LineRules
