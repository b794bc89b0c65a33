/-
  LineRules.Pattern.Ast — patterns as they are written.

  The tree keeps what the text says, flags included; what a class or a letter stands for is
  decided later, when the flags in force are known. `depth` counts how deep the parts nest.
-/

namespace LineRules.Pattern

inductive Error where
  | groupUnclosed
  | groupUnopened
  | groupName
  | groupNameRepeated
  | lookAround
  | badFlags
  | nothingToRepeat
  | badCount
  | badEscape
  | badHex
  | badProperty
  | badClass
  | classUnclosed
  | badBoundary
  | needsUnicode
  | notText
  | tooDeep
  | tooLarge
  deriving DecidableEq, Repr

inductive Flag where
  | ignoreCase
  | multiLine
  | dotAll
  | swapGreed
  | unicode
  | crlf
  | verbose
  deriving DecidableEq, Repr

def Flag.ofChar? (c : Char) : Option Flag :=
  match c with
  | 'i' => some .ignoreCase
  | 'm' => some .multiLine
  | 's' => some .dotAll
  | 'U' => some .swapGreed
  | 'u' => some .unicode
  | 'R' => some .crlf
  | 'x' => some .verbose
  | _ => none

structure Flags where
  ignoreCase : Bool := false
  multiLine : Bool := false
  dotAll : Bool := false
  swapGreed : Bool := false
  unicode : Bool := true
  crlf : Bool := false
  verbose : Bool := false
  deriving DecidableEq, Repr

def Flags.set (fs : Flags) (change : Flag × Bool) : Flags :=
  match change.1 with
  | .ignoreCase => { fs with ignoreCase := change.2 }
  | .multiLine => { fs with multiLine := change.2 }
  | .dotAll => { fs with dotAll := change.2 }
  | .swapGreed => { fs with swapGreed := change.2 }
  | .unicode => { fs with unicode := change.2 }
  | .crlf => { fs with crlf := change.2 }
  | .verbose => { fs with verbose := change.2 }

def Flags.setAll (fs : Flags) (changes : List (Flag × Bool)) : Flags := changes.foldl Flags.set fs

/-- A character of a pattern; `byte` marks one that is written as the two digits of a byte. -/
structure Literal where
  char : Char
  byte : Bool := false
  deriving DecidableEq, Repr

inductive Assertion where
  | lineStart
  | lineEnd
  | textStart
  | textEnd
  | boundary
  | notBoundary
  | wordStart
  | wordEnd
  | wordStartHalf
  | wordEndHalf
  deriving DecidableEq, Repr

/-- The classes that a backslash and a letter stand for. -/
inductive Shorthand where
  | digit
  | space
  | word
  deriving DecidableEq, Repr

/-- The classes named between `[:` and `:]`. -/
inductive Posix where
  | alnum | alpha | ascii | blank | cntrl | digit | graph | lower | print | punct | space | upper | word | xdigit
  deriving DecidableEq, Repr

inductive PropertyQuery where
  | name (chars : List Char)
  | value (chars expected : List Char)
  deriving DecidableEq, Repr

inductive SetOp where
  | inter
  | diff
  | symmDiff
  deriving DecidableEq, Repr

inductive SetExpr where
  | empty
  | literal (l : Literal)
  | range (lo hi : Literal)
  | shorthand (kind : Shorthand) (negated : Bool)
  | posix (kind : Posix) (negated : Bool)
  | property (query : PropertyQuery) (negated : Bool)
  | nested (negated : Bool) (body : SetExpr)
  | union (items : List SetExpr)
  | op (kind : SetOp) (lhs rhs : SetExpr)
  deriving Repr

inductive GroupKind where
  /-- A group that is captured under a number and perhaps a name. -/
  | capture (index : Nat) (name : Option String)
  /-- A group that only sets flags for its body. -/
  | plain (changes : List (Flag × Bool))
  deriving DecidableEq, Repr

inductive Ast where
  | empty
  /-- Flags for the rest of the group. -/
  | flags (changes : List (Flag × Bool))
  | literal (l : Literal)
  | dot
  | assertion (a : Assertion)
  | shorthand (kind : Shorthand) (negated : Bool)
  | property (query : PropertyQuery) (negated : Bool)
  | set (negated : Bool) (body : SetExpr)
  | repetition (min : Nat) (max : Option Nat) (greedy : Bool) (body : Ast)
  | group (kind : GroupKind) (body : Ast)
  | alt (branches : List Ast)
  | cat (items : List Ast)
  deriving Repr, Inhabited

/-! ## Nesting -/

mutual

def SetExpr.depth : SetExpr → Nat
  | .nested _ body => body.depth + 1
  | .union items => SetExpr.depthAll items + 1
  | .op _ lhs rhs => max lhs.depth rhs.depth + 1
  | _ => 0

def SetExpr.depthAll : List SetExpr → Nat
  | [] => 0
  | s :: rest => max s.depth (SetExpr.depthAll rest)

end

mutual

def Ast.depth : Ast → Nat
  | .set _ body => body.depth + 1
  | .repetition _ _ _ body => body.depth + 1
  | .group _ body => body.depth + 1
  | .alt branches => Ast.depthAll branches + 1
  | .cat items => Ast.depthAll items + 1
  | _ => 0

def Ast.depthAll : List Ast → Nat
  | [] => 0
  | a :: rest => max a.depth (Ast.depthAll rest)

end

def maxDepth : Nat := 250

/-- Items in sequence; a single item stands alone. -/
def Ast.ofItems : List Ast → Ast
  | [] => .empty
  | [a] => a
  | items => .cat items

def SetExpr.ofItems : List SetExpr → SetExpr
  | [] => .empty
  | [s] => s
  | items => .union items

end LineRules.Pattern
