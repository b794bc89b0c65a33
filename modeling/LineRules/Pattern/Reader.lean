/-
  LineRules.Pattern.Reader — reading the text of a pattern.

  Every reader takes the characters that are left and returns those that it leaves. In verbose
  mode white space and comments between the parts of a pattern do not count. A group sets the
  verbose flag for itself only; a flag group in the middle sets it up to the end of the group
  that it stands in.
-/

import LineRules.Pattern.Ast
import LineRules.Unicode.Alphanumeric
import LineRules.Unicode.Word

namespace LineRules.Pattern

open Unicode (isBlank)

/-! ## White space and comments -/

/-- Leave out white space and comments, which run from `#` to the end of the line. -/
def skipVerbose (inComment : Bool) : List Char → List Char
  | [] => []
  | c :: rest =>
    if inComment then skipVerbose (c ≠ '\n') rest
    else if isBlank c then skipVerbose false rest
    else if c = '#' then skipVerbose true rest
    else c :: rest

def skipSpace (verbose : Bool) (cs : List Char) : List Char := if verbose then skipVerbose false cs else cs

/-- Take characters while they satisfy `p`; in verbose mode white space and comments around
    them are left out. -/
def takeSpaced (verbose : Bool) (p : Char → Bool) (inComment : Bool) : List Char → List Char × List Char
  | [] => ([], [])
  | c :: rest =>
    if inComment then takeSpaced verbose p (c ≠ '\n') rest
    else if verbose && isBlank c then takeSpaced verbose p false rest
    else if verbose && c = '#' then takeSpaced verbose p true rest
    else if p c then
      let r := takeSpaced verbose p false rest
      (c :: r.1, r.2)
    else ([], c :: rest)

/-! ## Escapes -/

def hexValue? (digits : List Char) : Option Nat :=
  if digits.isEmpty then none
  else digits.foldl (fun n c => n.bind fun n => (Unicode.CodeSet.hexDigit? c).map fun d => 16 * n + d) (some 0)

def charOfCode? (n : Nat) : Option Char := if n.isValidChar then some (Char.ofNat n) else none

def readHexDigits (verbose : Bool) : Nat → Nat → List Char → Except Error (Nat × List Char)
  | 0, value, cs => .ok (value, cs)
  | _ + 1, _, [] => .error .badHex
  | n + 1, value, c :: rest =>
    match Unicode.CodeSet.hexDigit? c with
    | some d => readHexDigits verbose n (16 * value + d) (skipSpace verbose rest)
    | none => .error .badHex

/-- A character written by its number, after the letter: `digits` digits, or braces. -/
def readHex (verbose : Bool) (digits : Nat) (cs : List Char) : Except Error (Literal × List Char) :=
  match skipSpace verbose cs with
  | [] => .error .badEscape
  | '{' :: rest =>
    match takeSpaced verbose (· ≠ '}') false rest with
    | (number, _ :: rest) =>
      match (hexValue? number).bind charOfCode? with
      | some c => .ok (⟨c, false⟩, skipSpace verbose rest)
      | none => .error .badHex
    | (_, []) => .error .badHex
  | cs =>
    match readHexDigits verbose digits 0 cs with
    | .error e => .error e
    | .ok (n, rest) =>
      match charOfCode? n with
      | some c => .ok (⟨c, digits = 2⟩, rest)
      | none => .error .badHex

def cutUnequal (before : List Char) : List Char → Option (List Char × List Char)
  | '!' :: '=' :: rest => some (before.reverse, rest)
  | c :: rest => cutUnequal (c :: before) rest
  | [] => none

/-- The query that the text between the braces of a property asks: a name, or a name and a
    value around `!=`, `:` or `=`, and whether the sign turns the answer around. -/
def queryOfName (name : List Char) : PropertyQuery × Bool :=
  let around (sign : Char) : PropertyQuery := .value (name.takeWhile (· ≠ sign)) ((name.dropWhile (· ≠ sign)).drop 1)
  match cutUnequal [] name with
  | some (name, value) => (.value name value, true)
  | none => (if name.contains ':' then around ':' else if name.contains '=' then around '=' else .name name, false)

def readProperty (verbose : Bool) (cs : List Char) : Except Error ((PropertyQuery × Bool) × List Char) :=
  match skipSpace verbose cs with
  | [] => .error .badEscape
  | '{' :: rest =>
    match takeSpaced verbose (· ≠ '}') false rest with
    | (name, _ :: rest) => .ok (queryOfName name, rest)
    | (_, []) => .error .badEscape
  | c :: rest => if c = '\\' then .error .badProperty else .ok ((.name [c], false), skipSpace verbose rest)

def isBoundaryLetter (c : Char) : Bool := c.isAlpha || c = '-'

/-- A word boundary, after its letter: plain, or named between braces. Braces that begin with
    anything but a letter belong to a repetition. -/
def readBoundary (verbose : Bool) (cs : List Char) : Except Error (Assertion × List Char) :=
  match cs with
  | '{' :: rest =>
    match skipSpace verbose rest with
    | [] => .error .badBoundary
    | c :: more =>
      if !isBoundaryLetter c then .ok (.boundary, cs)
      else
        match takeSpaced verbose isBoundaryLetter false (c :: more) with
        | (name, '}' :: rest) =>
          match String.ofList name with
          | "start" => .ok (.wordStart, rest)
          | "end" => .ok (.wordEnd, rest)
          | "start-half" => .ok (.wordStartHalf, rest)
          | "end-half" => .ok (.wordEndHalf, rest)
          | _ => .error .badBoundary
        | _ => .error .badBoundary
  | _ => .ok (.boundary, cs)

def isMeta (c : Char) : Bool :=
  ['\\', '.', '+', '*', '?', '(', ')', '|', '[', ']', '{', '}', '^', '$', '#', '&', '-', '~'].contains c

/-- A backslash before such a character changes nothing: ASCII, but no letter, no digit and
    neither `<` nor `>`. -/
def isEscapable (c : Char) : Bool :=
  isMeta c || (c.toNat < 0x80 && !c.isAlphanum && c ≠ '<' && c ≠ '>')

def readEscape (verbose : Bool) : List Char → Except Error (Ast × List Char)
  | [] => .error .badEscape
  | c :: rest =>
    let hex (digits : Nat) : Except Error (Ast × List Char) :=
      (readHex verbose digits rest).map fun r => (.literal r.1, r.2)
    let property (negated : Bool) : Except Error (Ast × List Char) :=
      (readProperty verbose rest).map fun r => (.property r.1.1 (negated != r.1.2), r.2)
    let char (code : Nat) : Except Error (Ast × List Char) := .ok (.literal ⟨Char.ofNat code, false⟩, rest)
    match c with
    | 'x' => hex 2
    | 'u' => hex 4
    | 'U' => hex 8
    | 'p' => property false
    | 'P' => property true
    | 'd' => .ok (.shorthand .digit false, rest)
    | 'D' => .ok (.shorthand .digit true, rest)
    | 's' => .ok (.shorthand .space false, rest)
    | 'S' => .ok (.shorthand .space true, rest)
    | 'w' => .ok (.shorthand .word false, rest)
    | 'W' => .ok (.shorthand .word true, rest)
    | 'a' => char 0x07
    | 'f' => char 0x0C
    | 't' => char 0x09
    | 'n' => char 0x0A
    | 'r' => char 0x0D
    | 'v' => char 0x0B
    | 'A' => .ok (.assertion .textStart, rest)
    | 'z' => .ok (.assertion .textEnd, rest)
    | 'B' => .ok (.assertion .notBoundary, rest)
    | '<' => .ok (.assertion .wordStart, rest)
    | '>' => .ok (.assertion .wordEnd, rest)
    | 'b' => (readBoundary verbose rest).map fun r => (.assertion r.1, r.2)
    | _ => if isEscapable c then char c.toNat else .error .badEscape

/-! ## Bracketed classes -/

def Posix.ofName? (name : List Char) : Option Posix :=
  match String.ofList name with
  | "alnum" => some .alnum
  | "alpha" => some .alpha
  | "ascii" => some .ascii
  | "blank" => some .blank
  | "cntrl" => some .cntrl
  | "digit" => some .digit
  | "graph" => some .graph
  | "lower" => some .lower
  | "print" => some .print
  | "punct" => some .punct
  | "space" => some .space
  | "upper" => some .upper
  | "word" => some .word
  | "xdigit" => some .xdigit
  | _ => none

def readPosix? (cs : List Char) : Option (SetExpr × List Char) :=
  match cs with
  | ':' :: rest =>
    let (negated, rest) := match rest with
      | '^' :: more => (true, more)
      | _ => (false, rest)
    match rest.dropWhile (· ≠ ':') with
    | ':' :: ']' :: after => (Posix.ofName? (rest.takeWhile (· ≠ ':'))).map fun kind => (.posix kind negated, after)
    | _ => none
  | _ => none

/-- The beginning of a class, after its opening bracket: a caret negates it, and hyphens or a
    closing bracket that come first are members. -/
def openSet (verbose : Bool) (cs : List Char) : Except Error (Bool × List SetExpr × List Char) :=
  let body (negated : Bool) (cs : List Char) : Except Error (Bool × List SetExpr × List Char) :=
    match takeSpaced verbose (· = '-') false cs with
    | (_, []) => .error .classUnclosed
    | ([], ']' :: rest) =>
      match skipSpace verbose rest with
      | [] => .error .classUnclosed
      | rest => .ok (negated, [.literal ⟨']', false⟩], rest)
    | (hyphens, rest) => .ok (negated, hyphens.map fun c => .literal ⟨c, false⟩, rest)
  match skipSpace verbose cs with
  | '^' :: rest => body true (skipSpace verbose rest)
  | cs => body false cs

def readSetItem (verbose : Bool) : List Char → Except Error (Ast × List Char)
  | [] => .error .classUnclosed
  | '\\' :: rest => readEscape verbose rest
  | c :: rest => .ok (.literal ⟨c, false⟩, rest)

def setItem? : Ast → Option SetExpr
  | .literal l => some (.literal l)
  | .shorthand kind negated => some (.shorthand kind negated)
  | .property query negated => some (.property query negated)
  | _ => none

/-- The character that decides whether a hyphen before it makes a range. In verbose mode white
    space before it is passed over, and one `#`. -/
def peekSpace (verbose : Bool) (cs : List Char) : Option Char :=
  if !verbose then cs.head?
  else
    match cs.dropWhile isBlank with
    | '#' :: rest =>
      match rest.dropWhile isBlank with
      | c :: _ => some c
      | [] => cs.head?
    | c :: _ => some c
    | [] => cs.head?

def readSetRange (verbose : Bool) (cs : List Char) : Except Error (SetExpr × List Char) := do
  let (first, rest) ← readSetItem verbose cs
  let alone : Except Error (SetExpr × List Char) :=
    match setItem? first with
    | some item => .ok (item, skipSpace verbose rest)
    | none => .error .badClass
  match skipSpace verbose rest with
  | [] => .error .classUnclosed
  | '-' :: rest =>
    match peekSpace verbose rest with
    | some ']' => alone
    | some '-' => alone
    | _ =>
      match skipSpace verbose rest with
      | [] => .error .classUnclosed
      | rest =>
        let (last, rest) ← readSetItem verbose rest
        match first, last with
        | .literal lo, .literal hi => if lo.char ≤ hi.char then .ok (.range lo hi, rest) else .error .badClass
        | _, _ => .error .badClass
  | _ => alone

def combine (lhs : Option (SetOp × SetExpr)) (items : List SetExpr) : SetExpr :=
  let rhs := SetExpr.ofItems items.reverse
  match lhs with
  | some (kind, lhs) => .op kind lhs rhs
  | none => rhs

/-- The rest of a class, through its closing bracket. `items` holds the members since the last
    operator, last first. -/
def readSet (verbose : Bool) : Nat → Option (SetOp × SetExpr) → List SetExpr → List Char →
    Except Error (SetExpr × List Char)
  | 0, _, _, _ => .error .classUnclosed
  | fuel + 1, lhs, items, cs =>
    match skipSpace verbose cs with
    | [] => .error .classUnclosed
    | ']' :: rest => .ok (combine lhs items, rest)
    | '[' :: rest =>
      match readPosix? rest with
      | some (item, rest) => readSet verbose fuel lhs (item :: items) rest
      | none =>
        match openSet verbose rest with
        | .error e => .error e
        | .ok (negated, first, rest) =>
          match readSet verbose fuel none first.reverse rest with
          | .error e => .error e
          | .ok (body, rest) => readSet verbose fuel lhs (.nested negated body :: items) rest
    | '&' :: '&' :: rest => readSet verbose fuel (some (.inter, combine lhs items)) [] rest
    | '-' :: '-' :: rest => readSet verbose fuel (some (.diff, combine lhs items)) [] rest
    | '~' :: '~' :: rest => readSet verbose fuel (some (.symmDiff, combine lhs items)) [] rest
    | cs =>
      match readSetRange verbose cs with
      | .error e => .error e
      | .ok (item, rest) => readSet verbose fuel lhs (item :: items) rest

/-! ## Repetition -/

def maxCount : Nat := 0xFFFFFFFF

def readCount (verbose : Bool) (cs : List Char) : Except Error (Nat × List Char) :=
  let (digits, rest) := takeSpaced verbose (fun c => '0' ≤ c ∧ c ≤ '9') false (cs.dropWhile isBlank)
  let n := digits.foldl (fun n c => 10 * n + (c.toNat - '0'.toNat)) 0
  if digits.isEmpty ∨ maxCount < n then .error .badCount else .ok (n, rest.dropWhile isBlank)

def readCounts (verbose : Bool) (cs : List Char) : Except Error (Nat × Option Nat × List Char) := do
  let (least, rest) ← readCount verbose (skipSpace verbose cs)
  match rest with
  | '}' :: rest => .ok (least, some least, rest)
  | ',' :: rest =>
    match skipSpace verbose rest with
    | '}' :: rest => .ok (least, none, rest)
    | rest =>
      let (most, rest) ← readCount verbose rest
      match rest with
      | '}' :: rest => if least ≤ most then .ok (least, some most, rest) else .error .badCount
      | _ => .error .badCount
  | _ => .error .badCount

/-- A repetition operator: how often at least and at most, and whether as often as possible. -/
structure Repetition where
  min : Nat
  max : Option Nat
  greedy : Bool
  deriving DecidableEq, Repr

/-- The operator with these counts; a question mark right after it makes it lazy. -/
def Repetition.ofCounts (min : Nat) (max : Option Nat) (cs : List Char) : Repetition × List Char :=
  match cs with
  | '?' :: rest => (⟨min, max, false⟩, rest)
  | _ => (⟨min, max, true⟩, cs)

def readRepetition? (verbose : Bool) (cs : List Char) : Except Error (Option (Repetition × List Char)) :=
  match cs with
  | '?' :: rest => .ok (some (Repetition.ofCounts 0 (some 1) rest))
  | '*' :: rest => .ok (some (Repetition.ofCounts 0 none rest))
  | '+' :: rest => .ok (some (Repetition.ofCounts 1 none rest))
  | '{' :: rest =>
    (readCounts verbose rest).map fun r => some (Repetition.ofCounts r.1 r.2.1 (skipSpace verbose r.2.2))
  | _ => .ok none

/-! ## Groups -/

structure State where
  verbose : Bool
  /-- The number of captured groups that were opened so far. -/
  groups : Nat := 0
  names : List String := []
  deriving DecidableEq, Repr

/-- Inline flags, after the question mark: the changes, whether `:` ends them, and the rest. -/
def readFlags (negated dangling : Bool) (changes : List (Flag × Bool)) :
    List Char → Except Error (List (Flag × Bool) × Bool × List Char)
  | [] => .error .badFlags
  | c :: rest =>
    if c = ':' ∨ c = ')' then if dangling then .error .badFlags else .ok (changes.reverse, c = ':', rest)
    else if c = '-' then if negated then .error .badFlags else readFlags true true changes rest
    else
      match Flag.ofChar? c with
      | none => .error .badFlags
      | some f =>
        if changes.any (·.1 = f) then .error .badFlags else readFlags negated false ((f, !negated) :: changes) rest

def isNameStart (c : Char) : Bool := c = '_' || Unicode.isAlphabetic c

def isNamePart (c : Char) : Bool := c = '_' || c = '.' || c = '[' || c = ']' || Unicode.isAlphanumeric c

def readName (names : List String) (cs : List Char) : Except Error (String × List Char) :=
  match cs.dropWhile (· ≠ '>') with
  | [] => .error .groupName
  | _ :: rest =>
    match cs.takeWhile (· ≠ '>') with
    | [] => .error .groupName
    | c :: more =>
      let name := String.ofList (c :: more)
      if !(isNameStart c && more.all isNamePart) then .error .groupName
      else if names.contains name then .error .groupNameRepeated
      else .ok (name, rest)

inductive Opening where
  /-- Flags up to the end of the group around them. -/
  | flags (changes : List (Flag × Bool))
  | group (kind : GroupKind)
  deriving DecidableEq, Repr

def openGroup (st : State) (cs : List Char) : Except Error (Opening × State × List Char) :=
  let named (cs : List Char) : Except Error (Opening × State × List Char) :=
    (readName st.names cs).map fun r =>
      (.group (.capture (st.groups + 1) (some r.1)), { st with groups := st.groups + 1, names := r.1 :: st.names }, r.2)
  match skipSpace st.verbose cs with
  | '?' :: '=' :: _ => .error .lookAround
  | '?' :: '!' :: _ => .error .lookAround
  | '?' :: '<' :: '=' :: _ => .error .lookAround
  | '?' :: '<' :: '!' :: _ => .error .lookAround
  | '?' :: 'P' :: '<' :: rest => named rest
  | '?' :: '<' :: rest => named rest
  | '?' :: rest =>
    match readFlags false false [] rest with
    | .error e => .error e
    | .ok (changes, true, rest) => .ok (.group (.plain changes), st, rest)
    | .ok ([], false, _) => .error .nothingToRepeat
    | .ok (changes, false, rest) => .ok (.flags changes, st, rest)
  | cs => .ok (.group (.capture (st.groups + 1) none), { st with groups := st.groups + 1 }, cs)

def verboseAfter (verbose : Bool) (changes : List (Flag × Bool)) : Bool :=
  ((changes.find? (·.1 = .verbose)).map (·.2)).getD verbose

def GroupKind.verbose (kind : GroupKind) (verbose : Bool) : Bool :=
  match kind with
  | .capture .. => verbose
  | .plain changes => verboseAfter verbose changes

/-! ## Patterns -/

/-- The branches of a group that were read and the items of the one being read, last first. -/
structure Level where
  branches : List Ast := []
  items : List Ast := []
  deriving Inhabited

namespace Level

def push (l : Level) (a : Ast) : Level := { l with items := a :: l.items }

def nextBranch (l : Level) : Level := { branches := Ast.ofItems l.items.reverse :: l.branches, items := [] }

def close (l : Level) : Ast :=
  match l.branches with
  | [] => Ast.ofItems l.items.reverse
  | branches => .alt (branches.reverse ++ [Ast.ofItems l.items.reverse])

/-- Repeat the last item; there must be one, and flags are none. -/
def repeatLast (l : Level) (r : Repetition) : Except Error Level :=
  match l.items with
  | [] => .error .nothingToRepeat
  | .flags _ :: _ => .error .nothingToRepeat
  | a :: rest => .ok { l with items := .repetition r.min r.max r.greedy a :: rest }

end Level

def readPrimitive (verbose : Bool) : List Char → Except Error (Ast × List Char)
  | [] => .error .badEscape
  | '\\' :: rest => readEscape verbose rest
  | '.' :: rest => .ok (.dot, rest)
  | '^' :: rest => .ok (.assertion .lineStart, rest)
  | '$' :: rest => .ok (.assertion .lineEnd, rest)
  | c :: rest => .ok (.literal ⟨c, false⟩, rest)

/-- Read up to the end or to a closing parenthesis that no group of this level opens; it is
    left unread. -/
def readLevel : Nat → State → Level → List Char → Except Error (Ast × State × List Char)
  | 0, _, _, _ => .error .tooDeep
  | fuel + 1, st, level, cs =>
    match skipSpace st.verbose cs with
    | [] => .ok (level.close, st, [])
    | ')' :: rest => .ok (level.close, st, ')' :: rest)
    | '|' :: rest => readLevel fuel st level.nextBranch rest
    | '(' :: rest =>
      match openGroup st rest with
      | .error e => .error e
      | .ok (.flags changes, st, rest) =>
        readLevel fuel { st with verbose := verboseAfter st.verbose changes } (level.push (.flags changes)) rest
      | .ok (.group kind, st, rest) =>
        match readLevel fuel { st with verbose := kind.verbose st.verbose } {} rest with
        | .error e => .error e
        | .ok (body, inner, ')' :: rest) =>
          readLevel fuel { inner with verbose := st.verbose } (level.push (.group kind body)) rest
        | .ok _ => .error .groupUnclosed
    | '[' :: rest =>
      match openSet st.verbose rest with
      | .error e => .error e
      | .ok (negated, first, rest) =>
        match readSet st.verbose fuel none first.reverse rest with
        | .error e => .error e
        | .ok (body, rest) => readLevel fuel st (level.push (.set negated body)) rest
    | cs =>
      match readRepetition? st.verbose cs with
      | .error e => .error e
      | .ok (some (r, rest)) =>
        match level.repeatLast r with
        | .error e => .error e
        | .ok level => readLevel fuel st level rest
      | .ok none =>
        match readPrimitive st.verbose cs with
        | .error e => .error e
        | .ok (a, rest) => readLevel fuel st (level.push a) rest

def Ast.read (verbose : Bool) (text : List Char) : Except Error Ast :=
  match readLevel (text.length + 1) { verbose } {} text with
  | .error e => .error e
  | .ok (_, _, _ :: _) => .error .groupUnopened
  | .ok (a, _, []) => if maxDepth < a.depth then .error .tooDeep else .ok a

end LineRules.Pattern
