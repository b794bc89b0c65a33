/-
  LineRules.Scan — scanning lines with a table of rules.

  A scan keeps a state, a context and the output tree. On each line the rules whose guard
  admits the state are tried in order. A rule that matches fires: the context takes in its
  named groups, and if it has a path, its value is stored in the tree or in a buffer of the
  context. Its transition says whether the following rules see the line too, and what the
  state is on the next line. A filter function that refuses ends the scan with an error.

  `Store.fire` is what one rule does, `tryRules` what the rules do on one line, `Scan.line`
  and `Scan.run` carry this on from line to line, together with counters and a trace that do
  not act back on the scan.
-/

import LineRules.Table

namespace LineRules

structure ScanError where
  rule : Nat
  /-- The number of the line, counted from 1. -/
  line : Nat
  reason : String
  deriving DecidableEq, Repr

def ScanError.message (e : ScanError) : String :=
  "rule " ++ toString e.rule ++ ": filter failed on line " ++ toString e.line

structure Store where
  context : Context := .empty
  tree : Entries Value := []
  deriving Repr

namespace Store

/-- The named groups of a match, without blanks around them if asked. -/
def capturesOf (strip : Bool) (m : Match) : Entries Value :=
  Entries.ofPairs (m.named.map fun g => (g.1, .str (if strip then Unicode.trim g.2 else g.2)))

/-- What a rule that fires in a state writes to the context first: its named groups, then its
    guard, its transition and the state. -/
def absorb (c : Context) (captured : Entries Value) (state : String) (rule : Rule) : Context :=
  (((c.insertAll captured).insert "_ifstate" (.list (rule.guard.names.map .str))).insert "_gotostate"
    (.str rule.transition.text)).insert "_state" (.str state)

/-- Write a value at a place of a buffer. A value that cannot be merged into the buffer takes
    its place. -/
def storeInBuffer (c : Context) (name : String) (place : List Segment) (value : Value) : Context :=
  match Tree.store? (c.mappingAt name) place value with
  | some entries => c.insert name (.map entries)
  | none => c.insert name value

/-- Write a value at a place under a root. A value that cannot be merged into the tree is
    dropped. -/
def write (s : Store) (root : Root) (place : List Segment) (value : Value) : Store :=
  match root with
  | .tree => { s with tree := (Tree.store? s.tree place value).getD s.tree }
  | .buffer name _ => { s with context := storeInBuffer s.context name place value }

def fire (s : Store) (strip : Bool) (state : String) (rule : Rule) (m : Match) :
    Except String (Store × Option String) :=
  let captured := capturesOf strip m
  let absorbed := absorb s.context captured state rule
  match rule.path with
  | none => .ok ({ s with context := absorbed }, none)
  | some path =>
    let opened := path.prepare absorbed
    let place := path.place opened
    match rule.filter.apply m captured opened with
    | .error reason => .error reason
    | .ok made =>
      .ok (({ s with context := made.context.getD opened } : Store).write path.root place made.value,
        some (path.location place))

end Store

/-- A rule that fired, and the location that it wrote. -/
structure Firing where
  rule : Nat
  location : Option String
  deriving DecidableEq, Repr

structure Round where
  store : Store
  /-- The rules that were tried, in order. -/
  tried : List Nat := []
  /-- The rules that fired, in order. -/
  fired : List Firing := []
  /-- The transition of the last rule that fired. -/
  transition : Option Transition := none
  deriving Repr

namespace Round

def afterMiss (rule : Nat) (r : Round) : Round := { r with tried := rule :: r.tried }

def afterFiring (f : Firing) (transition : Transition) (r : Round) : Round :=
  { r with tried := f.rule :: r.tried, fired := f :: r.fired, transition := some (r.transition.getD transition) }

def nextState (r : Round) (state : String) : String :=
  match r.transition with
  | some (.goto next) => next
  | _ => state

def stops (r : Round) : Bool := r.transition == some .stop

end Round

/-- Try rules on a line in a state. The error is a rule and why its filter refused. -/
def tryRules (strip : Bool) (state line : String) : List Rule → Store → Except (Nat × String) Round
  | [], s => .ok { store := s }
  | rule :: rest, s =>
    if rule.guard.admits state then
      match rule.match? line with
      | none => (tryRules strip state line rest s).map (Round.afterMiss rule.index)
      | some m =>
        match s.fire strip state rule m with
        | .error reason => .error (rule.index, reason)
        | .ok (s, location) =>
          let f : Firing := ⟨rule.index, location⟩
          if rule.transition = .proceed then
            (tryRules strip state line rest s).map (Round.afterFiring f rule.transition)
          else .ok { store := s, tried := [rule.index], fired := [f], transition := some rule.transition }
    else tryRules strip state line rest s

/-! ## From line to line -/

structure Tally where
  tried : Nat := 0
  fired : Nat := 0
  deriving DecidableEq, Repr

structure Metrics where
  lines : Nat := 0
  /-- Lines on which a rule fired. -/
  matchedLines : Nat := 0
  tried : Nat := 0
  /-- One tally for each rule, in the order of the table. -/
  tallies : List Tally
  deriving DecidableEq, Repr

namespace Metrics

def countTried (tallies : List Tally) (rule : Nat) : List Tally :=
  tallies.modify rule fun t => { t with tried := t.tried + 1 }

def countFired (tallies : List Tally) (f : Firing) : List Tally :=
  tallies.modify f.rule fun t => { t with fired := t.fired + 1 }

def count (m : Metrics) (r : Round) : Metrics :=
  { lines := m.lines + 1
    matchedLines := if r.fired.isEmpty then m.matchedLines else m.matchedLines + 1
    tried := m.tried + r.tried.length
    tallies := r.fired.foldl countFired (r.tried.foldl countTried m.tallies) }

end Metrics

structure LineRecord where
  number : Nat
  /-- The beginning of the line. -/
  preview : String
  before : String
  after : String
  fired : List Firing
  deriving DecidableEq, Repr

def LineRecord.previewLength : Nat := 80

structure ScanOptions where
  /-- Take the blanks around named groups away. -/
  strip : Bool := true
  /-- Keep a record of every line. -/
  trace : Bool := false
  deriving DecidableEq, Repr

structure Scan where
  state : String := "top"
  store : Store := {}
  metrics : Metrics
  trace : List LineRecord := []
  stopped : Bool := false
  deriving Repr

namespace Scan

def start (t : Table) : Scan := { metrics := { tallies := t.rules.map fun _ => {} } }

def recordOf (s : Scan) (line : String) (r : Round) : LineRecord where
  number := s.metrics.lines + 1
  preview := String.ofList (line.toList.take LineRecord.previewLength)
  before := s.state
  after := r.nextState s.state
  fired := r.fired

def line (t : Table) (o : ScanOptions) (s : Scan) (text : String) : Except ScanError Scan :=
  match tryRules o.strip s.state text t.rules s.store with
  | .error (rule, reason) => .error ⟨rule, s.metrics.lines + 1, reason⟩
  | .ok r =>
    .ok { state := r.nextState s.state
          store := r.store
          metrics := s.metrics.count r
          trace := if o.trace then s.trace ++ [s.recordOf text r] else s.trace
          stopped := r.stops }

def run (t : Table) (o : ScanOptions) (s : Scan) : List String → Except ScanError Scan
  | [] => .ok s
  | text :: rest =>
    match s.line t o text with
    | .error e => .error e
    | .ok s => if s.stopped then .ok s else s.run t o rest

def result (s : Scan) : Value := .map s.store.tree

end Scan

def Table.scan (t : Table) (o : ScanOptions) (lines : List String) : Except ScanError Scan := (Scan.start t).run t o lines

def Table.scanText (t : Table) (o : ScanOptions) (text : String) : Except ScanError Scan := t.scan o (Text.lines text)

end LineRules
