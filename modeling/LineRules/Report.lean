/-
  LineRules.Report — what a scan did, for a reader at a terminal.

  A report shows the counters of a scan, each rule with its tally and, if a trace was kept,
  each line with the rules that fired on it. Every piece of text plays a role, and the role
  decides its colour.
-/

import LineRules.Scan

namespace LineRules.Report

inductive Role where
  | title
  | banner
  | label
  | count
  | state
  | transition
  | rule
  | hit
  | miss
  | location
  deriving DecidableEq, Repr

def Role.code : Role → String
  | .title => "1;36"
  | .banner => "90"
  | .rule => "90"
  | .label => "2"
  | .miss => "2"
  | .count => "33"
  | .state => "34"
  | .transition => "36"
  | .hit => "32"
  | .location => "32"

def paint (color : Bool) (role : Role) (text : String) : String :=
  if color then "\x1b[" ++ role.code ++ "m" ++ text ++ "\x1b[0m" else text

def banner (color : Bool) (title : String) : String := paint color .banner ("━━━ " ++ title ++ " ━━━")

def padLeft (width : Nat) (text : String) : String :=
  String.ofList (List.replicate (width - text.length) ' ') ++ text

def summary (color : Bool) (s : Scan) : List String :=
  let m := s.metrics
  let paint := paint color
  let ending := if s.stopped then paint .count "stopped by rule" else paint .label "end of input"
  [ "  " ++ paint .label "lines:" ++ " " ++ paint .count (toString m.lines)
      ++ "  │  " ++ paint .label "matched:" ++ " " ++ paint .hit (toString m.matchedLines)
      ++ "  │  " ++ paint .label "attempts:" ++ " " ++ paint .count (toString m.tried),
    "  " ++ paint .label "final state:" ++ " " ++ paint .state s.state ++ "  │  " ++ ending ]
    ++ if s.store.tree.isEmpty then ["  " ++ paint .miss "output tree is empty"] else []

def ruleRow (color : Bool) (index : Nat) (tally : Tally) (description : String) : String :=
  let paint := paint color
  "  " ++ paint .rule ("[" ++ toString index ++ "]") ++ " "
    ++ (if 0 < tally.fired then paint .hit ("✓ " ++ toString tally.fired) else paint .miss "✗ 0")
    ++ "  " ++ paint .label "tried:" ++ " " ++ paint .count (toString tally.tried)
    ++ "  " ++ paint .label description

def ruleRows (color : Bool) : Nat → List Tally → List String → List String
  | index, tally :: tallies, description :: descriptions =>
    ruleRow color index tally description :: ruleRows color (index + 1) tallies descriptions
  | _, _, _ => []

def firingRow (color : Bool) (f : Firing) : String :=
  "       " ++ paint color .count ("rule " ++ toString f.rule) ++ " " ++ paint color .location (f.location.getD "-")

/-- A line with its number and states, and a row for each rule that fired on it. -/
def lineRows (color : Bool) (r : LineRecord) : List String :=
  let state :=
    if r.before = r.after then paint color .state r.before
    else paint color .transition (r.before ++ " → " ++ r.after)
  ("  " ++ paint color .rule (padLeft 4 (toString r.number)) ++ " " ++ state ++ " " ++ paint color .label r.preview)
    :: r.fired.map (firingRow color)

/-- The lines of the report on the scan of a source. Nothing stands below the last banner but
    an empty line. -/
def lines (color : Bool) (t : Table) (source : String) (s : Scan) : List String :=
  ["", paint color .title ("⚙  Scanning: " ++ source), "", banner color "Summary"]
    ++ summary color s
    ++ ["", banner color "Rules"]
    ++ ruleRows color 0 s.metrics.tallies t.describe
    ++ (if s.trace.isEmpty then [] else ["", banner color "Trace"] ++ s.trace.flatMap (lineRows color))
    ++ ["", banner color "Timing", ""]

def text (color : Bool) (t : Table) (source : String) (s : Scan) : String :=
  String.join ((lines color t source s).map (· ++ "\n"))

end LineRules.Report
