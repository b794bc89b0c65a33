/-
  LineRules.CommandLine — the program that scans texts with a table.

  A run reads its table first and its sources next, scans the sources one by one and prints
  the tree of a single source, or an object that holds the tree of each source under its
  name. What is read comes in as bytes, what is printed goes out as an outcome; nothing here
  acts on the world.
-/

import LineRules.CommandLine.Arguments
import LineRules.Report
import LineRules.Table.Json

namespace LineRules.CommandLine

inductive FileFault where
  | missing
  | directory
  | notDirectory
  | nameTooLong
  | denied
  | notText
  | other (text : String)
  deriving DecidableEq, Repr

def FileFault.message : FileFault → String
  | .missing => "No such file or directory (os error 2)"
  | .denied => "Permission denied (os error 13)"
  | .notDirectory => "Not a directory (os error 20)"
  | .directory => "Is a directory (os error 21)"
  | .nameTooLong => "File name too long (os error 36)"
  | .notText => "stream did not contain valid UTF-8"
  | .other text => text

abbrev Content := Except FileFault ByteArray

def textOf : Content → Except FileFault String
  | .error f => .error f
  | .ok bytes =>
    match String.fromUTF8? bytes with
    | some text => .ok text
    | none => .error .notText

structure Outcome where
  code : UInt32 := 0
  stdout : String := ""
  stderr : String := ""
  deriving DecidableEq, Repr

def Outcome.failure (code : UInt32) (message : String) : Outcome := { code, stderr := "error: " ++ message ++ "\n" }

structure Source where
  label : String
  text : String
  deriving DecidableEq, Repr

namespace Invocation

def table (inv : Invocation) (content : Content) : Except Outcome Table :=
  match textOf content with
  | .error f => .error (.failure 2 ("failed to read rules '" ++ inv.rules ++ "': " ++ f.message))
  | .ok text =>
    match Table.ofText inv.flags text with
    | .error e => .error (.failure 2 (inv.rules ++ ": " ++ e.message))
    | .ok t => .ok t

/-- The sources among files; the first file that cannot be read decides the error. -/
def fileSources (read : String → Content) : List String → Except Outcome (List Source)
  | [] => .ok []
  | file :: rest =>
    match textOf (read file) with
    | .error f => .error (.failure 2 ("failed to read '" ++ file ++ "': " ++ f.message))
    | .ok text =>
      match fileSources read rest with
      | .error e => .error e
      | .ok sources => .ok (⟨file, text⟩ :: sources)

def readSources (inv : Invocation) (read : String → Content) (stdin : Content) : Except Outcome (List Source) :=
  match inv.sources with
  | .text text => .ok [⟨"--input", text⟩]
  | .standardInput =>
    match textOf stdin with
    | .error f => .error (.failure 2 ("failed to read stdin: " ++ f.message))
    | .ok text => .ok [⟨"<stdin>", text⟩]
  | .files first rest => fileSources read (first :: rest)

def options (inv : Invocation) : ScanOptions := { strip := inv.strip, trace := inv.report }

/-- Scan the sources one by one: the trees by name, and the reports. The error is that of a
    filter, with the name of the source and the reports before it. -/
def scanSources (inv : Invocation) (t : Table) :
    List Source → Except (String × String × ScanError) (List (String × Value) × String)
  | [] => .ok ([], "")
  | source :: rest =>
    match t.scanText inv.options source.text with
    | .error e => .error ("", source.label, e)
    | .ok s =>
      let report := if inv.report then Report.text inv.color t source.label s else ""
      match scanSources inv t rest with
      | .error (reports, label, e) => .error (report ++ reports, label, e)
      | .ok (trees, reports) => .ok ((source.label, s.result) :: trees, report ++ reports)

def document (trees : List (String × Value)) : Value :=
  match trees with
  | [(_, tree)] => tree
  | _ => .map (Entries.ofPairs trees)

def render (inv : Invocation) (v : Value) : String := if inv.compact then v.compact else v.pretty

def finish (inv : Invocation) (t : Table) (sources : List Source) : Outcome :=
  match inv.scanSources t sources with
  | .error (reports, label, e) =>
    { code := 1, stderr := reports ++ "error: " ++ label ++ ": " ++ e.message ++ ": " ++ e.reason ++ "\n" }
  | .ok (trees, reports) => { stdout := inv.render (document trees) ++ "\n", stderr := reports }

def respond (inv : Invocation) (read : String → Content) (stdin : Content) : Outcome :=
  match inv.table (read inv.rules) with
  | .error o => o
  | .ok t =>
    match inv.readSources read stdin with
    | .error o => o
    | .ok sources => inv.finish t sources

end Invocation

/-! ## Arguments that ask for no run -/

def versionText : String := "statescan 0.1.0\n"

def usageText : String := "Usage: statescan [OPTIONS] --rules <FILE.json> [FILE]...\n"

def helpText : String :=
  "Extract a JSON tree from line-oriented text with a stateful rule table\n\n" ++ usageText ++ "
Arguments:
  [FILE]...  Files to scan, each one independently. Reads stdin when none are given

Options:
      --rules <FILE.json>  JSON rule table: an array of [ifstate, gotostate, pattern, datapath, outfilter] rows
      --input <TEXT>       Text to scan instead of files or stdin
  -i, --ignore-case        Case-insensitive patterns
  -m, --multi-line         `^` and `$` match at line boundaries
  -s, --dot-all            `.` matches a newline
      --no-strip           Keep surrounding whitespace in captured values
      --compact            Print the tree on one line
      --report             Print a run report (counters, per-rule hits, line trace) to stderr
      --color              Force ANSI color in the report
      --no-color           Disable ANSI color in the report
  -v, --verbose...         Raise the log level (-v debug, -vv trace). `STATESCAN_LOG` takes precedence
  -h, --help               Print help
  -V, --version            Print version
"

namespace Refusal

def fault? : Refusal → Option String
  | .help => none
  | .version => none
  | .unknown argument => some ("unexpected argument '" ++ argument ++ "' found")
  | .repeated option => some ("the argument '" ++ option ++ "' cannot be used multiple times")
  | .noValue option => some ("a value is required for '" ++ option ++ "' but none was supplied")
  | .needlessValue option => some ("unexpected value in '" ++ option ++ "'")
  | .emptyValue option => some ("an empty value was supplied for '" ++ option ++ "'")
  | .missingRules => some "the following required arguments were not provided: --rules <FILE.json>"
  | .inputAndFiles => some "the argument '--input <TEXT>' cannot be used with '[FILE]...'"

def outcome (r : Refusal) : Outcome :=
  match r with
  | .help => { stdout := helpText }
  | .version => { stdout := versionText }
  | r => { code := 2, stderr := "error: " ++ r.fault?.getD "" ++ "\n\n" ++ usageText }

end Refusal

end LineRules.CommandLine
