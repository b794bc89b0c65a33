/-
  LineRules.CommandLine.Arguments — the arguments of a run.

  An argument that begins with `--` names an option, one that begins with `-` a row of short
  options, any other a file to scan; `-` alone is a file, and after `--` every argument is
  one. An option is given at most once, but for `-v`, and but for `--color` and `--no-color`,
  of which the later one counts. Arguments are read from the left: a request for help or for
  the version is granted if nothing before it was wrong.
-/

import LineRules.Pattern.Ast

namespace LineRules.CommandLine

/-- Options without a value. -/
inductive Switch where
  | ignoreCase
  | multiLine
  | dotAll
  | noStrip
  | compact
  | report
  | color
  | noColor
  | verbose
  | help
  | version
  deriving DecidableEq, Repr

/-- Options with a value. -/
inductive Setting where
  | rules
  | input
  deriving DecidableEq, Repr

inductive Named where
  | switch (s : Switch)
  | setting (s : Setting)
  deriving DecidableEq, Repr

def Named.ofLong? (name : String) : Option Named :=
  match name with
  | "rules" => some (.setting .rules)
  | "input" => some (.setting .input)
  | "ignore-case" => some (.switch .ignoreCase)
  | "multi-line" => some (.switch .multiLine)
  | "dot-all" => some (.switch .dotAll)
  | "no-strip" => some (.switch .noStrip)
  | "compact" => some (.switch .compact)
  | "report" => some (.switch .report)
  | "color" => some (.switch .color)
  | "no-color" => some (.switch .noColor)
  | "verbose" => some (.switch .verbose)
  | "help" => some (.switch .help)
  | "version" => some (.switch .version)
  | _ => none

def Switch.ofShort? (c : Char) : Option Switch :=
  match c with
  | 'i' => some .ignoreCase
  | 'm' => some .multiLine
  | 's' => some .dotAll
  | 'v' => some .verbose
  | 'h' => some .help
  | 'V' => some .version
  | _ => none

structure Arguments where
  rules : Option String := none
  input : Option String := none
  files : List String := []
  /-- The switches that were given, but for those that choose the colour. -/
  switches : List Switch := []
  color : Option Bool := none
  deriving DecidableEq, Repr

inductive Refusal where
  | unknown (argument : String)
  | repeated (option : String)
  | noValue (option : String)
  | needlessValue (option : String)
  | emptyValue (option : String)
  | missingRules
  | inputAndFiles
  | help
  | version
  deriving DecidableEq, Repr

namespace Arguments

def has (a : Arguments) (s : Switch) : Bool := a.switches.contains s

def addColor (a : Arguments) (on : Bool) (option : String) : Except Refusal Arguments :=
  if a.color = some on then .error (.repeated option) else .ok { a with color := some on }

def addSwitch (a : Arguments) (option : String) : Switch → Except Refusal Arguments
  | .help => .error .help
  | .version => .error .version
  | .verbose => .ok a
  | .color => a.addColor true option
  | .noColor => a.addColor false option
  | s => if a.has s then .error (.repeated option) else .ok { a with switches := s :: a.switches }

/-- Files have a name. -/
def addFile (a : Arguments) (file : String) : Except Refusal Arguments :=
  if file = "" then .error (.emptyValue "FILE") else .ok { a with files := a.files ++ [file] }

def addFiles (a : Arguments) : List String → Except Refusal Arguments
  | [] => .ok a
  | file :: rest =>
    match a.addFile file with
    | .error e => .error e
    | .ok a => a.addFiles rest

def addSetting (a : Arguments) (option value : String) : Setting → Except Refusal Arguments
  | .rules =>
    if a.rules.isSome then .error (.repeated option)
    else if value = "" then .error (.emptyValue option)
    else .ok { a with rules := some value }
  | .input => if a.input.isSome then .error (.repeated option) else .ok { a with input := some value }

def addShorts (a : Arguments) : List Char → Except Refusal Arguments
  | [] => .ok a
  | c :: rest =>
    match Switch.ofShort? c with
    | none => .error (.unknown ("-" ++ c.toString))
    | some s =>
      match a.addSwitch ("-" ++ c.toString) s with
      | .error e => .error e
      | .ok a => a.addShorts rest

/-- An argument that cannot be the value of the option before it. -/
def looksLikeOption (argument : String) : Bool :=
  match argument.toList with
  | '-' :: _ :: _ => true
  | _ => false

inductive Kind where
  | restAreFiles
  | long (name : String) (value : Option String)
  | shorts (letters : List Char)
  | file
  deriving DecidableEq, Repr

def kindOf (argument : String) : Kind :=
  match argument.toList with
  | ['-', '-'] => .restAreFiles
  | '-' :: '-' :: rest =>
    .long (String.ofList (rest.takeWhile (· ≠ '='))) <|
      match rest.dropWhile (· ≠ '=') with
      | [] => none
      | _ :: value => some (String.ofList value)
  | '-' :: c :: rest => .shorts (c :: rest)
  | _ => .file

def readFrom (a : Arguments) : List String → Except Refusal Arguments
  | [] => .ok a
  | argument :: rest =>
    match kindOf argument with
    | .restAreFiles => a.addFiles rest
    | .shorts letters =>
      match a.addShorts letters with
      | .error e => .error e
      | .ok a => a.readFrom rest
    | .file =>
      match a.addFile argument with
      | .error e => .error e
      | .ok a => a.readFrom rest
    | .long name value =>
      match Named.ofLong? name, value with
      | none, _ => .error (.unknown argument)
      | some (.switch _), some _ => .error (.needlessValue argument)
      | some (.switch s), none =>
        match a.addSwitch argument s with
        | .error e => .error e
        | .ok a => a.readFrom rest
      | some (.setting s), some value =>
        match a.addSetting name value s with
        | .error e => .error e
        | .ok a => a.readFrom rest
      | some (.setting s), none =>
        match rest with
        | [] => .error (.noValue argument)
        | value :: rest =>
          if looksLikeOption value then .error (.noValue argument)
          else
            match a.addSetting name value s with
            | .error e => .error e
            | .ok a => a.readFrom rest

end Arguments

inductive Sources where
  | text (text : String)
  | standardInput
  | files (first : String) (rest : List String)
  deriving DecidableEq, Repr

structure Invocation where
  rules : String
  sources : Sources
  flags : Pattern.Flags
  strip : Bool
  compact : Bool
  report : Bool
  color : Bool
  deriving DecidableEq, Repr

/-- The run that arguments ask for. Without a word on it there is no colour. -/
def Invocation.ofArguments (a : Arguments) : Except Refusal Invocation :=
  match a.rules with
  | none => .error .missingRules
  | some rules =>
    let finish (sources : Sources) : Invocation :=
      { rules, sources
        flags := { ignoreCase := a.has .ignoreCase, multiLine := a.has .multiLine, dotAll := a.has .dotAll }
        strip := !a.has .noStrip, compact := a.has .compact, report := a.has .report
        color := a.color.getD false }
    match a.input, a.files with
    | some _, _ :: _ => .error .inputAndFiles
    | some text, [] => .ok (finish (.text text))
    | none, [] => .ok (finish .standardInput)
    | none, first :: rest => .ok (finish (.files first rest))

def Invocation.ofArgs (args : List String) : Except Refusal Invocation :=
  match Arguments.readFrom {} args with
  | .error e => .error e
  | .ok a => ofArguments a

end LineRules.CommandLine
