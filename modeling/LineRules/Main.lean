/-
  LineRules.Main — the program at the command line: reads what a run asks for, prints its
  outcome.
-/

import LineRules.CommandLine

namespace LineRules.CommandLine

def faultOf : IO.Error → FileFault
  | .noFileOrDirectory .. => .missing
  | .permissionDenied .. => .denied
  | .inappropriateType _ 21 _ => .directory
  | .inappropriateType .. => .notDirectory
  | .invalidArgument _ 36 _ => .nameTooLong
  | e => .other (toString e)

def readContent (act : IO ByteArray) : IO Content := do
  match ← act.toBaseIO with
  | .ok bytes => return .ok bytes
  | .error e => return .error (faultOf e)

def readFiles : List String → IO (List (String × Content))
  | [] => return []
  | file :: rest => do
    let content ← readContent (IO.FS.readBinFile file)
    return (file, content) :: (← readFiles rest)

/-- Read a stream to its end; `bytes` is what was read before. -/
partial def readStream (stream : IO.FS.Stream) (bytes : ByteArray) : IO ByteArray := do
  let more ← stream.read 65536
  if more.isEmpty then return bytes else readStream stream (bytes ++ more)

def readStandardInput : IO Content := do readContent (readStream (← IO.getStdin) .empty)

/-- Read the sources of a run once its table is known to be good. -/
def runInvocation (inv : Invocation) : IO Outcome := do
  match inv.table (← readContent (IO.FS.readBinFile inv.rules)) with
  | .error o => return o
  | .ok t =>
    let files ← readFiles (match inv.sources with
      | .files first rest => first :: rest
      | _ => [])
    let stdin ← if inv.sources = .standardInput then readStandardInput else pure (.ok .empty)
    match inv.readSources (fun file => (files.lookup file).getD (.error .missing)) stdin with
    | .error o => return o
    | .ok sources => return inv.finish t sources

end LineRules.CommandLine

open LineRules.CommandLine in
def main (args : List String) : IO UInt32 := do
  let outcome ← match Invocation.ofArgs args with
    | .error refusal => pure refusal.outcome
    | .ok inv => runInvocation inv
  IO.eprint outcome.stderr
  IO.print outcome.stdout
  return outcome.code
