/-
Module: LogLens.Main
Purpose: The program: it reads the files that its command line names, runs on them, and writes what
  comes of it.
Main exports: main
-/
import LogLens.CommandLine.Run

namespace LogLens

def readFile (path : String) : IO (Option (String × Bytes)) := do
  try
    let bytes ← IO.FS.readBinFile path
    pure (some (path, bytes.toList))
  catch _ => pure none

/-- Read those of the named files that can be read. -/
def readFiles (paths : List String) : IO Files := do
  let contents ← paths.filterMapM readFile
  return ⟨contents⟩

/-- Carry out a command line. -/
def runCommandLine [PatternCompiler] (words : List String) : IO UInt32 := do
  let environment ← IO.getEnv "LOGSIEVE_CONFIG"
  let outcome ←
    match Invocation.parse words environment with
    | .error e => pure e.outcome
    | .ok call => do
      let files ← readFiles call.paths
      pure (call.execute files)
  IO.print outcome.output
  if let some text := outcome.error then IO.eprintln ("Error: " ++ text)
  return outcome.exitCode.toUInt32

end LogLens

def main (words : List String) : IO UInt32 := LogLens.runCommandLine words
