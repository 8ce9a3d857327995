/-
This file is the program: it runs the command line in the real system, with its
files, its environment and its source of random bytes.
-/

import Sieve.CommandLine.Run

open Sieve CommandLine

/-- The text of a file, if it can be read. -/
def readTextFile (path : String) : IO (Option String) := do
  try
    let text ← IO.FS.readFile path
    pure (some text)
  catch _ => pure none

/-- A key of random bytes. -/
def drawKey : IO Uuid := do
  let bytes ← IO.getRandomBytes 16
  let number := bytes.toList.foldl (fun total byte => total * 256 + byte.toNat) 0
  pure (Uuid.ofRandom (BitVec.ofNat 128 number))

/-- The variables of the environment that are looked for. -/
def readVariables : IO (List (String × String)) :=
  Sql.Options.variableNames.filterMapM fun name => do
    let value ← IO.getEnv name
    pure (value.map fun value => (name, value))

/-- Runs the command line. -/
def main (arguments : List String) : IO UInt32 := do
  let settings ← readVariables
  let surroundings : Surroundings IO :=
    { fileText := readTextFile
      setting? := fun name => (settings.find? fun entry => entry.1 == name).map (·.2)
      freshKey := drawKey }
  let outcome ← run surroundings arguments
  IO.print outcome.output
  IO.eprint outcome.error
  pure (UInt32.ofNat outcome.code)
