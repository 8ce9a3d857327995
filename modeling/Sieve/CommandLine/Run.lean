/-
This file does what the command line asks for. It reads files and draws fresh
keys through the functions it is given, and everything it prints is in its
outcome, so that it can be run inside or outside of a real system.
-/

import Sieve.Catalog.Json
import Sieve.CommandLine.Arguments
import Sieve.Predicate.Json
import Sieve.Store.Basic

namespace Sieve.CommandLine

/-- What a run ends with. -/
structure Outcome where
  /-- The exit code: 0 for success, 1 for failure and 2 for wrong arguments. -/
  code : Nat
  /-- What is printed. -/
  output : String
  /-- What is printed about a failure. -/
  error : String
  deriving DecidableEq

/-- What a run has around it. -/
structure Surroundings (m : Type → Type) where
  /-- The text of a file, if it can be read. -/
  fileText : String → m (Option String)
  /-- The value of a variable, if it is set. -/
  setting? : String → Option String
  /-- A key that was not used before. -/
  freshKey : m Uuid

/-- The outcome of a failure. -/
def Outcome.failure (message : String) : Outcome :=
  ⟨1, "", "Error: " ++ message ++ "\n"⟩

/-- The lines of a text that are not blank. -/
def documentLines (text : String) : List (List Char) :=
  ((text.splitOn "\n").map String.toList).filter fun line => !(Text.trim line).isEmpty

variable {m : Type → Type} [Monad m]

/-- The text of a file, or the failure to read it. -/
def requireFile (surroundings : Surroundings m) (path : String) : ExceptT String m String := do
  match ← surroundings.fileText path with
  | some text => pure text
  | none => throw ("reading " ++ path)

/-- The predicate that an option gives: its own text, or the text of the file named after an
at sign. -/
def readPredicate (surroundings : Surroundings m) (filter? : Option String) :
    ExceptT String m (Option Predicate) := do
  match filter? with
  | none => pure none
  | some filter => do
    let text ←
      match filter.toList with
      | '@' :: path => requireFile surroundings (String.ofList path)
      | _ => pure filter
    match (Json.ofString? text).bind Predicate.ofJson? with
    | some predicate => pure (some predicate)
    | none => throw "parsing filter"

/-- Stores the documents that lines write, one after another. -/
def loadLines (surroundings : Surroundings m) (typeName : String) (store : Store) :
    List (List Char) → ExceptT String m Store
  | [] => pure store
  | line :: rest => do
    match Json.ofText? line with
    | none => throw "a line is not a JSON text"
    | some body => do
      let fresh ← surroundings.freshKey
      match store.put typeName body.canonical fresh with
      | (.ok _, store) => loadLines surroundings typeName store rest
      | (.error error, _) => throw error.message

/-- Turns a result into one whose error is its message. -/
def messaged {Error Value : Type} (message : Error → String) (result : Except Error Value) :
    ExceptT String m Value :=
  match result with
  | .ok value => pure value
  | .error error => throw (message error)

/-- What a task prints. -/
def runTask (surroundings : Surroundings m) (planner : Planner) :
    Task → ExceptT String m String
  | .compile typeName filter? mode => do
    let predicate? ← readPredicate surroundings filter?
    let command ← messaged Rejection.message <|
      match mode with
      | .condition => planner.whereClause typeName predicate?
      | .select => planner.select typeName predicate?
      | .count => planner.count typeName predicate?
    pure (command.toJson.canonical.toLines ++ "\n")
  | .describe typeName => do
    let documentType ← messaged Rejection.message (planner.catalog.describe typeName)
    pure (documentType.toJson.toLines ++ "\n")
  | .query typeName filter? path => do
    let predicate? ← readPredicate surroundings filter?
    let text ← requireFile surroundings path
    let store ← loadLines surroundings typeName (Store.empty planner) (documentLines text)
    let found ← messaged StoreError.message (store.query typeName predicate?)
    pure (String.join (found.map fun document => document.body.toText ++ "\n"))

/-- Does what is asked for: loads the catalog, then the options, then does the task. -/
def runInvocation (surroundings : Surroundings m) (invocation : Invocation) :
    ExceptT String m String := do
  let text ← requireFile surroundings invocation.catalog
  let catalog ← messaged Rejection.message (Catalog.ofString text)
  let options := Sql.Options.ofEnvironment surroundings.setting?
  runTask surroundings ⟨catalog, options⟩ invocation.task

/-- How the command line is used. -/
def usage : String :=
  "Usage: docfilter [--catalog <CATALOG>] <COMMAND>\n\n" ++
    "Commands:\n" ++
    "  compile   --doc-type <DOC_TYPE> [--filter <FILTER>] [--mode where|select|count]\n" ++
    "  describe  --doc-type <DOC_TYPE>\n" ++
    "  query     --doc-type <DOC_TYPE> [--filter <FILTER>] --docs <DOCS>\n"

/-- What running the command line with some arguments ends with. -/
def run (surroundings : Surroundings m) (arguments : List String) : m Outcome := do
  match readArguments arguments with
  | .error .usage => pure ⟨2, "", "error: wrong arguments\n\n" ++ usage⟩
  | .error .help => pure ⟨0, usage, ""⟩
  | .ok invocation => do
    match ← (runInvocation surroundings invocation).run with
    | .ok output => pure ⟨0, output, ""⟩
    | .error message => pure (Outcome.failure message)

end Sieve.CommandLine
