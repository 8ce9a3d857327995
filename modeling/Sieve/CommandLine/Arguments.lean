/-
This file reads the arguments of the command line: a task, named by the first
word that is no option, and its options, each given once and with a value. The
option for the catalog may stand before the task as well as after it. Arguments
are judged from left to right, so help that is asked for behind a mistake is not
given.
-/

namespace Sieve.CommandLine

/-- Which command a predicate is compiled to. -/
inductive Mode where
  /-- The condition alone. -/
  | condition
  /-- The statement that reads the documents. -/
  | select
  /-- The statement that counts the documents. -/
  | count
  deriving DecidableEq

/-- What is to be done. -/
inductive Task where
  /-- A predicate is compiled. -/
  | compile (typeName : String) (filter? : Option String) (mode : Mode)
  /-- A type of documents is described. -/
  | describe (typeName : String)
  /-- Documents are loaded, and those of which a predicate holds are printed. -/
  | query (typeName : String) (filter? : Option String) (documents : String)
  deriving DecidableEq

/-- What is to be done, and with which catalog. -/
structure Invocation where
  /-- The file that holds the catalog. -/
  catalog : String
  /-- What is to be done. -/
  task : Task
  deriving DecidableEq

/-- Why arguments lead to no task. -/
inductive Refusal where
  /-- The arguments are wrong. -/
  | usage
  /-- Help is asked for. -/
  | help
  deriving DecidableEq

/-- Options by name, each with its value. -/
abbrev Options := List (String × String)

/-- Whether an argument is an option and no value: it begins with a hyphen and goes on. -/
def isOption (argument : String) : Bool :=
  match argument.toList with
  | '-' :: _ :: _ => true
  | _ => false

/-- The name of a long option, and its value if the two are in one argument. -/
def splitOption? (argument : String) : Option (String × Option String) :=
  match argument.toList with
  | '-' :: '-' :: rest =>
    let name := String.ofList (rest.takeWhile (· != '='))
    match rest.dropWhile (· != '=') with
    | _ :: value => some (name, some (String.ofList value))
    | [] => some (name, none)
  | _ => none

/-- The mode that a word names. -/
def modeOf? (word : String) : Option Mode :=
  if word = "where" then some .condition
  else if word = "select" then some .select
  else if word = "count" then some .count
  else none

/-- Whether an option may have a value. -/
def accepts (name value : String) : Bool :=
  name != "mode" || (modeOf? value).isSome

/-- Whether an argument asks for help. -/
def asksForHelp (argument : String) : Bool :=
  argument == "--help" || argument.startsWith "-h"

/-- Reads options up to the first argument that is none: the options, and the arguments from
there on. Only allowed options may be given, none twice, and each with a value it may have. -/
def readOptions (allowed : List String) (given : Options) :
    List String → Except Refusal (Options × List String)
  | [] => .ok (given, [])
  | argument :: rest =>
    if !isOption argument then .ok (given, argument :: rest)
    else if argument = "--" then if rest.isEmpty then .ok (given, []) else .error .usage
    else if asksForHelp argument then .error .help
    else
      match splitOption? argument with
      | none => .error .usage
      | some (name, value?) =>
        if !allowed.contains name || given.any (·.1 == name) then .error .usage
        else
          match value?, rest with
          | some value, rest =>
            if accepts name value then readOptions allowed ((name, value) :: given) rest
            else .error .usage
          | none, value :: rest =>
            if isOption value || !accepts name value then .error .usage
            else readOptions allowed ((name, value) :: given) rest
          | none, [] => .error .usage

/-- The value of an option, if it is given. -/
def Options.find? (options : Options) (name : String) : Option String :=
  (List.find? (fun option => option.1 == name) options).map (·.2)

/-- The value of an option that must be given. -/
def Options.required (options : Options) (name : String) : Except Refusal String :=
  match options.find? name with
  | some value => .ok value
  | none => .error .usage

/-- The mode that an option gives; without one it is the statement that reads the documents. -/
def modeOr (word? : Option String) : Mode :=
  (word?.bind modeOf?).getD .select

/-- The options of a task, by the name of the task. -/
def optionsOf? (task : String) : Option (List String) :=
  if task = "compile" then some ["catalog", "doc-type", "filter", "mode"]
  else if task = "describe" then some ["catalog", "doc-type"]
  else if task = "query" then some ["catalog", "doc-type", "filter", "docs"]
  else none

/-- The task of a name with its options. -/
def readTask (name : String) (options : Options) : Except Refusal Task := do
  let typeName ← options.required "doc-type"
  if name = "compile" then
    pure (.compile typeName (options.find? "filter") (modeOr (options.find? "mode")))
  else if name = "describe" then pure (.describe typeName)
  else
    let documents ← options.required "docs"
    pure (.query typeName (options.find? "filter") documents)

/-- What asking for help on words leads to: each word must name a task of the one before it, and
no task but the program itself has any. -/
def helpOn : List String → Refusal
  | [] => .help
  | [name] => if name = "help" ∨ (optionsOf? name).isSome then .help else .usage
  | _ => .usage

/-- The file that holds the catalog where no other is named. -/
def standardCatalog : String := "catalog.json"

/-- What the arguments of the command line ask for. An option for the catalog after the task
counts more than one before it. -/
def readArguments (arguments : List String) : Except Refusal Invocation := do
  let (outer, rest) ← readOptions ["catalog"] [] arguments
  match rest with
  | [] => .error .usage
  | name :: rest =>
    match optionsOf? name with
    | none => .error (if name = "help" then helpOn rest else .usage)
    | some allowed =>
      let (inner, others) ← readOptions allowed [] rest
      if others.isEmpty then
        let task ← readTask name inner
        let catalog := (inner.find? "catalog").or (outer.find? "catalog")
        pure ⟨catalog.getD standardCatalog, task⟩
      else .error .usage

end Sieve.CommandLine
