/-! # Command line arguments -/
namespace CloudConf.Command

/-- The options that take a value. -/
inductive Key where
  | installConfig | outputDir | cloudsFile | logLevel
  deriving DecidableEq, Repr

namespace Key

def name : Key → String
  | installConfig => "--install-config"
  | outputDir => "--output-dir"
  | cloudsFile => "--clouds-yaml"
  | logLevel => "--log-level"

def all : List Key := [installConfig, outputDir, cloudsFile, logLevel]

def ofName? (name : String) : Option Key := all.find? (·.name = name)

end Key

structure Arguments where
  wantsHelp : Bool
  /-- The options with their values, in the order in which they are given. -/
  given : List (Key × String)
  /-- What is neither an option nor the value of one. -/
  others : List String
  deriving DecidableEq, Repr

namespace Arguments

def empty : Arguments := ⟨false, [], []⟩

/-- A dash on its own is no option. -/
def isOption (arg : String) : Bool :=
  match arg.toList with
  | '-' :: _ :: _ => true
  | _ => false

/-- The name of an option, and the value that follows an equals sign. -/
def splitValue (arg : String) : String × Option String :=
  let name := arg.toList.takeWhile (· ≠ '=')
  match arg.toList.drop name.length with
  | [] => (arg, none)
  | _ :: value => (String.ofList name, some (String.ofList value))

def addValue (key : Key) (value : String) (a : Arguments) : Arguments :=
  { a with given := (key, value) :: a.given }

def addOther (arg : String) (a : Arguments) : Arguments := { a with others := arg :: a.others }

/-- Reads arguments from left to right. The value of an option is what follows it, even if that
looks like an option. After two dashes there are no more options. -/
def parse : List String → Option Arguments
  | [] => some empty
  | arg :: rest =>
    if arg = "--" then some { empty with others := rest }
    else if !isOption arg then (parse rest).map (addOther arg)
    else match splitValue arg with
      | ("--help", none) => (parse rest).map fun a => { a with wantsHelp := true }
      | (name, some value) => do
        let key ← Key.ofName? name
        return addValue key value (← parse rest)
      | (name, none) =>
        match rest with
        | [] => none
        | value :: rest => do
          let key ← Key.ofName? name
          return addValue key value (← parse rest)

/-- The value of an option. Of several values the last one counts. -/
def value? (a : Arguments) (key : Key) : Option String :=
  (a.given.filter (·.1 = key)).getLast?.map (·.2)

/-- All options: first those that are given, in the order in which they are. -/
def order (a : Arguments) : List Key :=
  let given := (a.given.map (·.1)).eraseDups
  given ++ Key.all.filter fun k => !given.contains k

end Arguments

end CloudConf.Command
