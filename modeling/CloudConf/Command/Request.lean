import CloudConf.Command.Arguments
import CloudConf.Disk.Basic
import CloudConf.Journal
import CloudConf.Yaml.Stream

/-! # What a command line asks for -/
namespace CloudConf.Command

structure Request where
  /-- The content of the install config. -/
  content : ByteArray
  /-- What messages call the install config. -/
  name : String
  outputDir : Path
  cloudsFile : Option String
  level : Level
  deriving Inhabited

/-- Why a command line leads to no request. -/
inductive Refusal where
  | usage
  | failing (failure : Failure)
  deriving DecidableEq, Repr

namespace Request

/-- Paths that lead nowhere are a matter of usage, unless they are no paths at all. -/
def refuse : DiskFault → Refusal
  | .nulCharacter => .failing (DiskFault.nulCharacter.failure "")
  | _ => .usage

/-- The request before any option has been looked at. -/
def initial : Request := ⟨.empty, "", ⟨.relative, []⟩, none, .info⟩

def stream (r : Request) : Yaml.Stream := .ofBytes r.content r.name

def levels : List Level := [.critical, .error, .warning, .info, .debug]

/-- Checks the value of an option and puts it into the request. -/
def accept (d : Disk) (input : ByteArray) (r : Request) :
    Key → Option String → Except Refusal Request
  | .installConfig, none | .outputDir, none => .error .usage
  | .cloudsFile, none | .logLevel, none => .ok r
  | .installConfig, some path =>
    if path = "-" then .ok { r with content := input, name := "<stdin>" }
    else match d.read path with
      | .ok content => .ok { r with content, name := path }
      | .error e => .error (refuse e)
  | .outputDir, some path =>
    match d.stat path with
    | .ok (.file _ _) => .error .usage
    | .error .nulCharacter => .error (refuse .nulCharacter)
    | _ => .ok { r with outputDir := Path.ofString path }
  | .cloudsFile, some path =>
    match d.stat path with
    | .ok (.file _ _) => .ok { r with cloudsFile := some (Path.ofString path).render }
    | .ok .directory => .error .usage
    | .error e => .error (refuse e)
  | .logLevel, some name =>
    match levels.find? (·.name = name) with
    | some level => .ok { r with level }
    | none => .error .usage

/-- The request in arguments that do not ask for help. The first option that is wrong decides;
arguments that are no options are looked at last. -/
def ofArguments (d : Disk) (input : ByteArray) (a : Arguments) : Except Refusal Request := do
  let r ← a.order.foldlM (fun r key => accept d input r key (a.value? key)) initial
  if a.others = [] then return r else throw .usage

end Request

end CloudConf.Command
