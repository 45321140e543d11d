import CloudConf.CloudAccess
import CloudConf.Command.Publication
import CloudConf.Command.Request
import CloudConf.Disk.WidePath
import CloudConf.Text.ControlSequence

/-! # Running the command -/
namespace CloudConf.Command

inductive Ending where
  | done
  | help
  /-- The command line is wrong. -/
  | usage
  /-- A stage failed, which the command reports. -/
  | reported (failure : Failure)
  | aborted
  /-- A collaborator asked to end the program, or nobody reads what it writes. -/
  | exited
  /-- Any other failure. -/
  | failed (failure : Failure)
  deriving DecidableEq, Repr, Inhabited

namespace Ending

def exitCode : Ending → Nat
  | done | help => 0
  | reported _ | aborted | exited | failed _ => 1
  | usage => 2

/-- The last lines that the command writes for its user. A message loses its control sequences. -/
def notice : Ending → String
  | reported f =>
    let message := String.ofList (Text.withoutControls f.message.toList)
    s!"Error: {message}\n"
  | aborted => "\nAborted!\n"
  | _ => ""

def ofFailure (f : Failure) : Ending :=
  match f.kind with
  | .stage _ => reported f
  | .signal .interrupt | .plain .endOfInput => aborted
  | .signal .exit | .system .brokenPipe => exited
  | _ => failed f

end Ending

/-- What a run leaves behind. -/
structure Report where
  ending : Ending
  journal : Journal
  /-- The least level of the messages that are shown. -/
  level : Level
  disk : Disk
  deriving Inhabited

/-- What the command writes for its user while it runs and when it ends. -/
def Report.errorText (r : Report) : String :=
  let shown := r.journal.log.filter fun e => decide (r.level.severity ≤ e.level.severity)
  String.join (shown.map LogEntry.line) ++ r.ending.notice

def loadClouds (w : World) (cloudsFile : Option String) : Action Unit :=
  match cloudsFile with
  | none => pure ()
  | some path => w.loadClouds (some [path])

/-- From the install config to all that the files are made from. -/
def produce (w : World) (d : Disk) (r : Request) : Action Product := do
  let settings ← InstallConfig.load w.reader r.stream
  loadClouds w r.cloudsFile
  let access ← CloudAccess.load w r.cloudsFile.isSome settings.cloud
  let client ← CloudAccess.networkClient w access.region
  let artifact ← Provider.generate access.profile settings.externalNetwork
    (Lookup.resolve client) fun path => Action.ofExcept (d.readNormal path)
  return ⟨settings, access.profile, artifact⟩

/-- Does what a request asks for. Nothing is written unless all could be generated. -/
def fulfil (w : World) (d : Disk) (r : Request) (limits : Disk.Limits := Disk.unlimited) :
    Report :=
  let action := do publish d r.outputDir (← produce w d r) limits
  match action.outcome with
  | (.error f, journal) => ⟨.ofFailure f, journal, r.level, d⟩
  | (.ok (d', some f), journal) => ⟨.ofFailure f, journal, r.level, d'⟩
  | (.ok (d', none), journal) => ⟨.done, journal, r.level, d'⟩

def run (args : List String) (input : ByteArray) (w : World) (d : Disk)
    (limits : Disk.Limits := Disk.unlimited) : Report :=
  let still (ending : Ending) : Report := ⟨ending, ⟨[], []⟩, .info, d⟩
  match Arguments.parse args with
  | none => still .usage
  | some a =>
    if a.wantsHelp then still .help
    else match Request.ofArguments d input a with
      | .error .usage => still .usage
      | .error (.failing f) => still (.failed f)
      | .ok r => fulfil w d r limits

end CloudConf.Command
