import CloudConf.Datum
import CloudConf.Failure

/-! # Actions, the calls they make and the messages they log -/
namespace CloudConf

inductive Level where
  | debug | info | warning | error | critical
  deriving DecidableEq, Repr, Inhabited

namespace Level

def severity : Level → Nat
  | debug => 10
  | info => 20
  | warning => 30
  | error => 40
  | critical => 50

def name : Level → String
  | debug => "DEBUG"
  | info => "INFO"
  | warning => "WARNING"
  | error => "ERROR"
  | critical => "CRITICAL"

end Level

inductive Speaker where
  | settings | session | lookup | provider | credentials | command
  deriving DecidableEq, Repr, Inhabited

def Speaker.name : Speaker → String
  | settings => "openstack_cloud_config.configuration"
  | session => "openstack_cloud_config.session"
  | lookup => "openstack_cloud_config.network"
  | provider => "openstack_cloud_config.provider_config"
  | credentials => "openstack_cloud_config.secret"
  | command => "openstack_cloud_config.cli"

structure LogEntry where
  level : Level
  speaker : Speaker
  message : String
  deriving DecidableEq, Repr, Inhabited

def LogEntry.line (e : LogEntry) : String :=
  e.level.name ++ " - " ++ e.speaker.name ++ " - " ++ e.message ++ "\n"

/-- What the generator calls its collaborators for. -/
inductive Call where
  | loader (files : Option (List String))
  | cloud (name : WideText)
  | connection (region : Datum)
  | networks (name : WideText)
  | resolve (name : WideText)
  | read (path : WideText)
  deriving Repr, Inhabited

/-- All that the generator asks for: a call, or the networking service of a connection. -/
inductive Demand where
  | call (c : Call)
  | service
  deriving Repr, Inhabited

def Demand.call? : Demand → Option Call
  | call c => some c
  | service => none

structure Journal where
  demands : List Demand
  log : List LogEntry
  deriving Repr, Inhabited

def Journal.calls (j : Journal) : List Call := j.demands.filterMap Demand.call?

/-- What may fail, call collaborators and log; the journal survives a failure. -/
abbrev Action := ExceptT Failure (StateM Journal)

namespace Action

def demand (d : Demand) : Action Unit := modify fun j => { j with demands := j.demands ++ [d] }

def call (c : Call) : Action Unit := demand (.call c)

def log (level : Level) (speaker : Speaker) (message : String) : Action Unit :=
  modify fun j => { j with log := j.log ++ [⟨level, speaker, message⟩] }

def ofExcept {α : Type} : Except Failure α → Action α
  | .ok a => pure a
  | .error f => throw f

/-- Reports the failures of `body` that satisfy `handles` as failures of a stage. -/
def within {α : Type} (stage : Stage) (speaker : Speaker) (report text : String)
    (handles : Failure → Bool) (body : Action α) : Action α :=
  tryCatch body fun f =>
    if handles f then do
      log .error speaker report
      throw (.because (.stage stage) text f)
    else throw f

/-- The result of an action, and the journal that it leaves of the one that it starts with. -/
def runOn {α : Type} (a : Action α) (j : Journal) : Except Failure α × Journal := a.run.run j

/-- The outcome of an action that starts with an empty journal. -/
def outcome {α : Type} (a : Action α) : Except Failure α × Journal := a.runOn ⟨[], []⟩

end Action

end CloudConf
