import CloudConf.InstallConfig
import CloudConf.Lookup
import CloudConf.Profile

/-! # The collaborators of the generator -/
namespace CloudConf

/-- How the clouds are configured, how their services answer and what reads install configs. -/
structure World where
  clouds : List (WideText × Region)
  loaderFailure : Option Failure
  cloudFailure : Option Failure
  connectionFailure : Option Failure
  networkFailure : Option Failure
  client : NetworkClient
  reader : ConfigReader := default
  deriving Inhabited

namespace World

private def failing (f : Option Failure) : Action Unit :=
  match f with
  | none => pure ()
  | some f => throw f

/-- Loads the configured clouds, from the given files or from where they are by default. -/
def loadClouds (w : World) (files : Option (List String)) : Action Unit := do
  Action.call (.loader files)
  failing w.loaderFailure

def findCloud (name : WideText) : List (WideText × Region) → Option Region
  | [] => none
  | (n, r) :: rest => if n = name then some r else findCloud name rest

def cloud (w : World) (name : WideText) : Action Region := do
  Action.call (.cloud name)
  failing w.cloudFailure
  match findCloud name w.clouds with
  | some r => return r
  | none => throw (.alone (.cloud .configuration) s!"Cloud {name} was not found.")

def connect (w : World) (region : Region) : Action Unit := do
  Action.call (.connection region.name)
  failing w.connectionFailure

def networkClient (w : World) : Action NetworkClient := do
  Action.demand .service
  failing w.networkFailure
  return w.client

end World

end CloudConf
