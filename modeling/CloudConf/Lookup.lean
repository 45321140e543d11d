import CloudConf.Journal

/-! # Looking up networks by name -/
namespace CloudConf

structure Network where
  id : Option String
  name : WideText
  deriving DecidableEq, Repr, Inhabited

/-- The networking service of a cloud, as far as it lists networks. -/
structure NetworkClient where
  networks : List Network
  /-- Whether a listing leaves out the networks of other names. -/
  filters : Bool
  failure : Option Failure
  /-- How many networks a failing listing yields before it fails. -/
  yields : Nat
  deriving Repr, Inhabited

abbrev Resolver := WideText → Action (Option String)

def idText : Option String → String
  | some id => id
  | none => "None"

namespace NetworkClient

def matching (c : NetworkClient) (name : WideText) : List Network :=
  if c.filters then c.networks.filter (·.name = name) else c.networks

/-- The networks that a listing yields, and how it fails if it does. -/
def listing (c : NetworkClient) (name : WideText) : List Network × Option Failure :=
  match c.failure with
  | none => (c.matching name, none)
  | some f => ((c.matching name).take c.yields, some f)

def ids (c : NetworkClient) (name : WideText) : Action (List (Option String)) := do
  Action.call (.networks name)
  match c.listing name with
  | (found, none) => return found.map (·.id)
  | (_, some f) => throw f

end NetworkClient

namespace Lookup

def notFound (name : WideText) : Failure :=
  .alone (.cloud .notFound) s!"Unable to find network with name {name}"

/-- All ids in order, or the position of the first that is missing. -/
def allIds : Nat → List (Option String) → Except Nat (List String)
  | _, [] => .ok []
  | i, none :: _ => .error i
  | i, some id :: rest => (allIds (i + 1) rest).map (id :: ·)

def ambiguous (name : WideText) (ids : List (Option String)) : Failure :=
  match allIds 0 ids with
  | .ok ids =>
    let listed := ", ".intercalate ids
    .alone (.cloud .duplicate) s!"Found {ids.length} networks with name {name}: {listed}"
  | .error i =>
    .alone (.plain .type) s!"sequence item {i}: expected str instance, NoneType found"

def resolve (client : NetworkClient) : Resolver := fun name => do
  match ← client.ids name with
  | [] => throw (notFound name)
  | [id] =>
    Action.log .debug .lookup s!"Resolved network {name} to ID {idText id}"
    return id
  | ids => throw (ambiguous name ids)

end Lookup

end CloudConf
