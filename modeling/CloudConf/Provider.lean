import CloudConf.Credentials
import CloudConf.Lookup

/-! # The configuration of the cloud provider -/
namespace CloudConf

abbrev FileReader := WideText → Action ByteArray

/-- The generated configuration, and the CA bundle that goes with it. -/
structure Artifact where
  config : String
  caBundle : Option ByteArray
  deriving Inhabited

namespace Provider

def loadBalancerHeader : String := "[LoadBalancer]"

/-- The configuration line by line. The region and the id are written as they are. -/
def lines (region : String) (hasCaBundle : Bool) (floating : Option (Option String)) : List String :=
  [globalHeader, "secret-name = openstack-credentials", "secret-namespace = kube-system"] ++
    (if region = "" then [] else ["region = " ++ region]) ++
    (if hasCaBundle then [caFileLine] else []) ++
    match floating with
    | none => []
    | some id => ["", loadBalancerHeader, "floating-network-id = " ++ idText id]

def render (region : String) (hasCaBundle : Bool) (floating : Option (Option String)) : String :=
  String.ofList (Text.unlines ((lines region hasCaBundle floating).map String.toList))

def readCaBundle (read : FileReader) (path : WideText) : Action (Option ByteArray) :=
  if path = "" then return none
  else do
    let content ← Action.within .caBundle .provider s!"Unable to read CA certificate file {path}"
      "failed to read clouds.yaml ca-cert from disk" Failure.isSystem (read path)
    Action.log .debug .provider s!"Read CA bundle from {path}"
    return some content

def findFloating (resolve : Resolver) (network : WideText) : Action (Option (Option String)) :=
  if network.isEmpty then return none
  else do
    let id ← Action.within .lookup .provider s!"Unable to resolve external network {network}"
      s!"failed to fetch external network {network}" (fun f => !f.isSignal) (resolve network)
    Action.log .info .provider
      s!"Using network {network} ({idText id}) for load balancer floating IPs"
    return some id

/-- The configuration for a profile and the name of an external network, which may be empty. -/
def generate (profile : Profile) (network : WideText) (resolve : Resolver) (read : FileReader) :
    Action Artifact := do
  let bundle ← readCaBundle read profile.caCertFile
  let floating ← findFloating resolve network
  return ⟨render profile.regionName bundle.isSome floating, bundle⟩

end Provider

end CloudConf
