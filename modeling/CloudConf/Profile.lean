import CloudConf.Datum
import CloudConf.Failure

/-! # Authentication profiles of clouds -/
namespace CloudConf

/-- A cloud as it is configured for one region. -/
structure Region where
  config : Datum
  name : Datum
  deriving Repr, Inhabited

/-- What a cloud is authenticated with. An empty text is a setting that is not there. -/
structure Profile where
  authUrl : String := ""
  username : String := ""
  password : String := ""
  projectId : String := ""
  projectName : String := ""
  domainId : String := ""
  userDomainId : String := ""
  domainName : String := ""
  userDomainName : String := ""
  regionName : String := ""
  caCertFile : WideText := ""
  deriving DecidableEq, Repr, Inhabited

namespace Profile

/-- The first text, unless it is empty. -/
def orElse (first second : String) : String := if first = "" then second else first

def resolvedDomainId (p : Profile) : String := orElse p.domainId p.userDomainId

def resolvedDomainName (p : Profile) : String := orElse p.domainName p.userDomainName

/-- The entries of a mapping; of anything else none can be had. -/
def entries : Datum → Except Failure (List (String × Datum))
  | .mapping es => .ok es
  | d => .error (.alone (.plain .attribute) s!"'{d.typeName}' object has no attribute 'get'")

/-- The entries that authenticate: an absent or empty section has none. -/
def authEntries (config : List (String × Datum)) : Except Failure (List (String × Datum)) :=
  match Datum.find? "auth" config with
  | none => .ok []
  | some auth => if auth.isTruthy then entries auth else .ok []

def ofSettings (auth : String → Option Datum) (name : Datum) (caFile : Option Datum) :
    Except Failure Profile := do
  return {
    authUrl := ← Datum.setting (auth "auth_url")
    username := ← Datum.setting (auth "username")
    password := ← Datum.setting (auth "password")
    projectId := ← Datum.setting (auth "project_id")
    projectName := ← Datum.setting (auth "project_name")
    domainId := ← Datum.setting (auth "domain_id")
    userDomainId := ← Datum.setting (auth "user_domain_id")
    domainName := ← Datum.setting (auth "domain_name")
    userDomainName := ← Datum.setting (auth "user_domain_name")
    regionName := ← Datum.setting (some name)
    caCertFile := .ofString (← Datum.setting caFile) }

def ofRegion (region : Region) : Except Failure Profile := do
  let config ← entries region.config
  let auth ← authEntries config
  ofSettings (Datum.find? · auth) region.name (Datum.find? "cacert" config)

end Profile

end CloudConf
