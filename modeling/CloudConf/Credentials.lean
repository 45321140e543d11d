import CloudConf.Journal
import CloudConf.Profile
import CloudConf.Text.Lines
import CloudConf.Text.Literal

/-! # The secret that holds a cloud's credentials -/
namespace CloudConf

/-- Where the CA bundle is mounted for whoever reads the configuration. -/
def caBundleMount : String :=
  "/etc/kubernetes/static-pod-resources/configmaps/cloud-config/ca-bundle.pem"

def globalHeader : String := "[Global]"

def caFileLine : String := "ca-file = " ++ caBundleMount

namespace Credentials

/-- The settings of a secret, in the order in which they are written. -/
def allFields (p : Profile) : List (String × String) :=
  [("auth-url", p.authUrl), ("username", p.username), ("password", p.password),
    ("tenant-id", p.projectId), ("tenant-name", p.projectName),
    ("domain-id", p.resolvedDomainId), ("domain-name", p.resolvedDomainName),
    ("region", p.regionName)]

def fields (p : Profile) : List (String × String) := (allFields p).filter (·.2 ≠ "")

def fieldLine (field : String × String) : String := field.1 ++ " = " ++ Text.quote field.2

def lines (p : Profile) : List String :=
  globalHeader :: (fields p).map fieldLine ++ if p.caCertFile = "" then [] else [caFileLine]

/-- The secret: every value is quoted, so that none can end its line or begin a comment. -/
def render (p : Profile) : String := String.ofList (Text.unlines ((lines p).map String.toList))

/-- Renders the secret, and logs its keys but not its values. -/
def generate (p : Profile) : Action String := do
  let keys := (fields p).map (·.1)
  Action.log .debug .credentials s!"Generated credentials config with keys: {Text.shownList keys}"
  return render p

end Credentials

end CloudConf
