import CloudConf.Credentials
import CloudConf.Disk.Change
import CloudConf.Provider
import CloudConf.Settings

/-! # Writing the generated files -/
namespace CloudConf.Command

/-- All that the generated files are made from. -/
structure Product where
  settings : Settings
  profile : Profile
  artifact : Artifact
  deriving Inhabited

def secretFile : String := "clouds.conf"

def configFile : String := "cloud.conf"

def caBundleFile : String := "ca-bundle.pem"

/-- Whoever does not own the secret can neither read nor write it. -/
def secretMode : Nat := 0o600

open Disk (Limits Step)

/-- Makes the directory and an empty secret, which is closed to others before anything is written
to it. A secret that is there already may be open. -/
def preparation (dir : Path) : List Step :=
  [.makeDirectories dir, .touch (dir.child secretFile) secretMode,
    .setMode (dir.child secretFile) secretMode]

/-- The names of the files, with what they are to hold. -/
def outputContents (secret : String) (artifact : Artifact) : List (String × ByteArray) :=
  [(secretFile, secret.toUTF8), (configFile, artifact.config.toUTF8)] ++
    artifact.caBundle.toList.map fun bundle => (caBundleFile, bundle)

def writing (path : Path) (content : ByteArray) : List Step := [.truncate path, .fill path content]

def contents (dir : Path) (secret : String) (artifact : Artifact) : List Step :=
  (outputContents secret artifact).flatMap fun f => writing (dir.child f.1) f.2

/-- Writes the files. What was written stays if a later step fails. -/
def publish (d : Disk) (dir : Path) (p : Product) (limits : Limits := Disk.unlimited) :
    Action (Disk × Option Failure) := do
  match d.perform (preparation dir) limits with
  | (d, some f) => return (d, some f)
  | (d, none) =>
    let secret ← Credentials.generate p.profile
    match d.perform (contents dir secret p.artifact) limits with
    | (d, some f) => return (d, some f)
    | (d, none) =>
      Action.log .info .command
        s!"Wrote cloud provider config for cloud {p.settings.cloud} to {dir.render}"
      return (d, none)

end CloudConf.Command
