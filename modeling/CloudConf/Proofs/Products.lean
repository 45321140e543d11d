import CloudConf.Proofs.Additions
import CloudConf.Proofs.CommandRuns
import CloudConf.Proofs.ProviderRuns
import CloudConf.Proofs.SettingsReading

/-! # What a product is made from -/
namespace CloudConf

open CloudConf.Action

namespace Command

variable {w : World} {d e : Disk} {r s : Request} {p : Product}

/-! ## The generation in three parts -/

/-- Loads the clouds from wherever they are, and then a cloud. -/
def reach (w : World) (cloudsFile : Option String) (cloud : WideText) : Action CloudAccess := do
  loadClouds w cloudsFile
  CloudAccess.load w cloudsFile.isSome cloud

def configure (w : World) (d : Disk) (settings : Settings) (access : CloudAccess) :
    Action Artifact := do
  let client ← CloudAccess.networkClient w access.region
  Provider.generate access.profile settings.externalNetwork (Lookup.resolve client)
    fun path => Action.ofExcept (d.readNormal path)

theorem produce_eq (w : World) (d : Disk) (r : Request) :
    produce w d r = (do
      let settings ← InstallConfig.load w.reader r.stream
      let access ← reach w r.cloudsFile settings.cloud
      let artifact ← configure w d settings access
      return ⟨settings, access.profile, artifact⟩) := by
  simp only [produce, reach, configure, bind_assoc]

theorem adds_configure (w : World) (d : Disk) (settings : Settings) (access : CloudAccess) :
    Adds (configure w d settings access) :=
  (CloudAccess.adds_networkClient w _).bind fun client =>
    Provider.adds_generate (Lookup.adds_resolve client) (fun _ => .ofExcept _) _ _

end Command

end CloudConf
