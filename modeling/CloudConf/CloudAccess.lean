import CloudConf.World

/-! # Access to clouds -/
namespace CloudConf

/-- A cloud that was loaded by its name. -/
structure CloudAccess where
  region : Region
  profile : Profile
  deriving Repr, Inhabited

namespace CloudAccess

/-- Loads a cloud. The clouds are loaded first unless the caller has done so. -/
def load (w : World) (loaded : Bool) (cloud : WideText) : Action CloudAccess := do
  let region ← Action.within .session .session s!"Unable to load cloud {cloud} from clouds.yaml"
    "failed to get cloud config for openstack" Failure.isRemote do
      unless loaded do w.loadClouds none
      w.cloud cloud
  Action.log .debug .session s!"Loaded cloud {cloud}"
  let profile ← Action.ofExcept (Profile.ofRegion region)
  return ⟨region, profile⟩

def networkClient (w : World) (region : Region) : Action NetworkClient :=
  Action.within .client .session "Unable to create the OpenStack network client"
    "failed to create a network client" Failure.isRemote do
      w.connect region
      w.networkClient

end CloudAccess

end CloudConf
