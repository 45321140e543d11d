import CloudConf.CloudAccess
import CloudConf.Provider
import CloudConf.Settings

/-! # Generating the configuration for an installation -/
namespace CloudConf.Install

/-- From the settings to the configuration: access, network client, generation. A resolver stands
in for the lookup through the client. -/
def generate (w : World) (loaded : Bool) (settings : Settings) (resolver : Option Resolver)
    (read : FileReader) : Action Artifact := do
  let access ← CloudAccess.load w loaded settings.cloud
  let client ← CloudAccess.networkClient w access.region
  Provider.generate access.profile settings.externalNetwork
    (resolver.getD (Lookup.resolve client)) read

end CloudConf.Install
