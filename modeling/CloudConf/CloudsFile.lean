import CloudConf.World

/-! # Clouds from a file -/
namespace CloudConf.CloudsFile

open Yaml (Document Value)

def unusable (text : String) : Failure := .alone (.cloud .configuration) text

mutual

/-- A value of a document as a value of a configuration. Values may contain themselves, hence the
bound on how deep they are followed. -/
def datum (d : Document) : (depth : Nat) → Value → Except Failure Datum
  | 0, _ => .error (unusable "The clouds are nested too deeply.")
  | depth + 1, v =>
    match v with
    | .null => .ok .null
    | .bool b => .ok (.bool b)
    | .int n => .ok (.int n)
    | .text s => .ok (.text s.given)
    | .list items => do return .list (← items.mapM fun n => datum d depth (d.value n))
    | .mapping entries => do return .mapping (← members d depth entries)
    | v => .error (unusable s!"A cloud cannot be configured with a {InstallConfig.typeName v}.")

/-- The entries of a mapping whose keys are texts; there can be no use for others. -/
def members (d : Document) : (depth : Nat) → List (Nat × Nat) →
    Except Failure (List (String × Datum))
  | 0, _ => .error (unusable "The clouds are nested too deeply.")
  | depth + 1, entries => entries.foldlM (fun found e =>
      match d.value e.1 with
      | .text key => do
        let value ← datum d depth (d.value e.2)
        return found.filter (·.1 ≠ key.given) ++ [(key.given, value)]
      | _ => .ok found) []

end

/-- A cloud with its region, which is written among its settings. -/
def region (config : Datum) : Region :=
  match config with
  | .mapping entries => ⟨config, (Datum.find? "region_name" entries).getD .null⟩
  | _ => ⟨config, .null⟩

def clouds (text : String) : Except Failure (List (WideText × Region)) := do
  let d ← (Document.parse (.ofText text)).mapError fun f => unusable f.message
  match ← datum d (2 * d.values.size + 2) (d.value d.root) with
  | .mapping entries =>
    match Datum.find? "clouds" entries with
    | some (.mapping clouds) => return clouds.map fun c => (.ofString c.1, region c.2)
    | _ => return []
  | _ => return []

/-- The services of a cloud cannot be reached from here. -/
def noService : Failure := .alone (.identity .connection) "The networking service cannot be reached."

def world (file : Except Failure String) : World :=
  let (known, failure) := match file >>= clouds with
    | .ok cs => (cs, none)
    | .error f => ([], some f)
  { clouds := known
    loaderFailure := failure
    cloudFailure := none
    connectionFailure := none
    networkFailure := none
    client := { networks := [], filters := true, failure := some noService, yields := 0 } }

end CloudConf.CloudsFile
