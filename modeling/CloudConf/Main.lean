import CloudConf.CloudsFile
import CloudConf.Command.Run

/-! # The command line program -/
namespace CloudConf

/-- What is shown to those who ask for help or need it. -/
def usageText : String :=
  "Usage: cloudconf --install-config FILE --output-dir DIRECTORY\n" ++
  "         [--clouds-yaml FILE] [--log-level CRITICAL|ERROR|WARNING|INFO|DEBUG] [--help]\n\n" ++
  "Generate the OpenStack cloud provider config and credentials.\n"

/-- The operating system's number for an attempt to read a directory. -/
def directoryCode : UInt32 := 21

def probe (path : String) : IO (Option Node) := do
  try return some (.file (← IO.FS.readBinFile path) Disk.defaultMode)
  catch
    | .inappropriateType _ code _ => return if code = directoryCode then some .directory else none
    | _ => return none

def absolute (place : Place) : String := "/" ++ "/".intercalate place

/-- Takes over what is on the way to a path, and at its end. -/
def explore (d : Disk) (path : String) : IO Disk := do
  let p := Path.ofString path
  let mut disk := d
  let mut place := if p.root = .relative then d.workPlace else []
  for part in p.parts do
    place := if part = ".." then place.dropLast else place ++ [part]
    if let some node ← probe (absolute place) then disk := disk.put place node
  return disk

/-- The tree of which only the way to the working directory is known. -/
def unexplored (workPlace : Place) : Disk where
  nodes := (List.range workPlace.length).map fun n => (workPlace.take (n + 1), .directory)
  workPlace := workPlace

/-- The files that a run may have to look at. -/
def relevant (args : Command.Arguments) : List String :=
  let outputs := (args.value? .outputDir).toList.flatMap fun dir =>
    [Command.secretFile, Command.configFile, Command.caBundleFile].map fun name =>
      ((Path.ofString dir).child name).render
  args.given.map (·.2) ++ outputs

/-- Brings the file system to where a run has taken the tree. A file is closed to others before
anything is written to it. -/
def carryOut (before after : Disk) : IO Unit := do
  for (place, node) in after.nodes.reverse do
    if before.node? place ≠ some node then
      let path := absolute place
      match node with
      | .directory => IO.FS.createDirAll path
      | .file content mode =>
        if mode = Command.secretMode then
          IO.FS.writeBinFile path .empty
          IO.setAccessRights path { user := { read := true, write := true } }
        IO.FS.writeBinFile path content

def decode (content : ByteArray) : Except Failure String :=
  match String.fromUTF8? content with
  | some text => .ok text
  | none => .error (.alone (.plain .undecodable) "")

/-- The text of the clouds file that is asked for, or of the first that is found. -/
def cloudsText (d : Disk) (asked : Option String) : IO (Except Failure String) := do
  let home := (← IO.getEnv "HOME").getD ""
  let places := match asked with
    | some path => [path]
    | none => ["clouds.yaml", home ++ "/.config/openstack/clouds.yaml", "/etc/openstack/clouds.yaml"]
  for path in places do
    let d ← explore d path
    if let .ok content := d.read path then return decode content
  return .ok ""

def caFiles (w : World) : List String :=
  w.clouds.filterMap fun c => match Profile.ofRegion c.2 with
    | .ok p => if p.caCertFile = "" then none else some p.caCertFile.given
    | .error _ => none

/-- All that can still be read from a stream. -/
partial def drain (input : IO.FS.Stream) (content : ByteArray) : IO ByteArray := do
  let more ← input.read 65536
  if more.isEmpty then return content else drain input (content ++ more)

end CloudConf

open CloudConf in
def main (args : List String) : IO UInt32 := do
  let asked := (Command.Arguments.parse args).getD .empty
  let start := unexplored (Path.ofString (← IO.currentDir).toString).parts
  let world := CloudsFile.world (← cloudsText start (asked.value? .cloudsFile))
  let before ← (relevant asked ++ caFiles world).foldlM explore start
  let input ← if asked.value? .installConfig = some "-" then drain (← IO.getStdin) .empty
    else pure .empty
  let report := Command.run args input world before
  carryOut before report.disk
  let stderr ← IO.getStderr
  stderr.putStr report.errorText
  match report.ending with
  | .help => (← IO.getStdout).putStr usageText
  | .usage => stderr.putStr usageText
  | .failed f => stderr.putStrLn f.message
  | _ => pure ()
  return UInt32.ofNat report.ending.exitCode
