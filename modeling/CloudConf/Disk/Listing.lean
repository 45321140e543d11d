import CloudConf.Disk.Change

/-! # Listing and laying out trees of files -/
namespace CloudConf.Disk

/-- The name of an entry below the working directory, as a listing shows it. -/
def entryName (below : Place) (n : Node) : String :=
  "/".intercalate below ++ match n with
    | .directory => "/"
    | .file _ _ => ""

def listing (d : Disk) : List (String × Place × Node) :=
  let below := d.nodes.filterMap fun (place, n) =>
    if d.workPlace.isPrefixOf place ∧ place ≠ d.workPlace then
      let rel := place.drop d.workPlace.length
      some (entryName rel n, rel, n)
    else none
  below.mergeSort fun a b => decide (a.1 ≤ b.1)

def fresh : Disk where
  nodes := [(["work"], .directory)]
  workPlace := ["work"]

def layDirectory (d : Disk) (path : String) : Disk :=
  ((Step.makeDirectories (Path.ofString path)).apply d).1

/-- Writes a file and makes what is missing above it. Permission bits that are not given are those
of the file that is there, or of a new one. -/
def layFile (d : Disk) (path : String) (content : ByteArray) (mode : Option Nat) : Disk :=
  let p := Path.ofString path
  let steps := [.makeDirectories { p with parts := p.parts.dropLast }, .truncate p,
    .fill p content] ++ mode.toList.map fun m => Step.setMode p m
  (d.perform steps).1

def clear (d : Disk) (path : String) : Disk :=
  match d.locate path with
  | .ok place => d.remove place
  | .error _ => d

end CloudConf.Disk
