import CloudConf.Failure
import CloudConf.Disk.Path

/-! # Trees of files, and what paths lead to in them

A file has permission bits, but there are no owners, and what is there can be read. What may still
be refused of changes is left to the module on these. -/
namespace CloudConf

/-- Where an entry is: the names that lead to it from the top. -/
abbrev Place := List String

inductive Node where
  | directory
  | file (content : ByteArray) (mode : Nat)
  deriving Inhabited

instance : DecidableEq Node
  | .directory, .directory => isTrue rfl
  | .directory, .file _ _ | .file _ _, .directory => isFalse nofun
  | .file c m, .file c' m' =>
    decidable_of_iff (c.data = c'.data ∧ m = m') (by simp [← ByteArray.ext_iff])

def Node.isFile : Node → Bool
  | .directory => false
  | .file _ _ => true

structure Disk where
  nodes : List (Place × Node)
  /-- Where relative paths start. -/
  workPlace : Place
  deriving Inhabited

inductive DiskFault where
  | notFound | exists | notDirectory | isDirectory | nameTooLong | nulCharacter
  /-- The path would do, but the system does not let it be done. -/
  | refused (failure : Failure)
  deriving DecidableEq, Repr, Inhabited

namespace DiskFault

def failure (path : WideText) : DiskFault → Failure
  | notFound => .alone (.system .fileNotFound)
      s!"[Errno 2] No such file or directory: {path.shown}"
  | «exists» => .alone (.system .fileExists) s!"[Errno 17] File exists: {path.shown}"
  | notDirectory => .alone (.system .notDirectory) s!"[Errno 20] Not a directory: {path.shown}"
  | isDirectory => .alone (.system .isDirectory) s!"[Errno 21] Is a directory: {path.shown}"
  | nameTooLong => .alone (.system .general) s!"[Errno 36] File name too long: {path.shown}"
  | nulCharacter => .alone (.plain .value) "embedded null byte"
  | refused f => f

end DiskFault

namespace Disk

def find? (place : Place) : List (Place × Node) → Option Node
  | [] => none
  | (p, n) :: rest => if p = place then some n else find? place rest

/-- What is at a place. The top is a directory. -/
def node? (d : Disk) (place : Place) : Option Node :=
  if place = [] then some .directory else find? place d.nodes

def put (d : Disk) (place : Place) (n : Node) : Disk :=
  { d with nodes := (place, n) :: d.nodes.filter (·.1 ≠ place) }

def maxNameBytes : Nat := 255

def maxPathBytes : Nat := 4095

/-- Follows names from a place. All that is passed on the way has to be a directory; what the last
name leads to need not be there. -/
def follow (d : Disk) (place : Place) : List String → Except DiskFault Place
  | [] => .ok place
  | name :: rest =>
    match d.node? place with
    | none => .error .notFound
    | some (.file _ _) => .error .notDirectory
    | some .directory =>
      if name = "" ∨ name = "." then d.follow place rest
      else if name = ".." then d.follow place.dropLast rest
      else if name.utf8ByteSize > maxNameBytes then .error .nameTooLong
      else d.follow (place ++ [name]) rest

def locate (d : Disk) (path : String) : Except DiskFault Place :=
  if path.toList.contains '\x00' then .error .nulCharacter
  else if path = "" then .error .notFound
  else if path.utf8ByteSize > maxPathBytes then .error .nameTooLong
  else d.follow (if path.startsWith "/" then [] else d.workPlace) (Path.components path)

def stat (d : Disk) (path : String) : Except DiskFault Node := do
  match d.node? (← d.locate path) with
  | some n => return n
  | none => throw .notFound

def isDirectory (d : Disk) (path : String) : Bool :=
  match d.stat path with
  | .ok .directory => true
  | _ => false

def contentOf (d : Disk) (place : Place) : Except DiskFault ByteArray :=
  match d.node? place with
  | none => .error .notFound
  | some .directory => .error .isDirectory
  | some (.file content _) => .ok content

def read (d : Disk) (path : String) : Except DiskFault ByteArray := do
  d.contentOf (← d.locate path)

variable {d : Disk} {place other : Place} {n : Node}

theorem find?_filter_ne (ns : List (Place × Node)) (h : other ≠ place) :
    find? other (ns.filter (·.1 ≠ place)) = find? other ns := by
  induction ns with
  | nil => rfl
  | cons head rest ih =>
    obtain ⟨p, m⟩ := head
    by_cases hp : p = place
    · have : p ≠ other := fun e => h (e ▸ hp)
      simpa [List.filter_cons, hp, find?, Ne.symm h] using ih
    · simp only [List.filter_cons, hp, ne_eq, not_false_eq_true, decide_true, if_true, find?]
      split
      · rfl
      · exact ih

theorem node?_put_self (h : place ≠ []) : (d.put place n).node? place = some n := by
  simp [node?, put, find?, h]

theorem node?_put_of_ne (h : other ≠ place) : (d.put place n).node? other = d.node? other := by
  simp only [node?, put, find?, Ne.symm h, if_false]
  split
  · rfl
  · exact find?_filter_ne _ h

end Disk

end CloudConf
