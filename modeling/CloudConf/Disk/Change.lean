import CloudConf.Disk.Basic

/-! # Changing a tree of files

What a tree rules out fails. Whatever else may keep a program from changing it is left to a
parameter: a right that the owners and the permission bits of the tree do not give, a device that is
full, a text that cannot be encoded. -/
namespace CloudConf.Disk

/-- A single change of the tree. A file is written by making it empty first, and then filling it. -/
inductive Step where
  | makeDirectories (path : Path)
  | touch (path : Path) (mode : Nat)
  | setMode (path : Path) (mode : Nat)
  | truncate (path : Path)
  | fill (path : Path) (content : ByteArray)
  deriving Inhabited

/-- Why a step is refused, and how many bytes it has brought into a file before. -/
structure Limit where
  failure : Failure
  kept : Nat
  deriving DecidableEq, Repr, Inhabited

/-- What the system refuses of the steps that the tree allows. -/
abbrev Limits := Step → Option Limit

def unlimited : Limits := fun _ => none

/-- What comes of an operation unless it is refused. -/
def permit (limit : Option Limit) (r : Except DiskFault Disk) : Except DiskFault Disk :=
  match limit with
  | none => r
  | some l => r.bind fun _ => .error (.refused l.failure)

/-- The permission bits of a new file for which none are asked. -/
def defaultMode : Nat := 0o644

def makeDirectory (d : Disk) (path : String) : Except DiskFault Disk := do
  let place ← d.locate path
  match d.node? place with
  | some _ => throw .exists
  | none => return d.put place .directory

/-- Makes a directory and those above it that are missing; what was made stays if this fails.
The names of the path come in reverse. -/
def makeDirectories (limits : Limits) (root : PathRoot) :
    (names : List String) → Disk → Disk × Option Failure
  | names, d =>
    let p := Path.mk root names.reverse
    let make (d : Disk) := permit (limits (.makeDirectories p)) (d.makeDirectory p.render)
    match make d with
    | .ok d' => (d', none)
    | .error .notFound =>
      match names with
      | [] => (d, some (DiskFault.notFound.failure p.render))
      | _ :: above =>
        match makeDirectories limits root above d with
        | (d', some f) => (d', some f)
        | (d', none) =>
          match make d' with
          | .ok d'' => (d'', none)
          | .error e => (d', if e ≠ .notFound ∧ d'.isDirectory p.render then none
              else some (e.failure p.render))
    | .error e => (d, if d.isDirectory p.render then none else some (e.failure p.render))

/-- Makes an empty file unless there is something at the path. -/
def touch (d : Disk) (path : String) (mode : Nat) : Except DiskFault Disk := do
  let place ← d.locate path
  match d.node? place with
  | some _ => return d
  | none => return d.put place (.file .empty mode)

/-- Sets the permission bits of a file; those of a directory are of no concern here. -/
def setMode (d : Disk) (path : String) (mode : Nat) : Except DiskFault Disk := do
  let place ← d.locate path
  match d.node? place with
  | some (.file content _) => return d.put place (.file content mode)
  | some .directory => return d
  | none => throw .notFound

/-- Leaves an empty file, which is made if it is missing. -/
def truncate (d : Disk) (path : String) : Except DiskFault Disk := do
  let place ← d.locate path
  match d.node? place with
  | some (.file _ mode) => return d.put place (.file .empty mode)
  | some .directory => throw .isDirectory
  | none => return d.put place (.file .empty defaultMode)

def fill (d : Disk) (path : String) (content : ByteArray) : Except DiskFault Disk := do
  let place ← d.locate path
  match d.node? place with
  | some (.file _ mode) => return d.put place (.file content mode)
  | some .directory => throw .isDirectory
  | none => throw .notFound

def remove (d : Disk) (place : Place) : Disk :=
  { d with nodes := d.nodes.filter fun n => !place.isPrefixOf n.1 }

/-- The tree that an operation on a path leaves. One that fails leaves all as it was. -/
def settle (d : Disk) (path : Path) (r : Except DiskFault Disk) : Disk × Option Failure :=
  match r with
  | .ok d' => (d', none)
  | .error e => (d, some (e.failure path.render))

theorem settle_cases (d : Disk) (path : Path) (r : Except DiskFault Disk) :
    (∃ d', r = .ok d' ∧ settle d path r = (d', none)) ∨
      ∃ f, settle d path r = (d, some f) := by
  cases r with
  | ok d' => exact .inl ⟨d', rfl, rfl⟩
  | error e => exact .inr ⟨_, rfl⟩

/-- The tree after a step, and why the step failed if it did. A file that could only be filled in part
holds that part. -/
def Step.apply (d : Disk) (s : Step) (limits : Limits := unlimited) : Disk × Option Failure :=
  match s with
  | .makeDirectories p => Disk.makeDirectories limits p.root p.parts.reverse d
  | .touch p mode => settle d p (permit (limits s) (d.touch p.render mode))
  | .setMode p mode => settle d p (permit (limits s) (d.setMode p.render mode))
  | .truncate p => settle d p (permit (limits s) (d.truncate p.render))
  | .fill p content =>
    match limits s with
    | none => settle d p (d.fill p.render content)
    | some l =>
      match settle d p (d.fill p.render (content.extract 0 l.kept)) with
      | (d', none) => (d', some l.failure)
      | failed => failed

/-- Takes steps until one fails. -/
def perform (d : Disk) (steps : List Step) (limits : Limits := unlimited) :
    Disk × Option Failure :=
  match steps with
  | [] => (d, none)
  | s :: rest =>
    match s.apply d limits with
    | (d', none) => perform d' rest limits
    | (d', some f) => (d', some f)

/-- The trees between steps that are taken until one fails: the first one, and one after each
step. -/
def states (d : Disk) (steps : List Step) (limits : Limits := unlimited) : List Disk :=
  match steps with
  | [] => [d]
  | s :: rest =>
    match s.apply d limits with
    | (d', none) => d :: states d' rest limits
    | (d', some _) => [d, d']

theorem perform_append (d : Disk) (first second : List Step) (limits : Limits) :
    d.perform (first ++ second) limits =
      match d.perform first limits with
      | (d', none) => d'.perform second limits
      | failed => failed := by
  induction first generalizing d with
  | nil => rfl
  | cons s rest ih =>
    simp only [List.cons_append, perform]
    split
    · exact ih _
    · rfl

end CloudConf.Disk
