import CloudConf.Text.Lines

/-! # Paths in normal form -/
namespace CloudConf

/-- What a path starts from. Exactly two leading slashes are kept apart from one. -/
inductive PathRoot where
  | relative | single | double
  deriving DecidableEq, Repr, Inhabited

/-- A path without empty and `.` components; `..` components stay. -/
structure Path where
  root : PathRoot
  parts : List String
  deriving DecidableEq, Repr, Inhabited

namespace Path

/-- The components of a path as it is written, empty ones included. -/
def components (s : String) : List String := (Text.splitAt '/' s.toList).map String.ofList

def ofString (s : String) : Path where
  root := match s.toList.takeWhile (· = '/') with
    | [] => .relative
    | [_, _] => .double
    | _ => .single
  parts := (components s).filter fun c => c ≠ "" ∧ c ≠ "."

def render (p : Path) : String :=
  let body := "/".intercalate p.parts
  match p.root with
  | .relative => if p.parts = [] then "." else body
  | .single => "/" ++ body
  | .double => "//" ++ body

def child (p : Path) (name : String) : Path := { p with parts := p.parts ++ [name] }

end Path

end CloudConf
