import CloudConf.Yaml.Graph
import CloudConf.Yaml.Scan
import CloudConf.Yaml.Value

/-! # YAML documents -/
namespace CloudConf.Yaml

/-- The values of a document by their numbers. A value may occur in several places. -/
structure Document where
  values : Array Value
  root : Nat
  deriving Inhabited

namespace Document

/-- A document whose nodes are being turned into values. -/
structure Progress where
  graph : Graph
  values : Array (Option Value)
  /-- Collections whose content has yet to be turned into values, in this order. -/
  waiting : List Nat

/-- A mapping that stands for itself. -/
def endless : Failure := .alone (.plain .recursion) "maximum recursion depth exceeded"

/-- The text of a node that is read as a scalar. A mapping stands for the value of its default
key; from there no more nodes can be met than there are, unless one of them is met again. -/
def scalarText (g : Graph) : (fuel : Nat) → Nat → Except Failure WideText
  | 0, _ => .error endless
  | fuel + 1, n =>
    match g.content? n with
    | some (.scalar text) => .ok text
    | some (.mapping entries) =>
      match entries.find? fun e => g.tag? e.1 == some .default with
      | some (_, value) => scalarText g fuel value
      | none => .error malformed
    | _ => .error malformed

/-- The collection of a tag, before its content is known. -/
def vacant? : Tag → Option Value
  | .seq => some (.list [])
  | .omap | .pairs => some (.pairs [])
  | .set => some (.set [])
  | .map => some (.mapping [])
  | _ => none

def noText : Failure :=
  .alone (.plain .type) "expected string or bytes-like object, got 'list'"

/-- The value of a scalar node. A point in time is read off the node itself, which has to have a
text of its own. -/
def scalarValue (g : Graph) (n : Nat) (tag : Tag) : Except Failure Value := do
  let text ← scalarText g (g.size + 1) n
  match tag, g.content? n with
  | .timestamp, some (.mapping _) => throw noText
  | _, _ => Value.ofScalar tag text

/-- Turns a node into a value unless that has been done. The content of a collection has to wait. -/
def visit (p : Progress) (n : Nat) : Except Failure Progress :=
  match p.values[n]? with
  | some none => do
    let tag := (p.graph.tag? n).getD .unknown
    match vacant? tag with
    | some v => return { p with values := p.values.set! n (some v), waiting := p.waiting ++ [n] }
    | none =>
      let v ← scalarValue p.graph n tag
      return { p with values := p.values.set! n (some v) }
  | _ => .ok p

def isHashableAt (p : Progress) (n : Nat) : Bool :=
  match p.values[n]? with
  | some (some v) => v.isHashable
  | _ => false

def visitPair (mustHash : Bool) (p : Progress) (entry : Nat × Nat) : Except Failure Progress := do
  let p ← visit p entry.1
  if mustHash && !isHashableAt p entry.1 then throw malformed
  visit p entry.2

def soleEntry (g : Graph) (n : Nat) : Except Failure (Nat × Nat) :=
  match g.entries? n with
  | some [entry] => .ok entry
  | _ => .error malformed

def fill (p : Progress) (n : Nat) : Except Failure Progress := do
  let settle (p : Progress) (v : Value) : Progress := { p with values := p.values.set! n (some v) }
  match (p.graph.tag? n).getD .unknown, p.graph.content? n with
  | .seq, some (.sequence items) =>
    return settle (← items.foldlM visit p) (.list items)
  | .omap, some (.sequence items) | .pairs, some (.sequence items) =>
    let (entries, p) ← items.foldlM (fun (found, p) item => do
      let entry ← soleEntry p.graph item
      return (found ++ [entry], ← visitPair false p entry)) ([], p)
    return settle p (.pairs entries)
  | tag, some (.mapping _) =>
    if tag = .map ∨ tag = .set then
      let g ← p.graph.flatten n
      let entries := (g.entries? n).getD []
      let p ← entries.foldlM (visitPair true) { p with graph := g }
      return settle p (if tag = .map then .mapping entries else .set (entries.map (·.1)))
    else throw malformed
  | _, _ => throw malformed

/-- Fills the waiting collections, and those that are met in them. -/
def fillAll : (fuel : Nat) → Progress → Except Failure Progress
  | 0, p => .ok p
  | fuel + 1, p =>
    match p.waiting with
    | [] => .ok p
    | n :: rest => do fillAll fuel (← fill { p with waiting := rest } n)

def ofGraph (g : Graph) : Except Failure Document := do
  let p ← visit ⟨g, Array.replicate g.size none, []⟩ 0
  let p ← fillAll (g.size + 1) p
  return ⟨p.values.map (·.getD .null), 0⟩

/-- Reads a stream of at most one document. A stream without one stands for nothing. -/
def parse (s : Stream) : Except Failure Document := do
  match ← Tree.ofTokens (tokens (cells s)) with
  | none => return ⟨#[.null], 0⟩
  | some tree => ofGraph (← Graph.ofTree tree)

def value (d : Document) (n : Nat) : Value := d.values[n]?.getD .null

/-- The value at a text key. Of several entries the last one counts. -/
def find? (d : Document) (key : String) (entries : List (Nat × Nat)) : Option Value :=
  entries.foldl (fun found e => match d.value e.1 with
    | .text s => if s = .ofString key then some (d.value e.2) else found
    | _ => found) none

end Document

end CloudConf.Yaml
