import CloudConf.Yaml.Tag
import CloudConf.Yaml.Tree

/-! # Nodes of a document, with their aliases and tags resolved -/
namespace CloudConf.Yaml

inductive Content where
  | scalar (text : WideText)
  | sequence (items : List Nat)
  | mapping (entries : List (Nat × Nat))
  deriving Repr, Inhabited

structure GraphNode where
  tag : Tag
  content : Content
  deriving Repr, Inhabited

/-- The nodes of a document by their numbers. An alias is the number of its node, so that nodes
may be shared, and may even contain themselves. -/
abbrev Graph := Array GraphNode

namespace Graph

structure Builder where
  nodes : Graph
  anchors : List (String × Nat)

def name (b : Builder) (anchor : Option String) : Builder :=
  match anchor with
  | none => b
  | some a => { b with anchors := (a, b.nodes.size) :: b.anchors }

def tagOf (written : Option String) (fallback : Tag) : Tag :=
  match written with
  | some t => Tag.ofName t
  | none => fallback

mutual

/-- Adds a tree and gives the number of its node. -/
def add (b : Builder) : Tree → Except Failure (Nat × Builder)
  | .alias a =>
    match b.anchors.find? (·.1 = a) with
    | some (_, n) => .ok (n, b)
    | none => .error malformed
  | .scalar props isOpen text => do
    let named := name b props.anchor
    let tag := tagOf props.tag (if isOpen then Tag.ofText text.given else .str)
    return (b.nodes.size, { named with nodes := named.nodes.push ⟨tag, .scalar text⟩ })
  | .sequence props items => do
    let named := name b props.anchor
    let tag := tagOf props.tag .seq
    let (numbers, b') ← addAll
      { named with nodes := named.nodes.push ⟨tag, .sequence []⟩ } items
    return (b.nodes.size,
      { b' with nodes := b'.nodes.set! b.nodes.size ⟨tag, .sequence numbers⟩ })
  | .mapping props entries => do
    let named := name b props.anchor
    let tag := tagOf props.tag .map
    let (numbers, b') ← addPairs
      { named with nodes := named.nodes.push ⟨tag, .mapping []⟩ } entries
    return (b.nodes.size,
      { b' with nodes := b'.nodes.set! b.nodes.size ⟨tag, .mapping numbers⟩ })

def addAll (b : Builder) : List Tree → Except Failure (List Nat × Builder)
  | [] => .ok ([], b)
  | t :: ts => do
    let (n, b) ← add b t
    let (ns, b) ← addAll b ts
    return (n :: ns, b)

def addPairs (b : Builder) : List (Tree × Tree) → Except Failure (List (Nat × Nat) × Builder)
  | [] => .ok ([], b)
  | (key, value) :: rest => do
    let (k, b) ← add b key
    let (v, b) ← add b value
    let (pairs, b) ← addPairs b rest
    return ((k, v) :: pairs, b)

end

/-- The nodes of a tree, the root first. -/
def ofTree (t : Tree) : Except Failure Graph := do
  let (_, b) ← add ⟨#[], []⟩ t
  return b.nodes

def content? (g : Graph) (n : Nat) : Option Content := (g[n]?).map (·.content)

/-! ## Merging mappings -/

def entries? (g : Graph) (n : Nat) : Option (List (Nat × Nat)) :=
  match g.content? n with
  | some (.mapping entries) => some entries
  | _ => none

def setEntries (g : Graph) (n : Nat) (entries : List (Nat × Nat)) : Graph :=
  g.modify n fun node => { node with content := .mapping entries }

def tag? (g : Graph) (n : Nat) : Option Tag := (g[n]?).map (·.tag)

def isMerge (g : Graph) (entry : Nat × Nat) : Bool := g.tag? entry.1 == some .merge

/-- A default key is an ordinary text in a mapping that is read as such. -/
def settleKey (g : Graph) (entry : Nat × Nat) : Graph :=
  if g.tag? entry.1 = some .default then g.modify entry.1 fun node => { node with tag := .str }
  else g

mutual

/-- Puts the entries of the mappings that a mapping merges in front of its own. Each merge key is
taken out as it is met, which bounds their number by `fuel`. -/
def merge : (fuel : Nat) → (index : Nat) → (merged : List (Nat × Nat)) → Graph → Nat →
    Except Failure Graph
  | fuel, index, merged, g, n => do
    let entries := (g.entries? n).getD []
    let ordinary := (entries.drop index).takeWhile fun e => !g.isMerge e
    let g := ordinary.foldl settleKey g
    let position := index + ordinary.length
    match fuel, entries[position]? with
    | fuel + 1, some (_, value) =>
      let g := g.setEntries n (entries.eraseIdx position)
      let (more, g) ← sources fuel g value
      merge fuel position (merged ++ more) g n
    | _, _ => return if merged.isEmpty then g else g.setEntries n (merged ++ entries)

/-- The entries that the value of a merge key stands for: those of a mapping, or those of several,
the last one first. -/
def sources : (fuel : Nat) → Graph → Nat → Except Failure (List (Nat × Nat) × Graph)
  | fuel, g, value => do
    match fuel, content? g value with
    | fuel + 1, some (.mapping _) =>
      let g ← merge fuel 0 [] g value
      return ((g.entries? value).getD [], g)
    | fuel + 1, some (.sequence items) =>
      items.foldlM (fun (found, g) item => do
        match content? g item with
        | some (.mapping _) =>
          let g ← merge fuel 0 [] g item
          return ((g.entries? item).getD [] ++ found, g)
        | _ => throw malformed) ([], g)
    | _, _ => throw malformed

end

def mergeCount (g : Graph) : Nat :=
  (g.toList.flatMap fun node => match node.content with
    | .mapping entries => entries.filter g.isMerge
    | _ => []).length

def flatten (g : Graph) (n : Nat) : Except Failure Graph := merge (2 * g.mergeCount + 2) 0 [] g n

end Graph

end CloudConf.Yaml
