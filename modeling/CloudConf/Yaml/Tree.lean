import CloudConf.Yaml.Token

/-! # From tokens to the tree that a document is written as -/
namespace CloudConf.Yaml

/-- What may be written before a node: a name for it, and the full name of its tag. A node whose
tag is left to its content has none. -/
structure Properties where
  anchor : Option String
  tag : Option String
  deriving Repr, Inhabited

inductive Tree where
  | alias (name : String)
  /-- The tag of an open scalar is left to its text, unless it is written. -/
  | scalar (props : Properties) (isOpen : Bool) (text : WideText)
  | sequence (props : Properties) (items : List Tree)
  | mapping (props : Properties) (entries : List (Tree × Tree))
  deriving Repr, Inhabited

namespace Tree

def empty : Tree := .scalar ⟨none, none⟩ true ⟨[]⟩

abbrev Handles := List (String × String)

def defaultHandles : Handles := [("!", "!"), ("!!", "tag:yaml.org,2002:")]

def expand? (handles : Handles) (handle : String) : Option String :=
  (handles.find? (·.1 = handle)).map (·.2)

def fullTag (handles : Handles) (t : TagName) : Except Failure String :=
  match t.handle with
  | none => .ok t.suffix
  | some h =>
    match expand? handles h with
    | some expansion => .ok (expansion ++ t.suffix)
    | none => .error malformed

/-- What is left to be read of a document: tokens, and the names that nodes have so far. -/
structure Unread where
  tokens : List Token
  names : List String

namespace Unread

/-- The next token, unless the stream is broken there. -/
def next (u : Unread) : Except Failure Token :=
  match u.tokens with
  | [] => .error malformed
  | .broken f :: _ => .error f
  | t :: _ => .ok t

def skip (u : Unread) : Unread := { u with tokens := u.tokens.drop 1 }

/-- Gives a name to a node. No name may be given twice. -/
def declare (u : Unread) (name : Option String) : Except Failure Unread :=
  match name with
  | none => .ok u
  | some a => if u.names.contains a then .error malformed else .ok { u with names := a :: u.names }

end Unread

/-- The properties in front of a node: a tag and an anchor, each at most once. -/
def properties (handles : Handles) (u : Unread) :
    Except Failure (Option String × Option String × Unread) := do
  match ← u.next with
  | .anchor a =>
    match ← u.skip.next with
    | .tag t => return (some a, some (← fullTag handles t), u.skip.skip)
    | _ => return (some a, none, u.skip)
  | .tag t =>
    match ← u.skip.next with
    | .anchor a => return (some a, some (← fullTag handles t), u.skip.skip)
    | _ => return (none, some (← fullTag handles t), u.skip)
  | _ => return (none, none, u)

inductive Site where
  | flow
  | block
  /-- In a block mapping, where the entries of a sequence need no further indentation. -/
  | blockValue
  deriving DecidableEq, Repr

def Site.isBlock : Site → Bool
  | .flow => false
  | .block | .blockValue => true

/-- A node without content, which has to have properties. -/
def bare (anchor written : Option String) (u : Unread) : Except Failure (Tree × Unread) :=
  if anchor.isSome || written.isSome then
    let isOpen := written.all (· = "!")
    .ok (.scalar ⟨anchor, if isOpen then none else written⟩ isOpen ⟨[]⟩, u)
  else .error malformed

/-- Leaves out the comma in front of an item that is not the first. -/
def separated (isFirst : Bool) (u : Unread) : Except Failure Unread := do
  if isFirst then return u
  match ← u.next with
  | .flowEntry => return u.skip
  | _ => throw malformed

mutual

/-- A node and what follows it. An alias stands for a node that has its name already. -/
def node (handles : Handles) : (fuel : Nat) → Site → Unread → Except Failure (Tree × Unread)
  | 0, _, _ => .error malformed
  | fuel + 1, site, u => do
    if let .alias name ← u.next then
      if u.names.contains name then return (.alias name, u.skip) else throw malformed
    let (anchor, written, u) ← properties handles u
    let props : Properties := ⟨anchor, if written = some "!" then none else written⟩
    let first ← u.next
    let u ← u.declare anchor
    match first with
    | .blockEntry =>
      if site = .blockValue then
        let (items, u) ← looseEntries handles fuel u
        return (.sequence props items, u)
      else bare anchor written u
    | .scalar plain text =>
      return (.scalar props ((plain && written.isNone) || written = some "!") text, u.skip)
    | .flowSequenceStart =>
      let (items, u) ← flowItems handles fuel true u.skip
      return (.sequence props items, u)
    | .flowMappingStart =>
      let (entries, u) ← flowEntries handles fuel true u.skip
      return (.mapping props entries, u)
    | .blockSequenceStart =>
      if site.isBlock then
        let (items, u) ← blockEntries handles fuel u.skip
        return (.sequence props items, u)
      else bare anchor written u
    | .blockMappingStart =>
      if site.isBlock then
        let (entries, u) ← blockPairs handles fuel u.skip
        return (.mapping props entries, u)
      else bare anchor written u
    | _ => bare anchor written u

def blockEntries (handles : Handles) : (fuel : Nat) → Unread → Except Failure (List Tree × Unread)
  | 0, _ => .error malformed
  | fuel + 1, u => do
    match ← u.next with
    | .blockEntry =>
      let (item, u) ← match ← u.skip.next with
        | .blockEntry | .blockEnd => pure (empty, u.skip)
        | _ => node handles fuel .block u.skip
      let (items, u) ← blockEntries handles fuel u
      return (item :: items, u)
    | .blockEnd => return ([], u.skip)
    | _ => throw malformed

/-- The entries of a block sequence that is not indented in its mapping. -/
def looseEntries (handles : Handles) : (fuel : Nat) → Unread → Except Failure (List Tree × Unread)
  | 0, _ => .error malformed
  | fuel + 1, u => do
    match ← u.next with
    | .blockEntry =>
      let (item, u) ← match ← u.skip.next with
        | .blockEntry | .key | .value | .blockEnd => pure (empty, u.skip)
        | _ => node handles fuel .block u.skip
      let (items, u) ← looseEntries handles fuel u
      return (item :: items, u)
    | _ => return ([], u)

def blockPairs (handles : Handles) :
    (fuel : Nat) → Unread → Except Failure (List (Tree × Tree) × Unread)
  | 0, _ => .error malformed
  | fuel + 1, u => do
    match ← u.next with
    | .key =>
      let (key, u) ← blockSide handles fuel u.skip
      let (value, u) ← match ← u.next with
        | .value => blockSide handles fuel u.skip
        | _ => pure (empty, u)
      let (pairs, u) ← blockPairs handles fuel u
      return ((key, value) :: pairs, u)
    | .blockEnd => return ([], u.skip)
    | _ => throw malformed

def blockSide (handles : Handles) : (fuel : Nat) → Unread → Except Failure (Tree × Unread)
  | 0, _ => .error malformed
  | fuel + 1, u => do
    match ← u.next with
    | .key | .value | .blockEnd => return (empty, u)
    | _ => node handles fuel .blockValue u

def flowItems (handles : Handles) :
    (fuel : Nat) → (isFirst : Bool) → Unread → Except Failure (List Tree × Unread)
  | 0, _, _ => .error malformed
  | fuel + 1, isFirst, u => do
    if let .flowSequenceEnd ← u.next then return ([], u.skip)
    let u ← separated isFirst u
    match ← u.next with
    | .flowSequenceEnd => return ([], u.skip)
    | .key =>
      let (key, u) ← match ← u.skip.next with
        | .value | .flowEntry | .flowSequenceEnd => pure (empty, u.skip)
        | _ => node handles fuel .flow u.skip
      let (value, u) ← flowValue handles fuel u
      let (items, u) ← flowItems handles fuel false u
      return (.mapping ⟨none, none⟩ [(key, value)] :: items, u)
    | _ =>
      let (item, u) ← node handles fuel .flow u
      let (items, u) ← flowItems handles fuel false u
      return (item :: items, u)

def flowEntries (handles : Handles) :
    (fuel : Nat) → (isFirst : Bool) → Unread → Except Failure (List (Tree × Tree) × Unread)
  | 0, _, _ => .error malformed
  | fuel + 1, isFirst, u => do
    if let .flowMappingEnd ← u.next then return ([], u.skip)
    let u ← separated isFirst u
    match ← u.next with
    | .flowMappingEnd => return ([], u.skip)
    | .key =>
      let (key, u) ← match ← u.skip.next with
        | .value | .flowEntry | .flowMappingEnd => pure (empty, u.skip)
        | _ => node handles fuel .flow u.skip
      let (value, u) ← flowValue handles fuel u
      let (entries, u) ← flowEntries handles fuel false u
      return ((key, value) :: entries, u)
    | _ =>
      let (key, u) ← node handles fuel .flow u
      let (entries, u) ← flowEntries handles fuel false u
      return ((key, empty) :: entries, u)

/-- The value of a pair inside brackets, if it has one. -/
def flowValue (handles : Handles) : (fuel : Nat) → Unread → Except Failure (Tree × Unread)
  | 0, _ => .error malformed
  | fuel + 1, u => do
    match ← u.next with
    | .value =>
      match ← u.skip.next with
      | .flowEntry | .flowSequenceEnd | .flowMappingEnd => return (empty, u.skip)
      | _ => node handles fuel .flow u.skip
    | _ => return (empty, u)

end

/-- The handles that the directives in front of a document declare. -/
def directives : (versioned : Bool) → Handles → List Token → Except Failure (Handles × List Token)
  | versioned, handles, .version major :: ts =>
    if versioned ∨ major ≠ 1 then .error malformed else directives true handles ts
  | versioned, handles, .tagHandle h expansion :: ts =>
    if (expand? handles h).isSome then .error malformed
    else directives versioned ((h, expansion) :: handles) ts
  | versioned, handles, .otherDirective :: ts => directives versioned handles ts
  | _, handles, ts => .ok (handles ++ defaultHandles, ts)

/-- No more than the end of the stream may follow a document. A further one is looked at up to its
start. -/
def atEnd (u : Unread) : Except Failure Unit := do
  let ts := u.tokens.dropWhile (· = .documentEnd)
  match ← { u with tokens := ts }.next with
  | .streamEnd => return
  | _ =>
    let (_, ts) ← directives false [] ts
    let _ ← { u with tokens := ts }.next
    throw malformed

/-- The content of a document that is started by a mark. -/
def content (handles : Handles) (u : Unread) : Except Failure (Tree × Unread) := do
  match ← u.next with
  | .version _ | .tagHandle _ _ | .otherDirective | .documentStart | .documentEnd | .streamEnd =>
    return (empty, u)
  | _ => node handles (4 * u.tokens.length) .block u

/-- The one document of a stream, unless the stream is empty. -/
def ofTokens (ts : List Token) : Except Failure (Option Tree) := do
  let u : Unread := ⟨ts, []⟩
  match ← u.next with
  | .streamEnd => return none
  | .version _ | .tagHandle _ _ | .otherDirective | .documentStart =>
    let (handles, ts) ← directives false [] ts
    let u := { u with tokens := ts }
    match ← u.next with
    | .documentStart =>
      let (tree, u) ← content handles u.skip
      atEnd u
      return some tree
    | _ => throw malformed
  | _ =>
    let (tree, u) ← node defaultHandles (4 * ts.length) .block u
    atEnd u
    return some tree

end Tree

end CloudConf.Yaml
