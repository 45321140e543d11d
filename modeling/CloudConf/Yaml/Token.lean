import CloudConf.Text.Numeral
import CloudConf.Text.Wide
import CloudConf.Yaml.Source

/-! # Tokens of a YAML stream -/
namespace CloudConf.Yaml

/-- The written form of a tag: a handle, unless the tag is written in full, and a suffix. -/
structure TagName where
  handle : Option String
  suffix : String
  deriving DecidableEq, Repr, Inhabited

inductive Token where
  | version (major : Nat)
  | tagHandle (handle expansion : String)
  | otherDirective
  | documentStart | documentEnd
  | blockSequenceStart | blockMappingStart | blockEnd
  | flowSequenceStart | flowSequenceEnd | flowMappingStart | flowMappingEnd
  | blockEntry | flowEntry | key | value
  | alias (name : String)
  | anchor (name : String)
  | tag (name : TagName)
  | scalar (plain : Bool) (text : WideText)
  | streamEnd
  /-- Where a stream cannot be read on. -/
  | broken (why : Failure)
  deriving DecidableEq, Repr, Inhabited

namespace Token

open Rest

def isNameChar (c : Char) : Bool := c.isAlphanum || c == '-' || c == '_'

def isUriChar (c : Char) : Bool :=
  c.isAlphanum || [
    '-', ';', '/', '?', ':', '@', '&', '=', '+', '$', ',', '_', '.', '!', '~', '*', '\x27', '(',
    ')', '[', ']'].contains c

def name (r : Rest) : Except Failure (String × Rest) :=
  match spanChars isNameChar r with
  | ([], rest) => .error (fault rest)
  | (cs, rest) => .ok (String.ofList cs, rest)

/-- The name of an anchor or alias, behind its indicator. -/
def anchorName (r : Rest) : Except Failure (String × Rest) := do
  let (n, rest) ← name r
  let next := peek rest
  if isBlankOrEnd next || ['?', ':', ',', ']', '\x7d', '%', '@', '\x60'].contains next then
    return (n, rest)
  else throw (fault rest)

/-- The bytes of a run of percent escapes. -/
def percentBytes : Rest → Except Failure (List UInt8 × Rest)
  | c :: a :: b :: rest =>
    if c.char ≠ '%' then .ok ([], c :: a :: b :: rest)
    else match Text.hexNumber? [a.char, b.char] with
      | some n => do
        let (bytes, after) ← percentBytes rest
        return (UInt8.ofNat n :: bytes, after)
      | none => .error (noDigit (a :: b :: rest))
  | r => if peek r = '%' then .error (noDigit (r.drop 1)) else .ok ([], r)

/-- A part of a URI. Its percent escapes have to be UTF-8. -/
def uriFrom : (fuel : Nat) → Rest → Except Failure (List Char × Rest)
  | 0, r => .ok ([], r)
  | fuel + 1, r =>
    if peek r = '%' then do
      let (bytes, rest) ← percentBytes r
      match String.fromUTF8? ⟨bytes.toArray⟩ with
      | some s => do
        let (cs, after) ← uriFrom fuel rest
        return (s.toList ++ cs, after)
      | none => throw (fault rest)
    else match spanChars isUriChar r with
      | ([], _) => .ok ([], r)
      | (cs, rest) => do
        let (more, after) ← uriFrom fuel rest
        return (cs ++ more, after)

def uri (r : Rest) : Except Failure (String × Rest) := do
  if peek r != '%' && !isUriChar (peek r) then throw (fault r)
  let (cs, rest) ← uriFrom r.length r
  return (String.ofList cs, rest)

/-- A handle: one exclamation mark, or a name between two. -/
def handle : Rest → Except Failure (String × Rest)
  | [] => .error malformed
  | first :: rest =>
    if first.char ≠ '!' then .error (fault (first :: rest))
    else if peek rest = ' ' then .ok ("!", rest)
    else
      let (cs, after) := spanChars isNameChar rest
      if peek after = '!' then .ok (String.ofList ('!' :: cs ++ ['!']), after.drop 1)
      else .error (fault after)

/-- A tag, from its first exclamation mark. -/
def tagName (r : Rest) : Except Failure (TagName × Rest) := do
  let body := r.drop 1
  let (found, rest) ←
    if peek body = '<' then do
      let (suffix, rest) ← uri (body.drop 1)
      if peek rest ≠ '>' then throw (fault rest)
      pure (TagName.mk none suffix, rest.drop 1)
    else if isBlankOrEnd (peek body) then pure (TagName.mk none "!", body)
    else do
      let (word, after) := spanChars (fun c => !isSpaceOrEnd c) body
      if word.contains '!' then
        let (h, rest) ← handle r
        let (suffix, rest) ← uri rest
        pure (TagName.mk (some h) suffix, rest)
      else
        known after
        let (suffix, rest) ← uri body
        pure (TagName.mk (some "!") suffix, rest)
  if isSpaceOrEnd (peek rest) then return (found, rest) else throw (fault rest)

def number (r : Rest) : Except Failure (Nat × Rest) :=
  match spanChars Text.isDigit r with
  | ([], rest) => .error (fault rest)
  | (ds, rest) => do
    known rest
    return (← Text.decimal ds, rest)

/-- A directive, behind its percent sign, to the end of its line. -/
def directive (r : Rest) : Except Failure (Token × Rest) := do
  let (n, rest) ← name r
  if !isSpaceOrEnd (peek rest) then throw (fault rest)
  let (token, rest) ←
    if n = "YAML" then do
      let (major, rest) ← number (skipSpaces rest)
      if peek rest ≠ '.' then throw (fault rest)
      let (_, rest) ← number (rest.drop 1)
      if !isSpaceOrEnd (peek rest) then throw (fault rest)
      pure (version major, rest)
    else if n = "TAG" then do
      let (h, rest) ← handle (skipSpaces rest)
      if peek rest ≠ ' ' then throw (fault rest)
      let (expansion, rest) ← uri (skipSpaces rest)
      if !isSpaceOrEnd (peek rest) then throw (fault rest)
      pure (tagHandle h expansion, rest)
    else pure (otherDirective, (spanChars (fun c => !isBreakOrEnd c) rest).2)
  return (token, ← finishLine rest)

end Token

end CloudConf.Yaml
