import CloudConf.Yaml.Scalar
import CloudConf.Yaml.Token

/-! # From characters to tokens -/
namespace CloudConf.Yaml

/-- A place where the tokens of a key may start: the number of tokens before it. -/
structure SimpleKey where
  tokens : Nat
  /-- Whether a value has to follow, as the place is the start of a line of a block. -/
  isRequired : Bool
  index : Nat
  line : Nat
  column : Nat
  deriving Repr

structure Scanner where
  rest : Rest
  /-- The tokens so far, the last one first. -/
  tokens : List Token
  /-- The number of tokens so far. -/
  count : Nat
  /-- The columns of the open blocks, the innermost first. -/
  indents : List Nat
  /-- The possible keys in the open brackets, the innermost first, and outside of them. -/
  keys : List (Option SimpleKey)
  mayStartKey : Bool

namespace Scanner

open Rest

def maxKeyLength : Nat := 1024

def inFlow (s : Scanner) : Bool := s.keys.length > 1

/-- The least column of what belongs to the innermost block. -/
def minColumn (s : Scanner) : Nat :=
  match s.indents with
  | [] => 0
  | n :: _ => n + 1

def push (s : Scanner) (t : Token) : Scanner :=
  { s with tokens := t :: s.tokens, count := s.count + 1 }

/-- Puts tokens where there were only `n` tokens. -/
def insert (s : Scanner) (n : Nat) (ts : List Token) : Scanner :=
  let later := s.count - n
  { s with
    tokens := s.tokens.take later ++ ts.reverse ++ s.tokens.drop later
    count := s.count + ts.length }

def key? (s : Scanner) : Option SimpleKey :=
  match s.keys with
  | k :: _ => k
  | [] => none

def setKey (s : Scanner) (k : Option SimpleKey) : Scanner := { s with keys := k :: s.keys.drop 1 }

/-- Gives up the possible key of the innermost brackets. -/
def dropKey (s : Scanner) : Except Failure Scanner :=
  match s.key? with
  | some k => if k.isRequired then .error malformed else .ok (s.setKey none)
  | none => .ok s

def saveKey (s : Scanner) : Except Failure Scanner :=
  if s.mayStartKey then do
    let dropped ← s.dropKey
    return dropped.setKey (some {
      tokens := s.count
      isRequired := !s.inFlow && s.indents.head? == some s.rest.column
      index := s.rest.index
      line := s.rest.line
      column := s.rest.column })
  else .ok s

def reaches (s : Scanner) (k : SimpleKey) : Bool :=
  k.line == s.rest.line && decide (s.rest.index ≤ k.index + maxKeyLength)

def dropStaleKeys (s : Scanner) : Except Failure Scanner :=
  if s.keys.any fun k => k.any fun k => !s.reaches k && k.isRequired then .error malformed
  else .ok { s with keys := s.keys.map fun k => k.filter s.reaches }

/-- Closes the blocks that are further to the right than a column; all of them for none. -/
def unwind (s : Scanner) (column : Option Nat) : Scanner :=
  if s.inFlow then s
  else
    let isRight (n : Nat) : Bool := match column with
      | none => true
      | some c => decide (c < n)
    let closed := s.indents.takeWhile isRight
    { s with
      tokens := closed.map (fun _ => .blockEnd) ++ s.tokens
      count := s.count + closed.length
      indents := s.indents.dropWhile isRight }

/-- Opens a block at a column unless the innermost one is there already. -/
def openBlock (s : Scanner) (column : Nat) : Option Scanner :=
  if s.minColumn ≤ column then some { s with indents := column :: s.indents } else none

def toNextToken (s : Scanner) : Scanner :=
  let r := if s.rest.index = 0 ∧ s.rest.peek = '\uFEFF' then s.rest.drop 1 else s.rest
  let (crossed, rest) := skipBlank false false r
  { s with rest, mayStartKey := s.mayStartKey || (crossed && !s.inFlow) }

/-! ## One token after the other -/

def emit (s : Scanner) (t : Token) (width : Nat) : Scanner :=
  { s.push t with rest := s.rest.drop width }

def endStream (s : Scanner) : Except Failure Scanner := do
  return (← (s.unwind none).dropKey).push .streamEnd

def takeDirective (s : Scanner) : Except Failure Scanner := do
  let s ← (s.unwind none).dropKey
  let (t, rest) ← Token.directive (s.rest.drop 1)
  return { s.push t with rest := rest, mayStartKey := false }

def takeDocumentMark (s : Scanner) (t : Token) : Except Failure Scanner := do
  let s ← (s.unwind none).dropKey
  return { s.emit t 3 with mayStartKey := false }

def openFlow (s : Scanner) (t : Token) : Except Failure Scanner := do
  let s ← s.saveKey
  return { s.emit t 1 with keys := none :: s.keys, mayStartKey := true }

def closeFlow (s : Scanner) (t : Token) : Except Failure Scanner := do
  let s ← s.dropKey
  if s.inFlow then return { s.emit t 1 with keys := s.keys.drop 1, mayStartKey := false }
  else throw malformed

def takeFlowEntry (s : Scanner) : Except Failure Scanner := do
  let s ← s.dropKey
  return { s.emit .flowEntry 1 with mayStartKey := true }

/-- Opens a block for an entry or a key that starts here, where one may start. -/
def enterBlock (s : Scanner) (start : Token) : Except Failure Scanner :=
  if s.inFlow then .ok s
  else if s.mayStartKey then
    .ok (match s.openBlock s.rest.column with
      | some s' => s'.push start
      | none => s)
  else .error malformed

def takeBlockEntry (s : Scanner) : Except Failure Scanner := do
  let s ← s.enterBlock .blockSequenceStart
  let s ← s.dropKey
  return { s.emit .blockEntry 1 with mayStartKey := true }

def takeKey (s : Scanner) : Except Failure Scanner := do
  let s ← s.enterBlock .blockMappingStart
  let s ← s.dropKey
  return { s.emit .key 1 with mayStartKey := !s.inFlow }

def takeValue (s : Scanner) : Except Failure Scanner :=
  match s.key? with
  | some k =>
    let s := s.setKey none
    let keyed := match if s.inFlow then none else s.openBlock k.column with
      | some s' => s'.insert k.tokens [.blockMappingStart, .key]
      | none => s.insert k.tokens [.key]
    .ok { keyed.emit .value 1 with mayStartKey := false }
  | none => do
    let s ← s.enterBlock .blockMappingStart
    let s ← s.dropKey
    return { s.emit .value 1 with mayStartKey := !s.inFlow }

/-- Takes what may be, or be part of, a key. -/
def takeContent (s : Scanner) (content : Rest → Except Failure (Token × Rest)) :
    Except Failure Scanner := do
  let s ← s.saveKey
  let (t, rest) ← content s.rest
  return { s.push t with rest := rest, mayStartKey := false }

def takePlain (s : Scanner) : Except Failure Scanner := do
  let s ← s.saveKey
  let (text, crossed, rest) := Scalar.plain s.inFlow s.minColumn s.rest
  return { s.push (.scalar true (.ofList text)) with rest := rest, mayStartKey := crossed }

def takeBlockScalar (s : Scanner) (folded : Bool) : Except Failure Scanner := do
  let s ← s.dropKey
  let (text, rest) ← Scalar.block folded (max 1 s.minColumn) (s.rest.drop 1)
  return { s.push (.scalar false (.ofList text)) with rest := rest, mayStartKey := true }

def takeQuoted (s : Scanner) (double : Bool) : Except Failure Scanner :=
  s.takeContent fun r => do
    let (text, rest) ← Scalar.quoted double r.length (r.drop 1)
    return (.scalar false ⟨text⟩, rest)

/-- Characters that start no plain scalar, at least not on their own. -/
def indicators : List Char :=
  ['-', '?', ':', ',', '[', ']', '\x7b', '\x7d', '#', '&', '*', '!', '|', '>', '\x27', '"', '%',
    '@', '\x60']

def startsPlain (s : Scanner) : Bool :=
  let c := s.rest.peek
  !(isBlankOrEnd c || indicators.contains c) ||
    (!isBlankOrEnd (s.rest.peekAt 1) && (c == '-' || (!s.inFlow && (c == '?' || c == ':'))))

def standsAlone (s : Scanner) : Bool := isBlankOrEnd (s.rest.peekAt 1)

def takeToken (s : Scanner) : Except Failure Scanner :=
  let atLineStart := s.rest.column == 0
  match s.rest.peek with
  | '\x00' => s.endStream
  | '[' => s.openFlow .flowSequenceStart
  | '\x7b' => s.openFlow .flowMappingStart
  | ']' => s.closeFlow .flowSequenceEnd
  | '\x7d' => s.closeFlow .flowMappingEnd
  | ',' => s.takeFlowEntry
  | '*' => s.takeContent fun r => do
    let (n, rest) ← Token.anchorName (r.drop 1)
    return (.alias n, rest)
  | '&' => s.takeContent fun r => do
    let (n, rest) ← Token.anchorName (r.drop 1)
    return (.anchor n, rest)
  | '!' => s.takeContent fun r => do
    let (n, rest) ← Token.tagName r
    return (.tag n, rest)
  | '\x27' => s.takeQuoted false
  | '"' => s.takeQuoted true
  | c =>
    if c = '%' ∧ atLineStart then s.takeDirective
    else if atLineStart && s.rest.startsWithMark '-' then s.takeDocumentMark .documentStart
    else if atLineStart && s.rest.startsWithMark '.' then s.takeDocumentMark .documentEnd
    else if c = '-' ∧ s.standsAlone then s.takeBlockEntry
    else if c = '?' ∧ (s.inFlow ∨ s.standsAlone) then s.takeKey
    else if c = ':' ∧ (s.inFlow ∨ s.standsAlone) then s.takeValue
    else if c = '|' ∧ !s.inFlow then s.takeBlockScalar false
    else if c = '>' ∧ !s.inFlow then s.takeBlockScalar true
    else if s.startsPlain then s.takePlain
    else .error s.rest.fault

/-- Goes on behind the next token. What follows it has to be known by then. -/
def step (s : Scanner) : Except Failure Scanner := do
  let s := s.toNextToken
  s.rest.known
  let s ← s.dropStaleKeys
  let s ← (s.unwind (some s.rest.column)).takeToken
  s.rest.known
  return s

/-- How many tokens are final, as no key can start in front of them any more. -/
def settled (s : Scanner) : Nat :=
  let waiting := s.keys.filterMap fun k => (k.filter s.reaches).map (·.tokens)
  waiting.foldl min s.count

/-- All tokens from here on. The last one ends the stream, or tells why it cannot be read on, which
comes before tokens that are not final. -/
def run : (fuel : Nat) → Scanner → List Token
  | 0, s => s.tokens.reverse ++ [.broken malformed]
  | fuel + 1, s =>
    match s.step with
    | .error f => s.tokens.reverse.take s.settled ++ [.broken f]
    | .ok s' => if s'.tokens.head? = some .streamEnd then s'.tokens.reverse else run fuel s'

end Scanner

def tokens (r : Rest) : List Token := Scanner.run (r.length + 1) ⟨r, [], 0, [], [none], true⟩

end CloudConf.Yaml
