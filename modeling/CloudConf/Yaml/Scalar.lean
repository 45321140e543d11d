import CloudConf.Text.Wide
import CloudConf.Yaml.Source

/-! # The text of scalars -/
namespace CloudConf.Yaml.Scalar

open Rest

/-- Line breaks within a scalar: a single one becomes a space, the first of several is left out. -/
def fold (first : Char) (more : List Char) : List Char :=
  (if first ≠ '\n' then [first] else if more.isEmpty then [' '] else []) ++ more

/-! ## Plain scalars -/

def isFlowIndicator (c : Char) : Bool :=
  c == ',' || c == '[' || c == ']' || c == '\x7b' || c == '\x7d'

def endsPlain (inFlow : Bool) (c next : Char) : Bool :=
  isBlankOrEnd c || (c == ':' && (isBlankOrEnd next || (inFlow && isFlowIndicator next))) ||
    (inFlow && (c == '?' || isFlowIndicator c))

def plainWord (inFlow : Bool) : Rest → List Char × Rest
  | [] => ([], [])
  | c :: rest =>
    if endsPlain inFlow c.char (peek rest) then ([], c :: rest)
    else
      let (word, after) := plainWord inFlow rest
      (c.char :: word, after)

/-- The breaks of empty lines, unless a document mark is met. -/
def emptyLines : Rest → Option (List Char) × Rest
  | [] => (some [], [])
  | c :: rest =>
    if c.char = ' ' then emptyLines rest
    else if isBreak c.char then
      if atDocumentMark rest then (none, rest)
      else
        let (breaks, after) := emptyLines rest
        (breaks.map (c.char :: ·), after)
    else (some [], c :: rest)

/-- What lies between two words of a plain scalar; empty if the scalar ends. -/
structure Gap where
  text : List Char
  crossesLines : Bool
  rest : Rest

def plainGap (r : Rest) : Gap :=
  match spanChars (· == ' ') r with
  | (spaces, []) => ⟨spaces, false, []⟩
  | (spaces, c :: rest) =>
    if isBreak c.char then
      if atDocumentMark rest then ⟨[], true, rest⟩
      else match emptyLines rest with
        | (none, after) => ⟨[], true, after⟩
        | (some breaks, after) => ⟨fold c.char breaks, true, after⟩
    else ⟨spaces, false, c :: rest⟩

/-- A plain scalar whose further lines start at `minColumn` at least: its text, whether it ends
behind a line break, and what follows. `gap` is what precedes the next word. -/
def plainFrom (inFlow : Bool) (minColumn : Nat) :
    (fuel : Nat) → (gap : Gap) → List Char × Bool × Rest
  | 0, gap => ([], gap.crossesLines, gap.rest)
  | fuel + 1, gap =>
    if peek gap.rest = '#' then ([], gap.crossesLines, gap.rest)
    else match plainWord inFlow gap.rest with
      | ([], _) => ([], gap.crossesLines, gap.rest)
      | (word, after) =>
        let next := plainGap after
        if next.text.isEmpty || peek next.rest == '#' ||
            (!inFlow && decide (column next.rest < minColumn)) then
          (gap.text ++ word, next.crossesLines, next.rest)
        else
          let (text, crossed, rest) := plainFrom inFlow minColumn fuel next
          (gap.text ++ word ++ text, crossed, rest)

def plain (inFlow : Bool) (minColumn : Nat) (r : Rest) : List Char × Bool × Rest :=
  plainFrom inFlow minColumn r.length ⟨[], false, r⟩

/-! ## Quoted scalars -/

def escape? : Char → Option Char
  | '0' => some '\x00'
  | 'a' => some '\x07'
  | 'b' => some '\x08'
  | 't' | '\t' => some '\t'
  | 'n' => some '\n'
  | 'v' => some '\x0b'
  | 'f' => some '\x0c'
  | 'r' => some '\r'
  | 'e' => some '\x1b'
  | ' ' => some ' '
  | '"' => some '"'
  | '\\' => some '\\'
  | '/' => some '/'
  | 'N' => some '\x85'
  | '_' => some '\xa0'
  | 'L' => some '\u2028'
  | 'P' => some '\u2029'
  | _ => none

/-- How many hexadecimal digits follow a letter that starts a numeric escape. -/
def escapeWidth? : Char → Option Nat
  | 'x' => some 2
  | 'u' => some 4
  | 'U' => some 8
  | _ => none

def numbered (n : Nat) : Except Failure CodePoint :=
  if n < 0x110000 then
    if h : 0xD800 ≤ n ∧ n < 0xE000 then .ok (.surrogate ⟨n, h⟩) else .ok (.char (Char.ofNat n))
  else if n < 0x80000000 then .error (.alone (.plain .value) "chr() arg not in range(0x110000)")
  else .error (.alone (.plain .overflow) "Python int too large to convert to C int")

/-- A numeric escape whose letter asks for `width` digits. -/
def numericEscape (width : Nat) (r : Rest) : Except Failure (CodePoint × Rest) :=
  match Text.hexNumber? ((r.take width).map (·.char)) with
  | some n => do return (← numbered n, r.drop width)
  | none => .error (noDigit r)

/-- The breaks of empty lines inside quotes. No line may be a document mark. -/
def quotedLines (atLineStart : Bool) : Rest → Except Failure (List Char × Rest)
  | [] => .ok ([], [])
  | c :: rest =>
    if atLineStart && atDocumentMark (c :: rest) then .error (fault (rest.drop 2))
    else if c.char = ' ' ∨ c.char = '\t' then quotedLines false rest
    else if isBreak c.char then do
      let (breaks, after) ← quotedLines true rest
      return (c.char :: breaks, after)
    else .ok ([], c :: rest)

/-- Blanks and line breaks inside quotes. -/
def quotedGap (r : Rest) : Except Failure (List Char × Rest) :=
  match spanChars (fun c => c == ' ' || c == '\t') r with
  | (blanks, []) => .ok (blanks, [])
  | (blanks, c :: rest) =>
    if isBreak c.char then do
      let (breaks, after) ← quotedLines true rest
      return (fold c.char breaks, after)
    else .ok (blanks, c :: rest)

def escaped : Rest → Except Failure (List CodePoint × Rest)
  | [] => .error malformed
  | c :: rest =>
    match escape? c.char, escapeWidth? c.char with
    | some e, _ => .ok ([.char e], rest)
    | none, some width => do
      let (p, after) ← numericEscape width rest
      return ([p], after)
    | none, none =>
      if isBreak c.char then do
        let (breaks, after) ← quotedLines true rest
        return (breaks.map .char, after)
      else .error (fault (c :: rest))

/-- The text up to the closing quote, and what follows it. -/
def quoted (double : Bool) : (fuel : Nat) → Rest → Except Failure (List CodePoint × Rest)
  | 0, _ | _, [] => .error malformed
  | fuel + 1, c :: rest =>
    if c.char = '\x00' then .error (fault (c :: rest))
    else if c.char = (if double then '"' else '\x27') then
      if !double && peek rest == '\x27' then do
        let (text, after) ← quoted double fuel (rest.drop 1)
        return (.char '\x27' :: text, after)
      else .ok ([], rest)
    else if c.char = ' ' ∨ c.char = '\t' ∨ isBreak c.char then do
      let (gap, next) ← quotedGap (c :: rest)
      let (text, after) ← quoted double fuel next
      return (gap.map .char ++ text, after)
    else if double && c.char == '\\' then do
      let (part, next) ← escaped rest
      let (text, after) ← quoted double fuel next
      return (part ++ text, after)
    else do
      let (text, after) ← quoted double fuel rest
      return (.char c.char :: text, after)

/-! ## Block scalars -/

/-- What happens to the line breaks at the end of a block scalar. -/
inductive Chomping where
  | strip | clip | keep
  deriving DecidableEq, Repr

structure BlockHeader where
  chomping : Chomping
  increment : Option Nat
  rest : Rest

def chomping? : Char → Option Chomping
  | '+' => some .keep
  | '-' => some .strip
  | _ => none

def increment? (c : Char) : Option Nat :=
  if '0'.toNat ≤ c.toNat ∧ c.toNat ≤ '9'.toNat then some (c.toNat - '0'.toNat) else none

/-- The indicators behind the one that starts a block scalar, in either order. -/
def blockHeader (r : Rest) : Except Failure BlockHeader :=
  let h : BlockHeader := match chomping? (peek r) with
    | some ch =>
      let r := r.drop 1
      match increment? (peek r) with
      | some i => ⟨ch, some i, r.drop 1⟩
      | none => ⟨ch, none, r⟩
    | none =>
      match increment? (peek r) with
      | some i =>
        let r := r.drop 1
        match chomping? (peek r) with
        | some ch => ⟨ch, some i, r.drop 1⟩
        | none => ⟨.clip, some i, r⟩
      | none => ⟨.clip, none, r⟩
  if h.increment = some 0 ∨ !isSpaceOrEnd (peek h.rest) then .error (fault h.rest) else .ok h

/-- The breaks of the leading empty lines and the greatest column that their spaces reach. -/
def leadingLines (reached : Nat) : Rest → List Char × Nat × Rest
  | [] => ([], reached, [])
  | c :: rest =>
    if c.char = ' ' then leadingLines (max reached (column rest)) rest
    else if isBreak c.char then
      let (breaks, reached, after) := leadingLines reached rest
      (c.char :: breaks, reached, after)
    else ([], reached, c :: rest)

/-- The breaks of empty lines, and the indentation of the line after them. -/
def blockGap (indent : Nat) : Rest → List Char × Rest
  | [] => ([], [])
  | c :: rest =>
    if c.char = ' ' ∧ c.column < indent then blockGap indent rest
    else if isBreak c.char then
      let (breaks, after) := blockGap indent rest
      (c.char :: breaks, after)
    else ([], c :: rest)

def isBlank (c : Char) : Bool := c == ' ' || c == '\t'

structure BlockBody where
  text : List Char
  /-- The break that ends the last line, if it ends in one. -/
  lastBreak : List Char
  /-- The breaks of the empty lines that follow. -/
  trailing : List Char
  rest : Rest

/-- The lines at an indentation; `breaks` are those of the empty lines before. -/
def blockLines (folded : Bool) (indent : Nat) :
    (fuel : Nat) → (breaks : List Char) → Rest → BlockBody
  | 0, breaks, r => ⟨[], [], breaks, r⟩
  | fuel + 1, breaks, r =>
    if column r = indent ∧ peek r ≠ '\x00' then
      let startsBlank := isBlank (peek r)
      let (line, atBreak) := spanChars (fun c => !isBreakOrEnd c) r
      let lineBreak := if isBreak (peek atBreak) then [peek atBreak] else []
      let (more, next) := blockGap indent (skipBreak atBreak)
      if column next = indent ∧ peek next ≠ '\x00' then
        let joint :=
          if folded ∧ lineBreak = ['\n'] ∧ !startsBlank ∧ !isBlank (peek next) then
            if more.isEmpty then [' '] else []
          else lineBreak
        let body := blockLines folded indent fuel more next
        { body with text := breaks ++ line ++ joint ++ body.text }
      else ⟨breaks ++ line, lineBreak, more, next⟩
    else ⟨[], [], breaks, r⟩

/-- A block scalar behind its first indicator. `minIndent` is the least indentation of its lines. -/
def block (folded : Bool) (minIndent : Nat) (r : Rest) : Except Failure (List Char × Rest) := do
  let header ← blockHeader r
  let r ← finishLine header.rest
  let (breaks, indent, r) := match header.increment with
    | none =>
      let (breaks, reached, r) := leadingLines 0 r
      (breaks, max minIndent reached, r)
    | some i =>
      let indent := minIndent + i - 1
      let (breaks, r) := blockGap indent r
      (breaks, indent, r)
  let body := blockLines folded indent r.length breaks r
  let ending := match header.chomping with
    | .strip => []
    | .clip => body.lastBreak
    | .keep => body.lastBreak ++ body.trailing
  return (body.text ++ ending, body.rest)

end CloudConf.Yaml.Scalar
