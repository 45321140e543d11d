import CloudConf.Text.Hex
import CloudConf.Yaml.Stream

/-! # The characters of a YAML stream and where they stand -/
namespace CloudConf.Yaml

structure Cell where
  char : Char
  index : Nat
  line : Nat
  column : Nat
  /-- Why the stream breaks off here, if it does. -/
  fault : Option Failure
  deriving Repr, Inhabited

/-- What is left of a stream. Where it ends or breaks off there is a NUL, which no stream may
hold. -/
abbrev Rest := List Cell

def isBreak (c : Char) : Bool := c == '\n' || c == '\u2028' || c == '\u2029'

def isBreakOrEnd (c : Char) : Bool := c == '\x00' || isBreak c

def isSpaceOrEnd (c : Char) : Bool := c == ' ' || isBreakOrEnd c

def isBlankOrEnd (c : Char) : Bool := c == '\t' || isSpaceOrEnd c

/-- Writes every line break in the same way, except for the line and the paragraph separator. -/
def unifyBreaks : List Char → List Char
  | [] => []
  | '\r' :: '\n' :: rest => '\n' :: unifyBreaks rest
  | c :: rest => (if c = '\r' ∨ c = '\x85' then '\n' else c) :: unifyBreaks rest

/-- Counts lines and columns. A byte order mark takes no column. -/
def cellsFrom (fault : Option Failure) (index line column : Nat) : List Char → Rest
  | [] => [⟨'\x00', index, line, column, fault⟩]
  | c :: rest =>
    ⟨c, index, line, column, none⟩ ::
      if isBreak c then cellsFrom fault (index + 1) (line + 1) 0 rest
      else
        cellsFrom fault (index + 1) line (if c = '\uFEFF' then column else column + 1) rest

def cells (s : Stream) : Rest :=
  let cs := s.text.toList
  match s.limit? with
  | none => cellsFrom none 0 0 0 (unifyBreaks cs)
  | some (n, f) => cellsFrom (some f) 0 0 0 (unifyBreaks (cs.take n))

namespace Rest

def peek : Rest → Char
  | [] => '\x00'
  | c :: _ => c.char

def peekAt (k : Nat) (r : Rest) : Char := peek (r.drop k)

def column : Rest → Nat
  | [] => 0
  | c :: _ => c.column

def line : Rest → Nat
  | [] => 0
  | c :: _ => c.line

def index : Rest → Nat
  | [] => 0
  | c :: _ => c.index

def fault? : Rest → Option Failure
  | [] => none
  | c :: _ => c.fault

def fault (r : Rest) : Failure := r.fault?.getD malformed

def known (r : Rest) : Except Failure Unit :=
  match r.fault? with
  | some f => .error f
  | none => .ok ()

/-- What is wrong with a run of hexadecimal digits that is too short. -/
def noDigit (r : Rest) : Failure := fault (r.dropWhile fun c => (Text.hexValue? c.char).isSome)

/-- The characters up to the first that fails a test, and what follows. -/
def spanChars (p : Char → Bool) (r : Rest) : List Char × Rest :=
  ((r.takeWhile fun c => p c.char).map (·.char), r.dropWhile fun c => p c.char)

def skipSpaces (r : Rest) : Rest := r.dropWhile fun c => c.char == ' '

/-- Leaves out a comment, but not the line break that ends it. -/
def skipComment (r : Rest) : Rest :=
  if r.peek = '#' then r.dropWhile fun c => !isBreakOrEnd c.char else r

def skipBreak : Rest → Rest
  | [] => []
  | c :: rest => if isBreak c.char then rest else c :: rest

/-- Leaves out spaces, comments and line breaks, and tells whether a line has been crossed. -/
def skipBlank (inComment crossed : Bool) : Rest → Bool × Rest
  | [] => (crossed, [])
  | c :: rest =>
    if isBreak c.char then skipBlank false true rest
    else if inComment && c.char != '\x00' then skipBlank true crossed rest
    else if c.char = ' ' then skipBlank false crossed rest
    else if c.char = '#' then skipBlank true crossed rest
    else (crossed, c :: rest)

def startsWithMark (mark : Char) (r : Rest) : Bool :=
  r.peek == mark && r.peekAt 1 == mark && r.peekAt 2 == mark && isBlankOrEnd (r.peekAt 3)

/-- Whether a line that starts here starts or ends a document. -/
def atDocumentMark (r : Rest) : Bool := r.startsWithMark '-' || r.startsWithMark '.'

/-- Leaves out what remains of a line that may only hold a comment, and its line break. -/
def finishLine (r : Rest) : Except Failure Rest :=
  let r := r.skipSpaces.skipComment
  if isBreakOrEnd r.peek then .ok r.skipBreak else .error r.fault

end Rest

end CloudConf.Yaml
