import CloudConf.Text.Numeral

/-! # Comments at the end of lines -/
namespace CloudConf.Text

/-- Where a scan of a line stands: outside of quotes or inside, and perhaps behind a backslash. -/
inductive QuoteState where
  | outside | inside | outsideEscaped | insideEscaped
  deriving DecidableEq, Repr

namespace QuoteState

def next : QuoteState → Char → QuoteState
  | outside, c => if c = '\\' then outsideEscaped else if c = '"' then inside else outside
  | inside, c => if c = '\\' then insideEscaped else if c = '"' then outside else inside
  | outsideEscaped, _ => outside
  | insideEscaped, _ => inside

def after (s : QuoteState) (t : List Char) : QuoteState := t.foldl next s

end QuoteState

/-- What precedes the first mark that stands outside of quotes, if there is one. -/
def beforeMark? (mark : Char) : QuoteState → List Char → Option (List Char)
  | _, [] => none
  | s, c :: rest =>
    if s = .outside ∧ c = mark then some [] else (beforeMark? mark (s.next c) rest).map (c :: ·)

/-- White space of any kind; line ends are of it. -/
def isWhitespace (c : Char) : Bool :=
  isSpace c || (0x1C ≤ c.toNat && c.toNat ≤ 0x1F) || inRanges wideSpaces c.toNat

/-- A line without the comment that a mark starts, and without the white space in front of it. -/
def uncommented (mark : Char) (line : List Char) : List Char :=
  match beforeMark? mark .outside line with
  | some front => (front.reverse.dropWhile isWhitespace).reverse
  | none => line

example : uncommented '#' "key = \"a#\\\"b\" # c".toList = "key = \"a#\\\"b\"".toList := by decide

end CloudConf.Text
