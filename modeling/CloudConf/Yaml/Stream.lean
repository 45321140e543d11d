import CloudConf.Failure
import CloudConf.Text.Lines
import CloudConf.Text.Utf8

/-! # Streams, which are read piece by piece -/
namespace CloudConf.Yaml

/-- A stream that breaks the rules of YAML. In which way and where is not told. -/
def malformed : Failure := .alone .malformed "<YAMLError>"

def isAllowed (c : Char) : Bool :=
  let n := c.toNat
  n == 0x09 || n == 0x0A || n == 0x0D || (0x20 ≤ n && n ≤ 0x7E) || n == 0x85 ||
    (0xA0 ≤ n && n ≤ 0xD7FF) || (0xE000 ≤ n && n ≤ 0xFFFD) || 0x10000 ≤ n

/-- A text, and what keeps one from getting to know what follows it, if anything does. -/
structure Stream where
  text : String
  fault : Option Failure
  /-- What messages call the stream. -/
  name : String := "<file>"
  deriving Inhabited

namespace Stream

def ofText (text : String) (name : String := "<file>") : Stream := ⟨text, none, name⟩

def blockSize : Nat := 8192

def undecodable : Failure := .alone (.plain .undecodable) ""

/-- The stream in the bytes of a file. Of bytes that are no UTF-8, the text ends in front of the
block that shows it. A carriage return there may yet turn out to be half of a line break. -/
def ofBytes (content : ByteArray) (name : String := "<file>") : Stream :=
  match String.fromUTF8? content with
  | some text => ⟨String.ofList (Text.unifyNewlines text.toList), none, name⟩
  | none =>
    let known := match Text.Utf8.refusal? [] 0 content.toList with
      | some n => n / blockSize * blockSize
      | none => content.size
    let cs := (Text.Utf8.textOf (content.extract 0 known)).toList
    let kept := if cs.getLast? = some '\r' then cs.dropLast else cs
    ⟨String.ofList (Text.unifyNewlines kept), some undecodable, name⟩

def pieceLength : Nat := 4096

/-- Where the piece starts that a place belongs to. At the start two pieces are read at once. -/
def pieceStart (n : Nat) : Nat := if n < 2 * pieceLength then 0 else n / pieceLength * pieceLength

/-- How many characters can be read, and why no more. A character that is not allowed spoils the
whole of its piece. -/
def limit? (s : Stream) : Option (Nat × Failure) :=
  let cs := s.text.toList
  let known := s.fault.map fun f => (pieceStart cs.length, f)
  let clean := (cs.findIdx? fun c => !isAllowed c).map fun n => (pieceStart n, malformed)
  match clean, known with
  | some a, some b => some (if a.1 < b.1 then a else b)
  | some a, none => some a
  | none, b => b

end Stream

end CloudConf.Yaml
