import CloudConf.Credentials
import CloudConf.Text.BasicLiteral
import CloudConf.Text.Entries

/-! # Reading the secret back -/
namespace CloudConf.Credentials

/-- What a secret says: its settings in order, and whether it names the file of a CA. -/
structure Content where
  fields : List (String × String)
  namesCaFile : Bool
  deriving DecidableEq, Repr

/-- Reads one literal off the front of a text. -/
abbrev LiteralReader := List Char → Option (List Char × List Char)

/-- A line that holds a key and a literal and nothing else. -/
def readField (literal : LiteralReader) (line : List Char) : Option (String × String) := do
  let (key, written) ← Text.keyValue? line
  match ← literal written with
  | (value, []) => some (String.ofList key, String.ofList value)
  | _ => none

/-- The lines behind the header. The file of a CA can only be named at the end. -/
def readLines (literal : LiteralReader) : List (List Char) → Option Content
  | [] => some ⟨[], false⟩
  | line :: rest =>
    if line = caFileLine.toList then if rest = [] then some ⟨[], true⟩ else none
    else do
      let field ← readField literal line
      let content ← readLines literal rest
      some { content with fields := field :: content.fields }

def readWith (literal : LiteralReader) (secret : String) : Option Content := do
  match ← Text.lines? secret.toList with
  | header :: rest => if header = globalHeader.toList then readLines literal rest else none
  | [] => none

/-- Reads a secret whose literals may hold all escapes. -/
def read (secret : String) : Option Content := readWith Text.Literal.read secret

/-- Reads a secret as the cloud provider does. -/
def readBasic (secret : String) : Option Content := readWith Text.BasicLiteral.read secret

end CloudConf.Credentials
