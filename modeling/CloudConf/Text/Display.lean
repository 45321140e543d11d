import CloudConf.Text.Hex
import CloudConf.Text.Printable

/-! # Texts as they are shown in messages -/
namespace CloudConf.Text

namespace Display

/-- Double quotes are used only where they save an escape. -/
def delimiter (s : List Char) : Char :=
  if s.contains '\x27' && !s.contains '"' then '"' else '\x27'

def showChar (delim c : Char) : List Char :=
  if c = delim ∨ c = '\\' then ['\\', c]
  else if c = '\n' then ['\\', 'n']
  else if c = '\r' then ['\\', 'r']
  else if c = '\t' then ['\\', 't']
  else if isPrintable c then [c]
  else if c.toNat ≤ 0xFF then '\\' :: 'x' :: hexFixed 2 c.toNat
  else if c.toNat ≤ 0xFFFF then '\\' :: 'u' :: hexFixed 4 c.toNat
  else '\\' :: 'U' :: hexFixed 8 c.toNat

def showChars (s : List Char) : List Char :=
  delimiter s :: s.flatMap (showChar (delimiter s)) ++ [delimiter s]

end Display

def shown (s : String) : String := String.ofList (Display.showChars s.toList)

def shownList (ss : List String) : String := "[" ++ ", ".intercalate (ss.map shown) ++ "]"

end CloudConf.Text
