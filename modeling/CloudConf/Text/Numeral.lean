import CloudConf.Failure
import CloudConf.Text.Ranges

/-! # Numbers in texts -/
namespace CloudConf.Text

/-- The zeros of the decimal digits of Unicode 14 beyond ASCII; nine digits follow each. -/
def digitZeros : List Nat :=
  [0x660, 0x6F0, 0x7C0, 0x966, 0x9E6, 0xA66, 0xAE6, 0xB66, 0xBE6, 0xC66, 0xCE6, 0xD66, 0xDE6,
   0xE50, 0xED0, 0xF20, 0x1040, 0x1090, 0x17E0, 0x1810, 0x1946, 0x19D0, 0x1A80, 0x1A90, 0x1B50,
   0x1BB0, 0x1C40, 0x1C50, 0xA620, 0xA8D0, 0xA900, 0xA9D0, 0xA9F0, 0xAA50, 0xABF0, 0xFF10, 0x104A0,
   0x10D30, 0x11066, 0x110F0, 0x11136, 0x111D0, 0x112F0, 0x11450, 0x114D0, 0x11650, 0x116C0,
   0x11730, 0x118E0, 0x11950, 0x11C50, 0x11D50, 0x11DA0, 0x16A60, 0x16AC0, 0x16B50, 0x1D7CE,
   0x1D7D8, 0x1D7E2, 0x1D7EC, 0x1D7F6, 0x1E140, 0x1E2F0, 0x1E950, 0x1FBF0]

def wideSpaces : List (Nat × Nat) :=
  [(0x85, 0x85), (0xA0, 0xA0), (0x1680, 0x1680), (0x2000, 0x200A), (0x2028, 0x2029),
   (0x202F, 0x202F), (0x205F, 0x205F), (0x3000, 0x3000)]

def isDigit (c : Char) : Bool := '0'.toNat ≤ c.toNat && c.toNat ≤ '9'.toNat

/-- The spaces that may surround a number. -/
def isSpace (c : Char) : Bool := c == ' ' || (0x09 ≤ c.toNat && c.toNat ≤ 0x0D)

/-- The ASCII character that a character stands for in a number. -/
def asciiNumeral (c : Char) : Char :=
  if c.toNat < 0x80 then c
  else if inRanges wideSpaces c.toNat then ' '
  else match digitZeros.find? fun z => z ≤ c.toNat && c.toNat < z + 10 with
    | some z => Char.ofNat ('0'.toNat + (c.toNat - z))
    | none => '?'

/-- A number in ASCII without the spaces around it. -/
def trimNumeral (s : List Char) : List Char :=
  let cs := (s.map asciiNumeral).dropWhile isSpace
  (cs.reverse.dropWhile isSpace).reverse

/-- The most decimal digits that are converted. -/
def maxDecimalDigits : Nat := 4300

def valueError (text : String) : Failure := .alone (.plain .value) text

def decimal (digits : List Char) : Except Failure Nat :=
  if digits.length > maxDecimalDigits then
    .error (valueError ("Exceeds the limit (4300 digits) for integer string conversion: value has " ++
      toString digits.length ++ " digits; use sys.set_int_max_str_digits() to increase the limit"))
  else .ok (digits.foldl (fun n c => n * 10 + (c.toNat - '0'.toNat)) 0)

def ofInt (n : Int) : Except Failure String :=
  if (toString n.natAbs).length > maxDecimalDigits then
    .error (valueError ("Exceeds the limit (4300 digits) for integer string conversion; " ++
      "use sys.set_int_max_str_digits() to increase the limit"))
  else .ok (toString n)

end CloudConf.Text
