import CloudConf.Text.Display

/-! # Texts that may hold surrogates -/
namespace CloudConf

/-- One half of a pair that stands for a character. -/
structure Surrogate where
  value : Nat
  bounds : 0xD800 ≤ value ∧ value < 0xE000
  deriving DecidableEq, Repr

namespace Surrogate

/-- The other half is a low one. -/
def isHigh (s : Surrogate) : Bool := s.value < 0xDC00

/-- The character that two surrogates stand for. -/
def pair (high low : Surrogate) : Char :=
  Char.ofNat (0x10000 + (high.value - 0xD800) * 0x400 + (low.value - 0xDC00))

end Surrogate

inductive CodePoint where
  | char (c : Char)
  | surrogate (s : Surrogate)
  deriving DecidableEq, Repr

namespace CodePoint

/-- A surrogate on its own is no character and is replaced. -/
def toChar : CodePoint → Char
  | char c => c
  | surrogate _ => '\uFFFD'

/-- The characters of a text in which two surrogates that belong together have become one. -/
def join : List CodePoint → List Char
  | [] => []
  | .surrogate s :: .surrogate t :: rest =>
    if s.isHigh && !t.isHigh then s.pair t :: join rest
    else toChar (.surrogate s) :: join (.surrogate t :: rest)
  | p :: rest => p.toChar :: join rest

def write : CodePoint → List Char
  | char c => [c]
  | surrogate s => '\\' :: 'u' :: Text.hexFixed 4 s.value

def display (delim : Char) : CodePoint → List Char
  | char c => Text.Display.showChar delim c
  | surrogate s => write (.surrogate s)

end CodePoint

/-- A text whose surrogates are kept apart. No cloud and no network is named by a text that holds
any. -/
structure WideText where
  points : List CodePoint
  deriving DecidableEq, Repr, Inhabited

namespace WideText

def ofList (cs : List Char) : WideText := ⟨cs.map .char⟩

def ofString (s : String) : WideText := ofList s.toList

def isEmpty (w : WideText) : Bool := w.points.isEmpty

def chars (w : WideText) : List Char := w.points.map CodePoint.toChar

/-- The text as others get it. -/
def given (w : WideText) : String := String.ofList (CodePoint.join w.points)

/-- The text within a message. -/
def written (w : WideText) : String := String.ofList (w.points.flatMap CodePoint.write)

instance : ToString WideText := ⟨written⟩

instance : Coe String WideText := ⟨ofString⟩

def shown (w : WideText) : String :=
  let delim := Text.Display.delimiter w.chars
  String.ofList (delim :: w.points.flatMap (CodePoint.display delim) ++ [delim])

end WideText

end CloudConf
