import CloudConf.Text.Numeral

/-! # Tags, and the tags of scalars that have none -/
namespace CloudConf.Yaml

/-- The kinds of nodes that a document of plain data may hold. -/
inductive Tag where
  | null | bool | int | float | binary | timestamp | str
  | seq | map | set | omap | pairs
  /-- A key whose value is merged into its mapping. -/
  | merge
  /-- A key whose value stands for its mapping. -/
  | default
  | unknown
  deriving DecidableEq, Repr, Inhabited

namespace Tag

def known : List (String × Tag) := [
  ("null", null), ("bool", bool), ("int", int), ("float", float), ("binary", binary),
  ("timestamp", timestamp), ("str", str), ("seq", seq), ("map", map), ("set", set), ("omap", omap),
  ("pairs", pairs), ("merge", merge), ("value", default)]

def ofName (name : String) : Tag :=
  match known.find? fun k => "tag:yaml.org,2002:" ++ k.1 = name with
  | some (_, t) => t
  | none => unknown

/-! ## Patterns of scalars -/

open Text (isDigit)

/-- A test of the beginning of a text: what is left if it holds. -/
abbrev Pattern := List Char → Option (List Char)

def isBinaryDigit (c : Char) : Bool := c == '0' || c == '1' || c == '_'
def isOctalDigit (c : Char) : Bool := c == '_' || ('0' ≤ c && c ≤ '7')
def isHexDigit (c : Char) : Bool :=
  c == '_' || isDigit c || ('a' ≤ c && c ≤ 'f') || ('A' ≤ c && c ≤ 'F')
def isGroupDigit (c : Char) : Bool := c == '_' || isDigit c

def skipSign : List Char → List Char
  | '+' :: rest => rest
  | '-' :: rest => rest
  | cs => cs

def allOf (p : Char → Bool) (cs : List Char) : Bool := !cs.isEmpty && cs.all p

/-- Leaves out an exponent, whose sign has to be written. -/
def skipExponent (cs : List Char) : List Char :=
  match cs with
  | e :: sign :: rest =>
    if (e = 'e' ∨ e = 'E') ∧ (sign = '+' ∨ sign = '-') ∧ !(rest.takeWhile isDigit).isEmpty then
      rest.dropWhile isDigit
    else cs
  | _ => cs

/-- Leaves out the further places of a number to the base sixty; `none` if there are none. -/
def skipSixties : List Char → Option (List Char)
  | ':' :: a :: b :: rest =>
    if '0' ≤ a ∧ a ≤ '5' ∧ isDigit b then some ((skipSixties rest).getD rest)
    else if isDigit a then some ((skipSixties (b :: rest)).getD (b :: rest))
    else none
  | [':', a] => if isDigit a then some [] else none
  | _ => none

def isNull (cs : List Char) : Bool := ["", "~", "null", "Null", "NULL"].contains (String.ofList cs)

def isBool (cs : List Char) : Bool := [
  "yes", "Yes", "YES", "no", "No", "NO", "true", "True", "TRUE", "false", "False", "FALSE", "on",
  "On", "ON", "off", "Off", "OFF"].contains (String.ofList cs)

def isInt (cs : List Char) : Bool :=
  match skipSign cs with
  | '0' :: rest =>
    rest.isEmpty || allOf isOctalDigit rest ||
      match rest with
      | 'b' :: ds => allOf isBinaryDigit ds
      | 'x' :: ds => allOf isHexDigit ds
      | _ => false
  | c :: rest =>
    isDigit c &&
      match rest.dropWhile isGroupDigit with
      | [] => true
      | after => skipSixties after == some []
  | [] => false

/-- A float in decimal places: digits before the point and after it, or only after it. -/
def isPointed (cs : List Char) : Bool :=
  match skipSign cs with
  | '.' :: d :: rest =>
    cs.head? == some '.' && isDigit d && (skipExponent (rest.dropWhile isGroupDigit)).isEmpty
  | d :: rest =>
    isDigit d &&
      match rest.dropWhile isGroupDigit with
      | '.' :: after => (skipExponent (after.dropWhile isGroupDigit)).isEmpty
      | _ => false
  | [] => false

/-- A float whose whole part is to the base sixty. -/
def isSexagesimal (cs : List Char) : Bool :=
  match skipSign cs with
  | d :: rest =>
    isDigit d &&
      match skipSixties (rest.dropWhile isGroupDigit) with
      | some ('.' :: after) => after.all isGroupDigit
      | _ => false
  | [] => false

def isFloat (cs : List Char) : Bool :=
  isPointed cs || isSexagesimal cs ||
    [".inf", ".Inf", ".INF"].contains (String.ofList (skipSign cs)) ||
    [".nan", ".NaN", ".NAN"].contains (String.ofList cs)

/-- Between `least` and `most` digits, as many as there are. -/
def takeDigits (least most : Nat) (cs : List Char) : Option (List Char × List Char) :=
  let ds := (cs.take most).takeWhile isDigit
  if least ≤ ds.length then some (ds, cs.drop ds.length) else none

def skipChar (c : Char) : Pattern
  | d :: rest => if d = c then some rest else none
  | [] => none

end Tag

structure Stamp where
  year : List Char
  month : List Char
  day : List Char
  time : Option (List Char × List Char × List Char)
  fraction : List Char
  /-- The sign, hours and minutes of the distance from universal time. -/
  zone : Option (Char × List Char × List Char)
  deriving Repr

namespace Stamp

open Tag (takeDigits skipChar Pattern)

def isBlank (c : Char) : Bool := c == ' ' || c == '\t'

def skipGap : Pattern
  | c :: rest =>
    if c = 'T' ∨ c = 't' then some rest
    else if isBlank c then some (rest.dropWhile isBlank)
    else none
  | [] => none

def takeFraction : List Char → List Char × List Char
  | '.' :: rest => (rest.takeWhile Text.isDigit, rest.dropWhile Text.isDigit)
  | cs => ([], cs)

/-- The time zone, if what is left is one. -/
def zone? (cs : List Char) : Option (Option (Char × List Char × List Char)) :=
  match cs.dropWhile isBlank with
  | [] => if cs.isEmpty then some none else none
  | ['Z'] => some none
  | c :: rest =>
    if c = '+' ∨ c = '-' then do
      let (hours, rest) ← takeDigits 1 2 rest
      match rest with
      | [] => some (some (c, hours, []))
      | _ => do
        let (minutes, rest) ← takeDigits 2 2 (← skipChar ':' rest)
        if rest.isEmpty then some (some (c, hours, minutes)) else none
    else none

def parse? (cs : List Char) : Option Stamp := do
  let (year, cs) ← takeDigits 4 4 cs
  let (month, cs) ← takeDigits 1 2 (← skipChar '-' cs)
  let (day, cs) ← takeDigits 1 2 (← skipChar '-' cs)
  if cs.isEmpty then return ⟨year, month, day, none, [], none⟩
  let (hour, cs) ← takeDigits 1 2 (← skipGap cs)
  let (minute, cs) ← takeDigits 2 2 (← skipChar ':' cs)
  let (second, cs) ← takeDigits 2 2 (← skipChar ':' cs)
  let (fraction, cs) := takeFraction cs
  let zone ← zone? cs
  return ⟨year, month, day, some (hour, minute, second), fraction, zone⟩

/-- A stamp that is recognised without a tag: a date alone has two digits for month and day. -/
def isPlain (s : Stamp) : Bool := s.time.isSome || (s.month.length == 2 && s.day.length == 2)

end Stamp

namespace Tag

/-- A pattern may stop in front of a line break at the very end. -/
def orBeforeBreak (p : List Char → Bool) (cs : List Char) : Bool :=
  p cs || (cs.getLast? == some '\n' && p cs.dropLast)

def isTimestamp (cs : List Char) : Bool := (Stamp.parse? cs).any Stamp.isPlain

/-- The tag of a scalar that is left to its text. -/
def ofText (text : String) : Tag :=
  let cs := text.toList
  let isA := fun p => orBeforeBreak p cs
  if isA isBool then bool
  else if isA isFloat then float
  else if isA isInt then int
  else if isA (· == ['<', '<']) then merge
  else if cs.isEmpty || (cs.head? != some '\n' && isA isNull) then null
  else if isA isTimestamp then timestamp
  else if isA (· == ['=']) then default
  else if isA fun p => p == ['!'] || p == ['&'] || p == ['*'] then unknown
  else str

end Tag

end CloudConf.Yaml
