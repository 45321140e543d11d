import CloudConf.Text.Base64
import CloudConf.Text.Lines
import CloudConf.Text.Lowercase
import CloudConf.Yaml.Source
import CloudConf.Yaml.Tag

/-! # Values of a YAML document, and the values of scalars -/
namespace CloudConf.Yaml

/-- A value; those inside it are given by their numbers in the document. What a float or a point
in time amounts to is not kept. -/
inductive Value where
  | null
  | bool (b : Bool)
  | int (n : Int)
  | float
  | text (s : WideText)
  | binary (content : ByteArray)
  | date
  | dateTime
  | list (items : List Nat)
  | pairs (entries : List (Nat × Nat))
  | set (members : List Nat)
  | mapping (entries : List (Nat × Nat))
  deriving Inhabited

namespace Value

open Text (valueError)

/-- Only values that cannot change may be keys. -/
def isHashable : Value → Bool
  | list _ | pairs _ | set _ | mapping _ => false
  | _ => true

/-! ## Integers -/

def emptyNumber : Failure := .alone (.plain .index) "string index out of range"

def maxShown : Nat := 200

def badInteger (base : Nat) (s : WideText) : Failure :=
  let seen := String.ofList (s.shown.toList.take maxShown)
  valueError s!"invalid literal for int() with base {base}: {seen}"

def isBaseDigit (base : Nat) (c : Char) : Bool := (Text.hexValue? c).any (· < base)

/-- The letter that marks a base behind a zero. -/
def isBaseMark (base : Nat) (c : Char) : Bool :=
  match base with
  | 2 => c == 'b' || c == 'B'
  | 8 => c == 'o' || c == 'O'
  | 16 => c == 'x' || c == 'X'
  | _ => false

/-- Whether there is a minus, and what follows the sign if there is one. -/
def takeSign {α : Type} (char : α → Char) : List α → Bool × List α
  | [] => (false, [])
  | a :: rest =>
    if char a = '-' then (true, rest)
    else if char a = '+' then (false, rest)
    else (false, a :: rest)

def skipBaseMark (base : Nat) : List Char → List Char
  | '0' :: c :: rest => if isBaseMark base c then rest else '0' :: c :: rest
  | cs => cs

/-- An integer to a base, with spaces around it, a sign and a mark of its base if need be. -/
def readInteger (base : Nat) (s : WideText) : Except Failure Int := do
  let (negative, body) := takeSign id (Text.trimNumeral s.chars)
  let digits := skipBaseMark base body
  let ds := digits.takeWhile (isBaseDigit base)
  let n ← if base = 10 then Text.decimal ds
    else pure (ds.foldl (fun n c => n * base + (Text.hexValue? c).getD 0) 0)
  if ds.isEmpty || ds.length < digits.length then throw (badInteger base s)
  return if negative then -n else n

def sixties (places : List Int) : Int := places.foldl (fun n d => n * 60 + d) 0

def withoutGroups (s : WideText) : WideText := ⟨s.points.filter (· ≠ .char '_')⟩

def integer (text : WideText) : Except Failure Int := do
  let (negative, body) := takeSign CodePoint.toChar (withoutGroups text).points
  let n ← match body with
    | [] => throw emptyNumber
    | [.char '0'] => pure 0
    | .char '0' :: .char 'b' :: ds => readInteger 2 ⟨ds⟩
    | .char '0' :: .char 'x' :: ds => readInteger 16 ⟨ds⟩
    | .char '0' :: _ => readInteger 8 ⟨body⟩
    | _ =>
      if body.contains (.char ':') then
        sixties <$> (Text.splitAt (.char ':') body).mapM fun place => readInteger 10 ⟨place⟩
      else readInteger 10 ⟨body⟩
  return if negative then -n else n

/-! ## Floats -/

/-- The most places to the base sixty whose weight a float can hold. -/
def maxSixties : Nat := 174

/-- Digits with a point anywhere or nowhere, then perhaps an exponent. -/
def isDecimalFloat (cs : List Char) : Bool :=
  let (whole, rest) := (cs.takeWhile Text.isDigit, cs.dropWhile Text.isDigit)
  let (places, rest) := match rest with
    | '.' :: after => (after.takeWhile Text.isDigit, after.dropWhile Text.isDigit)
    | _ => ([], rest)
  !(whole.isEmpty && places.isEmpty) &&
    match rest with
    | [] => true
    | e :: power => (e == 'e' || e == 'E') && Tag.allOf Text.isDigit (takeSign id power).2

def isFloatText (cs : List Char) : Bool :=
  let body := (takeSign id (Text.trimNumeral cs)).2
  isDecimalFloat body || ["inf", "infinity", "nan"].contains (String.ofList body)

def checkFloat (s : WideText) : Except Failure Unit :=
  if isFloatText s.chars then .ok ()
  else .error (valueError s!"could not convert string to float: {s.shown}")

/-- The lower case of a text. A surrogate ends a word; `word` is the one before, backwards. -/
def lowerFrom (word : List Char) : List CodePoint → List CodePoint
  | [] => (Text.lower word.reverse).map .char
  | .char c :: rest => lowerFrom (c :: word) rest
  | .surrogate s :: rest =>
    (Text.lower word.reverse).map .char ++ .surrogate s :: lowerFrom [] rest

def lowered (s : WideText) : WideText := ⟨lowerFrom [] s.points⟩

def checkFloatScalar (text : WideText) : Except Failure Unit := do
  let s := lowered (withoutGroups text)
  if s.isEmpty then throw emptyNumber
  let body := (takeSign CodePoint.toChar s.points).2
  if [".inf", ".nan"].contains (WideText.mk body).given then return
  if body.contains (.char ':') then
    let places := Text.splitAt (.char ':') body
    places.forM fun place => checkFloat ⟨place⟩
    if places.length > maxSixties then
      throw (.alone (.plain .overflow) "int too large to convert to float")
  else checkFloat ⟨body⟩

/-! ## Truth values -/

def boolWords : List (String × Bool) := [
  ("yes", true), ("no", false), ("true", true), ("false", false), ("on", true), ("off", false)]

def boolean (text : WideText) : Except Failure Bool :=
  let word := lowered text
  match boolWords.find? fun b => .ofString b.1 = word with
  | some (_, b) => .ok b
  | none => .error (.missingKey word)

/-! ## Points in time -/

def isLeap (year : Nat) : Bool := year % 4 == 0 && (year % 100 != 0 || year % 400 == 0)

def daysIn (year month : Nat) : Nat :=
  if month = 2 then if isLeap year then 29 else 28
  else if month = 4 ∨ month = 6 ∨ month = 9 ∨ month = 11 then 30
  else 31

def checkDate (year month day : Nat) : Except Failure Unit :=
  if year = 0 then .error (valueError "year 0 is out of range")
  else if month < 1 ∨ 12 < month then .error (valueError "month must be in 1..12")
  else if day < 1 ∨ daysIn year month < day then
    .error (valueError "day is out of range for month")
  else .ok ()

def checkTime (hour minute second : Nat) : Except Failure Unit :=
  if 23 < hour then .error (valueError "hour must be in 0..23")
  else if 59 < minute then .error (valueError "minute must be in 0..59")
  else if 59 < second then .error (valueError "second must be in 0..59")
  else .ok ()

def daySeconds : Int := 86400

/-- A distance from universal time has to be shorter than a day. -/
def checkZone (negative : Bool) (hours minutes : Nat) : Except Failure Unit :=
  let length : Int := (hours * 60 + minutes) * 60
  if length < daySeconds then .ok ()
  else
    let total := if negative then -length else length
    let days := total.fdiv daySeconds
    let seconds := total.fmod daySeconds
    let rest := if seconds = 0 then "" else s!", seconds={seconds}"
    .error (valueError ("offset must be a timedelta strictly between -timedelta(hours=24) and " ++
      s!"timedelta(hours=24), not datetime.timedelta(days={days}{rest})."))

def small (digits : List Char) : Nat :=
  digits.foldl (fun n c => n * 10 + (c.toNat - '0'.toNat)) 0

def ofStamp (s : Stamp) : Except Failure Value := do
  let (year, month, day) := (small s.year, small s.month, small s.day)
  match s.time with
  | none =>
    checkDate year month day
    return date
  | some (hour, minute, second) =>
    if let some (sign, hours, minutes) := s.zone then
      checkZone (sign == '-') (small hours) (small minutes)
    checkDate year month day
    checkTime (small hour) (small minute) (small second)
    return dateTime

def noStamp : Failure :=
  .alone (.plain .attribute) "'NoneType' object has no attribute 'groupdict'"

def timestamp (text : WideText) : Except Failure Value :=
  let cs := text.chars
  match Stamp.parse? cs <|> if cs.getLast? = some '\n' then Stamp.parse? cs.dropLast else none with
  | some s => ofStamp s
  | none => .error noStamp

def ofScalar (tag : Tag) (s : WideText) : Except Failure Value :=
  match tag with
  | .null => .ok null
  | .bool => (boolean s).map bool
  | .int => (integer s).map int
  | .float => (checkFloatScalar s).map fun _ => float
  | .binary =>
    match Text.Base64.decode? s.chars with
    | some content => .ok (binary content)
    | none => .error malformed
  | .timestamp => timestamp s
  | .str => .ok (text s)
  | _ => .error malformed

end Value

end CloudConf.Yaml
