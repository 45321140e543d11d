import CloudConf.Text.Numeral

/-! # Values of a cloud's configuration -/
namespace CloudConf

/-- A floating point number, given by the text that shows it: the shortest one that is read back as
the number. -/
structure Floating where
  text : String
  text_ne : text ≠ ""
  deriving DecidableEq, Repr

/-- Zero has a sign. -/
def Floating.isZero (x : Floating) : Bool := x.text == "0.0" || x.text == "-0.0"

inductive Datum where
  | null
  | bool (b : Bool)
  | int (n : Int)
  | float (x : Floating)
  | text (s : String)
  | list (items : List Datum)
  | mapping (entries : List (String × Datum))
  deriving Repr, Inhabited

namespace Datum

/-- Everything but nothing, zero and the empty. -/
def isTruthy : Datum → Bool
  | null => false
  | bool b => b
  | int n => n != 0
  | float x => !x.isZero
  | text s => s != ""
  | list items => !items.isEmpty
  | mapping entries => !entries.isEmpty

def typeName : Datum → String
  | null => "NoneType"
  | bool _ => "bool"
  | int _ => "int"
  | float _ => "float"
  | text _ => "str"
  | list _ => "list"
  | mapping _ => "dict"

mutual

/-- A value inside another: texts are quoted. A whole number may have too many digits. -/
def nested : Datum → Except Failure String
  | null => .ok "None"
  | bool true => .ok "True"
  | bool false => .ok "False"
  | int n => Text.ofInt n
  | float x => .ok x.text
  | text s => .ok (Text.shown s)
  | list items => do return "[" ++ ", ".intercalate (← nestedItems items) ++ "]"
  | mapping entries => do
    return "\x7b" ++ ", ".intercalate (← nestedEntries entries) ++ "\x7d"

def nestedItems : List Datum → Except Failure (List String)
  | [] => .ok []
  | item :: items => do return (← item.nested) :: (← nestedItems items)

def nestedEntries : List (String × Datum) → Except Failure (List String)
  | [] => .ok []
  | (key, value) :: entries => do
    return (Text.shown key ++ ": " ++ (← value.nested)) :: (← nestedEntries entries)

end

/-- A value on its own: a text stands for itself. -/
def render : Datum → Except Failure String
  | text s => .ok s
  | d => d.nested

/-- The value of a setting: nothing at all is the empty text. -/
def setting : Option Datum → Except Failure String
  | none | some null => .ok ""
  | some d => d.render

def find? (key : String) : List (String × Datum) → Option Datum
  | [] => none
  | (k, d) :: rest => if k = key then some d else find? key rest

end Datum

end CloudConf
