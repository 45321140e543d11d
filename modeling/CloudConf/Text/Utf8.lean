/-! # Where bytes stop being UTF-8 -/
namespace CloudConf.Text.Utf8

/-- The least and the greatest value of a byte. -/
abbrev Bounds := UInt8 × UInt8

def tail : Bounds := (0x80, 0xBF)

/-- The bytes that have to follow the first byte of a character. -/
def following? (first : UInt8) : Option (List Bounds) :=
  if first ≤ 0x7F then some []
  else if first < 0xC2 then none
  else if first ≤ 0xDF then some [tail]
  else if first = 0xE0 then some [(0xA0, 0xBF), tail]
  else if first = 0xED then some [(0x80, 0x9F), tail]
  else if first ≤ 0xEF then some [tail, tail]
  else if first = 0xF0 then some [(0x90, 0xBF), tail, tail]
  else if first ≤ 0xF3 then some [tail, tail, tail]
  else if first = 0xF4 then some [(0x80, 0x8F), tail, tail]
  else none

/-- The bytes that may still follow a byte where `due` have to follow. -/
def step? : (due : List Bounds) → UInt8 → Option (List Bounds)
  | [], b => following? b
  | (least, greatest) :: due, b => if least ≤ b ∧ b ≤ greatest then some due else none

/-- The place of the first byte that rules UTF-8 out. There are `place` bytes in front, and `due`
have to follow. -/
def refusal? (due : List Bounds) (place : Nat) : List UInt8 → Option Nat
  | [] => none
  | b :: bytes =>
    match step? due b with
    | some due => refusal? due (place + 1) bytes
    | none => some place

/-- The text of bytes of which the last may be the start of a character. -/
def textOf (bytes : ByteArray) : String :=
  let cut (n : Nat) : Option String := String.fromUTF8? (bytes.extract 0 (bytes.size - n))
  (([0, 1, 2, 3] : List Nat).findSome? cut).getD ""

theorem fromUTF8?_toUTF8 (s : String) : String.fromUTF8? s.toUTF8 = some s := by
  unfold String.fromUTF8?
  rw [String.toUTF8_eq_toByteArray, dif_pos s.isValidUTF8]
  rfl

end CloudConf.Text.Utf8
