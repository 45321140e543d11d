import CloudConf.Text.Numeral

/-! # Base64, read leniently -/
namespace CloudConf.Text.Base64

/-- The six bits of a digit. -/
def digit? (c : Char) : Option Nat :=
  let n := c.toNat
  if 'A' ≤ c ∧ c ≤ 'Z' then some (n - 65)
  else if 'a' ≤ c ∧ c ≤ 'z' then some (n - 71)
  else if isDigit c then some (n + 4)
  else if c = '+' then some 62
  else if c = '/' then some 63
  else none

/-- Decodes digits in groups of four. `place` of a group have been seen and left `bits` over;
`pads` counts the padding since the last digit. Padding ends the text where it fills a group;
characters that are no digits are left out. -/
def decodeFrom (place bits pads : Nat) : List Char → Option (List UInt8)
  | [] => if place = 0 then some [] else none
  | c :: rest =>
    if c = '=' then
      if place < 2 then decodeFrom place bits pads rest
      else if 4 ≤ place + pads + 1 then some []
      else decodeFrom place bits (pads + 1) rest
    else match digit? c with
      | none => decodeFrom place bits pads rest
      | some d =>
        match place with
        | 0 => decodeFrom 1 d 0 rest
        | 1 => (decodeFrom 2 (d % 16) 0 rest).map (UInt8.ofNat (bits * 4 + d / 16) :: ·)
        | 2 => (decodeFrom 3 (d % 4) 0 rest).map (UInt8.ofNat (bits * 16 + d / 4) :: ·)
        | _ => (decodeFrom 0 0 0 rest).map (UInt8.ofNat (bits * 64 + d) :: ·)

/-- The bytes of a text that is Base64 with anything else strewn in, as long as its last group is
full or padded. -/
def decode? (s : List Char) : Option ByteArray :=
  if s.all (·.toNat < 0x80) then (decodeFrom 0 0 0 s).map fun bytes => ⟨bytes.toArray⟩ else none

end CloudConf.Text.Base64
