import CloudConf.Text.Hex
import CloudConf.Text.Printable

/-! # Double-quoted literals -/
namespace CloudConf.Text

/-- The letter that follows the backslash of an escape with a name. -/
def escapeName? : Char → Option Char
  | '\x07' => some 'a'
  | '\x08' => some 'b'
  | '\x0c' => some 'f'
  | '\n' => some 'n'
  | '\r' => some 'r'
  | '\t' => some 't'
  | '\x0b' => some 'v'
  | '\\' => some '\\'
  | '"' => some '"'
  | _ => none

def namedEscape? : Char → Option Char
  | 'a' => some '\x07'
  | 'b' => some '\x08'
  | 'f' => some '\x0c'
  | 'n' => some '\n'
  | 'r' => some '\r'
  | 't' => some '\t'
  | 'v' => some '\x0b'
  | '\\' => some '\\'
  | '"' => some '"'
  | _ => none

namespace Literal

/-- One character inside the quotes: by name, as itself, or by its number in the shortest of the
three widths that holds it. -/
def encodeChar (c : Char) : List Char :=
  match escapeName? c with
  | some name => ['\\', name]
  | none =>
    if isPrintable c then [c]
    else if c.toNat < 0x80 then '\\' :: 'x' :: hexFixed 2 c.toNat
    else if c.toNat ≤ 0xFFFF then '\\' :: 'u' :: hexFixed 4 c.toNat
    else '\\' :: 'U' :: hexFixed 8 c.toNat

def encode (s : List Char) : List Char := '"' :: s.flatMap encodeChar ++ ['"']

/-- The character with the given hexadecimal number, if it is a Unicode scalar value. -/
def numbered? (digits : List Char) : Option Char := do
  let n ← hexNumber? digits
  if n.isValidChar then some (Char.ofNat n) else none

def push (c : Char) (r : List Char × List Char) : List Char × List Char := (c :: r.1, r.2)

/-- What stands before the closing quote, and what follows it. -/
def readBody : List Char → Option (List Char × List Char)
  | [] => none
  | '"' :: rest => some ([], rest)
  | '\\' :: 'x' :: a :: b :: rest =>
    (numbered? [a, b]).bind fun c => (readBody rest).map (push c)
  | '\\' :: 'u' :: a :: b :: c :: d :: rest =>
    (numbered? [a, b, c, d]).bind fun c => (readBody rest).map (push c)
  | '\\' :: 'U' :: a :: b :: c :: d :: e :: f :: g :: h :: rest =>
    (numbered? [a, b, c, d, e, f, g, h]).bind fun c => (readBody rest).map (push c)
  | '\\' :: name :: rest => (namedEscape? name).bind fun c => (readBody rest).map (push c)
  | ['\\'] => none
  | c :: rest => (readBody rest).map (push c)

def read : List Char → Option (List Char × List Char)
  | '"' :: rest => readBody rest
  | _ => none

theorem numbered?_hexFixed {width : Nat} {c : Char} (h : c.toNat < Nat.pow 16 width) :
    numbered? (hexFixed width c.toNat) = some c := by
  have hc : c.toNat.isValidChar := c.valid
  rw [numbered?, hexNumber?_hexFixed h]
  simp only [bind, Option.bind]
  rw [if_pos hc, Char.ofNat_toNat]

theorem readBody_named {c name : Char} (t : List Char) (h : escapeName? c = some name) :
    readBody ('\\' :: name :: t) = (readBody t).map (push c) := by
  unfold escapeName? at h
  split at h <;> cases h <;> rfl

theorem readBody_plain {c : Char} (t : List Char) (hq : c ≠ '"') (hb : c ≠ '\\') :
    readBody (c :: t) = (readBody t).map (push c) := by
  rw [readBody.eq_def]
  split <;> simp_all

theorem readBody_numbered2 {n : Nat} {c : Char} (t : List Char)
    (h : numbered? (hexFixed 2 n) = some c) :
    readBody ('\\' :: 'x' :: (hexFixed 2 n ++ t)) = (readBody t).map (push c) := by
  simp only [hexFixed, List.nil_append, List.cons_append] at h ⊢
  rw [readBody, h, Option.bind_some]

theorem readBody_numbered4 {n : Nat} {c : Char} (t : List Char)
    (h : numbered? (hexFixed 4 n) = some c) :
    readBody ('\\' :: 'u' :: (hexFixed 4 n ++ t)) = (readBody t).map (push c) := by
  simp only [hexFixed, List.nil_append, List.cons_append] at h ⊢
  rw [readBody, h, Option.bind_some]

theorem readBody_numbered8 {n : Nat} {c : Char} (t : List Char)
    (h : numbered? (hexFixed 8 n) = some c) :
    readBody ('\\' :: 'U' :: (hexFixed 8 n ++ t)) = (readBody t).map (push c) := by
  simp only [hexFixed, List.nil_append, List.cons_append] at h ⊢
  rw [readBody, h, Option.bind_some]

theorem readBody_encodeChar (c : Char) (t : List Char) :
    readBody (encodeChar c ++ t) = (readBody t).map (push c) := by
  unfold encodeChar
  split
  · exact readBody_named t ‹_›
  · rename_i hname
    have hq : c ≠ '"' := fun e => by simp [e, escapeName?] at hname
    have hb : c ≠ '\\' := fun e => by simp [e, escapeName?] at hname
    split
    · exact readBody_plain t hq hb
    · split
      · exact readBody_numbered2 t (numbered?_hexFixed (Nat.lt_trans ‹_› (by decide)))
      · split
        · exact readBody_numbered4 t (numbered?_hexFixed (Nat.lt_succ_of_le ‹_›))
        · have hc : c.toNat < 0x110000 := by
            rcases c.valid with h | h
            · exact Nat.lt_trans h (by decide)
            · exact h.2
          exact readBody_numbered8 t (numbered?_hexFixed (Nat.lt_trans hc (by decide)))

theorem readBody_flatMap_encodeChar (s t : List Char) :
    readBody (s.flatMap encodeChar ++ '"' :: t) = some (s, t) := by
  induction s with
  | nil => rfl
  | cons c s ih =>
    rw [List.flatMap_cons, List.append_assoc, readBody_encodeChar, ih]
    rfl

end Literal

def quote (s : String) : String := String.ofList (Literal.encode s.toList)

end CloudConf.Text
