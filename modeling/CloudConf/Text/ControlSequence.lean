/-! # Terminal control sequences in texts -/
namespace CloudConf.Text

namespace ControlSequence

def isParameter (c : Char) : Bool := '0' ≤ c && c ≤ '?'

def isIntermediate (c : Char) : Bool := ' ' ≤ c && c ≤ '/'

def isFinal (c : Char) : Bool := '@' ≤ c && c ≤ '~'

/-- What follows the sequence whose parameters start here. -/
def after? (s : List Char) : Option (List Char) :=
  match (s.dropWhile isParameter).dropWhile isIntermediate with
  | c :: rest => if isFinal c then some rest else none
  | [] => none

theorem length_after? {s t : List Char} (h : after? s = some t) : t.length < s.length := by
  have hd : ((s.dropWhile isParameter).dropWhile isIntermediate).length ≤ s.length :=
    ((List.dropWhile_suffix isIntermediate).trans (List.dropWhile_suffix isParameter)).length_le
  unfold after? at h
  split at h
  · rename_i c rest hs
    split at h
    · obtain rfl := Option.some.inj h
      rw [hs, List.length_cons] at hd
      omega
    · contradiction
  · contradiction

end ControlSequence

/-- A text without its control sequences. An escape that starts none stays. -/
def withoutControls : List Char → List Char
  | [] => []
  | [c] => [c]
  | c :: d :: rest =>
    if c = '\x1b' ∧ d = '[' then
      match _h : ControlSequence.after? rest with
      | some t => withoutControls t
      | none => c :: withoutControls (d :: rest)
    else c :: withoutControls (d :: rest)
  termination_by s => s.length
  decreasing_by
    · have := ControlSequence.length_after? (by assumption)
      simp
      omega
    · simp
    · simp

end CloudConf.Text
