/-! # Entries of configuration texts -/
namespace CloudConf.Text

/-- The key and the value of a line, on the two sides of the first equals sign between spaces. -/
def keyValue? : List Char → Option (List Char × List Char)
  | ' ' :: '=' :: ' ' :: value => some ([], value)
  | c :: rest => (keyValue? rest).map fun e => (c :: e.1, e.2)
  | [] => none

/-- The name of a section, if a line opens one. -/
def sectionName? : List Char → Option (List Char)
  | '[' :: rest => if rest.getLast? = some ']' then some rest.dropLast else none
  | _ => none

/-- An entry of the section that is open where it stands; before the first section there is none. -/
structure SectionEntry where
  name : Option (List Char)
  key : List Char
  value : List Char
  deriving DecidableEq, Repr

/-- The entries of a list of lines; `name` is the section that is open. Lines that are neither
entries nor open a section say nothing. -/
def entriesIn (name : Option (List Char)) : List (List Char) → List SectionEntry
  | [] => []
  | line :: rest =>
    match sectionName? line, keyValue? line with
    | some opened, _ => entriesIn (some opened) rest
    | none, some (key, value) => ⟨name, key, value⟩ :: entriesIn name rest
    | none, none => entriesIn name rest

def sectionNames (lines : List (List Char)) : List (List Char) := lines.filterMap sectionName?

theorem keyValue?_of_notMem {key : List Char} (value : List Char) (h : ' ' ∉ key) :
    keyValue? (key ++ ' ' :: '=' :: ' ' :: value) = some (key, value) := by
  induction key with
  | nil => rfl
  | cons c rest ih =>
    simp only [List.mem_cons, not_or] at h
    rw [List.cons_append, keyValue?, ih h.2]
    · rfl
    · rintro v rfl
      exact (h.1 rfl).elim

end CloudConf.Text
