/-! # Texts as lists of lines -/
namespace CloudConf.Text

/-- The pieces between the separators; there is always at least one. -/
def splitAt {α : Type} [DecidableEq α] (sep : α) : List α → List (List α)
  | [] => [[]]
  | c :: rest =>
    if c = sep then [] :: splitAt sep rest
    else match splitAt sep rest with
      | [] => [[c]]
      | piece :: pieces => (c :: piece) :: pieces

def unlines (ls : List (List Char)) : List Char := ls.flatMap (· ++ ['\n'])

/-- The lines of a text in which every line ends in a line break. -/
def lines? (s : List Char) : Option (List (List Char)) :=
  match (splitAt '\n' s).reverse with
  | [] :: ls => some ls.reverse
  | _ => none

/-- The characters at which some readers end a line. -/
def isLineEnd (c : Char) : Bool :=
  let n := c.toNat
  (0x0A ≤ n && n ≤ 0x0D) || (0x1C ≤ n && n ≤ 0x1E) || n == 0x85 || n == 0x2028 || n == 0x2029

/-- The lines of a text for a reader who ends them wherever a line may end. -/
def looseLines : List Char → List (List Char)
  | [] => []
  | '\r' :: '\n' :: rest => [] :: looseLines rest
  | c :: rest =>
    if isLineEnd c then [] :: looseLines rest
    else match looseLines rest with
      | [] => [[c]]
      | line :: lines => (c :: line) :: lines

/-- Writes every line break as a line feed. -/
def unifyNewlines : List Char → List Char
  | [] => []
  | '\r' :: '\n' :: rest => '\n' :: unifyNewlines rest
  | c :: rest => (if c = '\r' then '\n' else c) :: unifyNewlines rest

theorem splitAt_ne_nil {α : Type} [DecidableEq α] (sep : α) (s : List α) : splitAt sep s ≠ [] := by
  cases s with
  | nil => simp [splitAt]
  | cons c rest =>
    simp only [splitAt]
    split
    · simp
    · split <;> simp

theorem splitAt_of_notMem {α : Type} [DecidableEq α] {sep : α} {s : List α} (h : sep ∉ s) :
    splitAt sep s = [s] := by
  induction s with
  | nil => rfl
  | cons c rest ih =>
    simp only [List.mem_cons, not_or] at h
    simp [splitAt, Ne.symm h.1, ih h.2]

theorem notMem_of_mem_splitAt {α : Type} [DecidableEq α] {sep : α} {s piece : List α}
    (h : piece ∈ splitAt sep s) : sep ∉ piece := by
  induction s generalizing piece with
  | nil => simp_all [splitAt]
  | cons c rest ih =>
    rw [splitAt] at h
    split at h
    · rcases List.mem_cons.1 h with rfl | h
      · simp
      · exact ih h
    · rename_i hc
      split at h
      · obtain rfl := List.mem_singleton.1 h
        simpa using Ne.symm hc
      · rename_i first pieces hs
        rcases List.mem_cons.1 h with rfl | h
        · simpa [Ne.symm hc] using ih (hs ▸ List.mem_cons_self)
        · exact ih (hs ▸ List.mem_cons_of_mem _ h)

theorem splitAt_append {α : Type} [DecidableEq α] (sep : α) (s t : List α) :
    splitAt sep (s ++ sep :: t) = splitAt sep s ++ splitAt sep t := by
  induction s with
  | nil => simp [splitAt]
  | cons c rest ih =>
    by_cases hc : c = sep
    · simp [splitAt, hc, ih]
    · obtain ⟨piece, pieces, hs⟩ := List.exists_cons_of_ne_nil (splitAt_ne_nil sep rest)
      simp [splitAt, hc, ih, hs]

/-- What precedes all separators belongs to the first piece. -/
theorem splitAt_append_of_notMem {α : Type} [DecidableEq α] {sep : α} {s : List α} (t : List α)
    (h : sep ∉ s) : splitAt sep (s ++ t) = (splitAt sep t).modifyHead (s ++ ·) := by
  obtain ⟨piece, pieces, ht⟩ := List.exists_cons_of_ne_nil (splitAt_ne_nil sep t)
  induction s with
  | nil => simp [ht]
  | cons c rest ih =>
    simp only [List.mem_cons, not_or] at h
    simp [splitAt, Ne.symm h.1, ih h.2, ht]

theorem splitAt_unlines (ls : List (List Char)) :
    splitAt '\n' (unlines ls) = ls.flatMap (splitAt '\n') ++ [[]] := by
  induction ls with
  | nil => rfl
  | cons l ls ih =>
    rw [unlines, List.flatMap_cons, List.append_assoc, List.singleton_append, splitAt_append,
      List.flatMap_cons, List.append_assoc, ← ih]
    rfl

theorem flatMap_splitAt_of_notMem {α : Type} [DecidableEq α] {sep : α} {ls : List (List α)}
    (h : ∀ l ∈ ls, sep ∉ l) : ls.flatMap (splitAt sep) = ls := by
  induction ls with
  | nil => rfl
  | cons l ls ih =>
    rw [List.flatMap_cons, splitAt_of_notMem (h l (by simp)), ih fun m hm => h m (by simp [hm]),
      List.singleton_append]

theorem lines?_unlines {ls : List (List Char)} (h : ∀ l ∈ ls, '\n' ∉ l) :
    lines? (unlines ls) = some ls := by
  simp [lines?, splitAt_unlines, flatMap_splitAt_of_notMem h]

end CloudConf.Text
