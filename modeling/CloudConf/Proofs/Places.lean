import CloudConf.Disk.Change
import Mathlib.Tactic.Common

/-! # Where paths lead -/
namespace CloudConf

namespace Path

/-- A name that an entry of a directory can have. -/
structure IsName (name : String) : Prop where
  slash : '/' ∉ name.toList
  ne_empty : name ≠ ""
  ne_dot : name ≠ "."
  ne_dots : name ≠ ".."

/-- What the paths of all entries of a directory begin with. -/
def lead (p : Path) : List Char :=
  (match p.root with
    | .relative => []
    | .single => ['/']
    | .double => ['/', '/']) ++ p.parts.flatMap fun part => part.toList ++ ['/']

/-- The components that the paths of all entries of a directory begin with. -/
def leading (p : Path) : List String := (Text.splitAt '/' p.lead).dropLast.map String.ofList

private theorem intercalate_concat (sep l : List Char) (ls : List (List Char)) :
    sep.intercalate (ls ++ [l]) = ls.flatMap (· ++ sep) ++ l := by
  induction ls with
  | nil => simp
  | cons m ls ih =>
    cases ls with
    | nil => simp [List.intercalate_cons_cons]
    | cons n ls =>
      rw [List.cons_append, List.cons_append, List.intercalate_cons_cons, ← List.cons_append, ih]
      simp

theorem toList_render_child (p : Path) (name : String) :
    (p.child name).render.toList = p.lead ++ name.toList := by
  obtain ⟨root, parts⟩ := p
  have hs : "/".toList = ['/'] := rfl
  have hd : "//".toList = ['/', '/'] := rfl
  have hbody : ("/".intercalate (parts ++ [name])).toList =
      (parts.flatMap fun part => part.toList ++ ['/']) ++ name.toList := by
    rw [String.toList_intercalate, List.map_append, List.map_singleton, hs, intercalate_concat,
      List.flatMap_map]
  cases root with
  | relative => simp [render, child, lead, hbody]
  | single => simp [render, child, lead, hbody, hs]
  | double => simp [render, child, lead, hbody, hd]

/-- The components of a path that begins somewhere and goes on from one name to the next. -/
def WellFormed (p : Path) : Prop := ∀ part ∈ p.parts, part ≠ "" ∧ '/' ∉ part.toList

theorem WellFormed.above {p : Path} {name : String} (h : (p.child name).WellFormed) :
    p.WellFormed :=
  fun part hm => h part (List.mem_append_left _ hm)

theorem slash_notMem_of_mem_components {s part : String} (h : part ∈ components s) :
    '/' ∉ part.toList := by
  obtain ⟨piece, hp, rfl⟩ := List.mem_map.1 h
  rw [String.toList_ofList]
  exact Text.notMem_of_mem_splitAt hp

theorem wellFormed_ofString (s : String) : (ofString s).WellFormed := by
  intro part h
  obtain ⟨hc, hp⟩ := List.mem_filter.1 h
  exact ⟨(of_decide_eq_true hp).1, slash_notMem_of_mem_components hc⟩

theorem ne_empty_of_head? {s : String} {c : Char} (h : s.toList.head? = some c) : s ≠ "" := by
  rintro rfl
  cases h

/-- What a path in normal form starts from is seen by its first character. -/
theorem head?_render {p : Path} (hp : p.WellFormed) :
    ∃ c, p.render.toList.head? = some c ∧ (c = '/' ↔ p.root ≠ .relative) := by
  obtain ⟨root, parts⟩ := p
  cases root with
  | single => exact ⟨'/', by simp [render], by simp⟩
  | double => exact ⟨'/', by simp [render], by simp⟩
  | relative =>
    cases parts with
    | nil => exact ⟨'.', by simp [render], by simp⟩
    | cons name rest =>
      obtain ⟨hne, hslash⟩ := hp name List.mem_cons_self
      obtain ⟨c, cs, hc⟩ := List.exists_cons_of_ne_nil (mt String.toList_eq_nil_iff.1 hne)
      rw [hc, List.mem_cons, not_or] at hslash
      refine ⟨c, ?_, by simpa using Ne.symm hslash.1⟩
      cases rest with
      | nil => simp [render, hc]
      | cons next rest => simp [render, hc]

theorem startsWith_render {p : Path} (hp : p.WellFormed) :
    p.render.startsWith "/" = decide (p.root ≠ .relative) := by
  obtain ⟨c, hc, hroot⟩ := head?_render hp
  obtain ⟨cs, hcs⟩ := List.head?_eq_some_iff.1 hc
  rw [Bool.eq_iff_iff, String.startsWith_string_iff, hcs, decide_eq_true_iff, ← hroot]
  simp [eq_comm]

theorem lead_eq_nil_or (p : Path) : p.lead = [] ∨ ∃ front, p.lead = front ++ ['/'] := by
  obtain ⟨root, parts⟩ := p
  rcases List.eq_nil_or_concat parts with rfl | ⟨front, part, rfl⟩
  · cases root with
    | relative => exact .inl rfl
    | single => exact .inr ⟨[], rfl⟩
    | double => exact .inr ⟨['/'], rfl⟩
  · exact .inr ⟨_, by rw [lead, List.concat_eq_append, List.flatMap_append, List.flatMap_singleton,
      ← List.append_assoc, ← List.append_assoc]⟩

theorem components_render_child (p : Path) {name : String} (hn : '/' ∉ name.toList) :
    components (p.child name).render = p.leading ++ [name] := by
  rw [components, toList_render_child, leading]
  rcases p.lead_eq_nil_or with h | ⟨front, h⟩
  · simp [h, Text.splitAt_of_notMem hn, Text.splitAt]
  · have hl : Text.splitAt '/' (front ++ ['/']) = Text.splitAt '/' front ++ [[]] :=
      Text.splitAt_append '/' front []
    rw [h, hl, List.dropLast_concat, List.append_assoc, List.singleton_append,
      Text.splitAt_append, Text.splitAt_of_notMem hn, List.map_append]
    simp

/-- A path that names something is what all paths below it begin with. -/
theorem lead_of_ne_nil {p : Path} (h : p.parts ≠ []) : p.lead = p.render.toList ++ ['/'] := by
  obtain ⟨root, parts⟩ := p
  rcases List.eq_nil_or_concat parts with rfl | ⟨front, part, rfl⟩
  · exact absurd rfl h
  · have hr := toList_render_child ⟨root, front⟩ part
    rw [child, ← List.concat_eq_append] at hr
    rw [hr, lead, lead, List.concat_eq_append, List.flatMap_append, List.flatMap_singleton,
      ← List.append_assoc, ← List.append_assoc]

theorem render_child_of_ne_nil {p : Path} (h : p.parts ≠ []) (name : String) :
    (p.child name).render = p.render ++ ("/" ++ name) := by
  rw [← String.toList_inj, toList_render_child, lead_of_ne_nil h]
  simp

theorem leading_of_ne_nil {p : Path} (h : p.parts ≠ []) : p.leading = components p.render := by
  have hl : Text.splitAt '/' (p.render.toList ++ ['/']) = Text.splitAt '/' p.render.toList ++ [[]] :=
    Text.splitAt_append '/' p.render.toList []
  rw [leading, lead_of_ne_nil h, hl, List.dropLast_concat, components]

theorem render_mem_of_eq_nil {p : Path} (h : p.parts = []) : p.render ∈ [".", "/", "//"] := by
  obtain ⟨root, parts⟩ := p
  obtain rfl : parts = [] := h
  cases root <;> decide

theorem components_render_of_eq_nil {p : Path} (h : p.parts = []) :
    ∃ blank, (blank = "" ∨ blank = ".") ∧ components p.render = p.leading ++ [blank] := by
  obtain ⟨root, parts⟩ := p
  obtain rfl : parts = [] := h
  cases root with
  | relative => exact ⟨".", .inr rfl, rfl⟩
  | single => exact ⟨"", .inl rfl, rfl⟩
  | double => exact ⟨"", .inl rfl, rfl⟩

end Path

namespace Disk

variable {d d' : Disk} {place other : Place} {names more : List String} {path : String}

theorem follow_append (d : Disk) (place : Place) (names more : List String) :
    d.follow place (names ++ more) =
      (match d.follow place names with
        | .ok q => d.follow q more
        | .error e => .error e) := by
  induction names generalizing place with
  | nil => rfl
  | cons name rest ih =>
    rw [List.cons_append, follow, follow]
    split
    · rfl
    · rfl
    · split_ifs
      · exact ih _
      · exact ih _
      · rfl
      · exact ih _

theorem follow_cons_eq_ok {name : String} (h : d.follow place (name :: names) = .ok other) :
    d.node? place = some .directory := by
  rw [follow] at h
  split at h
  · cases h
  · cases h
  · assumption

theorem follow_name_eq_ok {name : String} (hn : Path.IsName name)
    (h : d.follow place [name] = .ok other) : other = place ++ [name] := by
  have hd := follow_cons_eq_ok h
  rw [follow, hd] at h
  simp only [hn.ne_empty, hn.ne_dot, hn.ne_dots, or_self, if_false] at h
  split at h
  · cases h
  · cases h
    rfl

theorem locate_eq_ok_iff :
    d.locate path = .ok place ↔
      '\x00' ∉ path.toList ∧ path ≠ "" ∧ path.utf8ByteSize ≤ maxPathBytes ∧
        d.follow (if path.startsWith "/" then [] else d.workPlace) (Path.components path) =
          .ok place := by
  unfold locate
  split
  · rename_i hc
    simp only [reduceCtorEq, false_iff]
    exact fun h => h.1 (by simpa using hc)
  · rename_i hc
    split
    · rename_i he
      simp [he]
    · rename_i he
      split
      · rename_i hs
        simp only [reduceCtorEq, false_iff]
        exact fun h => absurd h.2.2.1 (Nat.not_le_of_gt hs)
      · rename_i hs
        simpa [he, Nat.le_of_not_gt hs] using fun _ => hc

/-- The entry of a directory that a path leads to bears the last name of the path. -/
theorem getLast?_of_locate_child {p : Path} {name : String} (hn : Path.IsName name)
    (h : d.locate (p.child name).render = .ok place) : place.getLast? = some name := by
  obtain ⟨-, -, -, h⟩ := locate_eq_ok_iff.1 h
  rw [Path.components_render_child p hn.slash, follow_append] at h
  split at h
  · rw [follow_name_eq_ok hn h, List.getLast?_concat]
  · cases h

theorem isDirectory_eq_true_iff :
    d.isDirectory path = true ↔ ∃ place, d.locate path = .ok place ∧
      d.node? place = some .directory := by
  unfold isDirectory stat
  cases d.locate path with
  | error e => simp [bind, Except.bind]
  | ok place =>
    cases hn : d.node? place with
    | none => simp [bind, Except.bind, hn]
    | some n => cases n <;> simp [bind, Except.bind, hn, pure, Except.pure]

/-- A path can be followed if the path of one of its entries can, as it is no longer. -/
theorem locate_of_follow {p : Path} {name : String} (hp : p.WellFormed)
    (hnul : '\x00' ∉ (p.child name).render.toList)
    (hsize : (p.child name).render.utf8ByteSize ≤ maxPathBytes)
    (hf : d.follow (if p.render.startsWith "/" then [] else d.workPlace)
      (Path.components p.render) = .ok place) :
    d.locate p.render = .ok place := by
  obtain ⟨c, hc, -⟩ := Path.head?_render hp
  have hne : p.render ≠ "" := Path.ne_empty_of_head? hc
  by_cases hparts : p.parts = []
  · have hshort : ∀ s ∈ [".", "/", "//"], '\x00' ∉ s.toList ∧ s.utf8ByteSize ≤ maxPathBytes := by
      decide
    obtain ⟨hn, hs⟩ := hshort p.render (Path.render_mem_of_eq_nil hparts)
    exact locate_eq_ok_iff.2 ⟨hn, hne, hs, hf⟩
  · rw [Path.render_child_of_ne_nil hparts] at hnul hsize
    rw [String.toList_append, List.mem_append, not_or] at hnul
    rw [String.utf8ByteSize_append] at hsize
    exact locate_eq_ok_iff.2 ⟨hnul.1, hne, Nat.le_trans (Nat.le_add_right _ _) hsize, hf⟩

/-- What a path passes last is a directory, which the path above leads to. -/
theorem locate_of_locate_child {p : Path} {name : String} (hp : (p.child name).WellFormed)
    (h : d.locate (p.child name).render = .ok place) :
    ∃ above, d.locate p.render = .ok above ∧ d.node? above = some .directory ∧
      d.follow above [name] = .ok place := by
  have hp' := hp.above
  have hn : '/' ∉ name.toList := (hp name (List.mem_append_right _ (List.mem_singleton_self _))).2
  obtain ⟨hnul, -, hsize, hf⟩ := locate_eq_ok_iff.1 h
  rw [Path.components_render_child p hn, follow_append,
    (Path.startsWith_render hp).trans (Path.startsWith_render hp').symm] at hf
  split at hf
  · rename_i q hq
    have hd : d.node? q = some .directory := follow_cons_eq_ok hf
    refine ⟨q, locate_of_follow hp' hnul hsize ?_, hd, hf⟩
    by_cases hparts : p.parts = []
    · obtain ⟨blank, hb, hc⟩ := Path.components_render_of_eq_nil hparts
      rw [hc, follow_append, hq]
      simp only [follow, hd, if_pos hb]
    · rw [← Path.leading_of_ne_nil hparts]
      exact hq
  · cases hf

theorem isDirectory_of_locate_child {p : Path} {name : String} (hp : (p.child name).WellFormed)
    (h : d.locate (p.child name).render = .ok place) : d.isDirectory p.render = true := by
  obtain ⟨above, hl, hd, -⟩ := locate_of_locate_child hp h
  exact isDirectory_eq_true_iff.2 ⟨above, hl, hd⟩

/-- The path of an entry leads into what the path of the directory leads to. -/
theorem locate_child_eq_ok {p : Path} {name : String} (hp : p.WellFormed) (hn : Path.IsName name)
    (h : d.locate (p.child name).render = .ok place) :
    ∃ above, d.locate p.render = .ok above ∧ place = above ++ [name] := by
  have hchild : (p.child name).WellFormed := by
    intro part hm
    rcases List.mem_append.1 hm with hm | hm
    · exact hp part hm
    · obtain rfl := List.mem_singleton.1 hm
      exact ⟨hn.ne_empty, hn.slash⟩
  obtain ⟨above, hl, -, hf⟩ := locate_of_locate_child hchild h
  exact ⟨above, hl, follow_name_eq_ok hn hf⟩

theorem isDirectory_of_isDirectory_child {p : Path} {name : String}
    (hp : (p.child name).WellFormed) (h : d.isDirectory (p.child name).render = true) :
    d.isDirectory p.render = true := by
  obtain ⟨place, hl, -⟩ := isDirectory_eq_true_iff.1 h
  exact isDirectory_of_locate_child hp hl

/-- A tree that came of another one: no directory is lost, and relative paths start where they
did. -/
structure Extends (d d' : Disk) : Prop where
  workPlace : d'.workPlace = d.workPlace
  directories : ∀ place, d.node? place = some .directory → d'.node? place = some .directory

theorem Extends.refl (d : Disk) : Extends d d := ⟨rfl, fun _ h => h⟩

theorem Extends.trans {d'' : Disk} (h : Extends d d') (h' : Extends d' d'') : Extends d d'' :=
  ⟨h'.workPlace.trans h.workPlace, fun place hp => h'.directories place (h.directories place hp)⟩

theorem Extends.follow (h : Extends d d') (hf : d.follow place names = .ok other) :
    d'.follow place names = .ok other := by
  induction names generalizing place with
  | nil => exact hf
  | cons name rest ih =>
    have hd := follow_cons_eq_ok hf
    rw [Disk.follow, hd] at hf
    rw [Disk.follow, h.directories place hd]
    simp only at hf ⊢
    split_ifs at hf ⊢
    · exact ih hf
    · exact ih hf
    · exact ih hf

theorem Extends.locate (h : Extends d d') (hl : d.locate path = .ok place) :
    d'.locate path = .ok place := by
  unfold Disk.locate at hl ⊢
  rw [h.workPlace]
  split_ifs at hl ⊢
  all_goals exact h.follow hl

end Disk

end CloudConf
