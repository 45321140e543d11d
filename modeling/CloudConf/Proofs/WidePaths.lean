import CloudConf.Disk.WidePath
import CloudConf.Proofs.Places
import CloudConf.Text.Utf8

/-! # Where paths that may hold surrogates lead -/
namespace CloudConf

namespace Text

variable {α β : Type} {sep x : α}

theorem exists_mem_splitAt_iff [DecidableEq α] (h : x ≠ sep) (s : List α) :
    (∃ piece ∈ splitAt sep s, x ∈ piece) ↔ x ∈ s := by
  induction s with
  | nil => simp [splitAt]
  | cons c s ih =>
    obtain ⟨piece, pieces, hs⟩ := List.exists_cons_of_ne_nil (splitAt_ne_nil sep s)
    rw [hs] at ih
    by_cases hc : c = sep
    · subst hc
      simpa [splitAt, hs, h] using ih
    · simpa [splitAt, hc, hs, or_assoc] using or_congr_right ih

theorem mem_intercalate_iff (h : x ≠ sep) (pieces : List (List α)) :
    x ∈ [sep].intercalate pieces ↔ ∃ piece ∈ pieces, x ∈ piece := by
  induction pieces with
  | nil => simp
  | cons piece rest ih =>
    cases rest with
    | nil => simp
    | cons next rest =>
      rw [List.intercalate_cons_cons, List.mem_append, List.mem_append, List.mem_singleton, ih]
      simp [h]

theorem map_intercalate (f : α → β) (sep : List α) (pieces : List (List α)) :
    (sep.intercalate pieces).map f = (sep.map f).intercalate (pieces.map (List.map f)) := by
  induction pieces with
  | nil => rfl
  | cons piece rest ih =>
    cases rest with
    | nil => simp
    | cons next rest =>
      rw [List.map_cons, List.map_cons, List.intercalate_cons_cons, List.intercalate_cons_cons,
        List.map_append, List.map_append, ih, List.map_cons]

theorem splitAt_map [DecidableEq α] [DecidableEq β] {f : α → β} (hf : Function.Injective f)
    (sep : α) (s : List α) : splitAt (f sep) (s.map f) = (splitAt sep s).map (List.map f) := by
  induction s with
  | nil => rfl
  | cons c s ih =>
    obtain ⟨piece, pieces, hs⟩ := List.exists_cons_of_ne_nil (splitAt_ne_nil sep s)
    by_cases hc : c = sep
    · simp [splitAt, hc, ih]
    · simp [splitAt, hc, hf.eq_iff, ih, hs]

end Text

namespace CodePoint

theorem char_injective : Function.Injective char := fun _ _ => char.inj

theorem unpassable?_eq_none_iff {n : Nat} {points : List CodePoint} :
    unpassable? n points = none ↔ ∀ p ∈ points, p.isPassable := by
  induction points generalizing n with
  | nil => simp [unpassable?]
  | cons p rest ih =>
    rw [unpassable?, List.forall_mem_cons]
    split
    · rename_i hp
      simp [hp, ih]
    · rename_i hp
      simp [hp]

theorem name?_map_char (cs : List Char) : name? (cs.map char) = some (String.ofList cs) := by
  rw [name?, List.flatMap_map]
  exact Text.Utf8.fromUTF8?_toUTF8 (String.ofList cs)

theorem length_bytes_map_char (cs : List Char) :
    ((cs.map char).flatMap bytes).length = (String.ofList cs).utf8ByteSize := by
  rw [List.flatMap_map, ← List.size_toByteArray]
  rfl

end CodePoint

namespace WideText

theorem isPassable_ofString (s : String) : ∀ p ∈ (ofString s).points, p.isPassable := by
  intro p hp
  obtain ⟨c, -, rfl⟩ := List.mem_map.1 hp
  rfl

theorem isEmpty_ofString (s : String) : (ofString s).isEmpty = decide (s = "") := by
  rw [Bool.eq_iff_iff]
  simp [ofString, ofList, isEmpty]

theorem mem_normalParts_iff {w : WideText} {x : CodePoint} (hslash : x ≠ .char '/')
    (hdot : x ≠ .char '.') : (∃ part ∈ w.normalParts, x ∈ part) ↔ x ∈ w.points := by
  rw [← Text.exists_mem_splitAt_iff hslash]
  refine exists_congr fun part => ?_
  rw [normalParts, List.mem_filter, and_assoc, and_congr_right_iff]
  refine fun _ => and_iff_right_of_imp fun hx => decide_eq_true ⟨?_, ?_⟩
  · rintro rfl
    cases hx
  · rintro rfl
    exact hdot (List.mem_singleton.1 hx)

/-- The normal form of a path keeps all points but slashes and dots. -/
theorem mem_normalPath_iff {w : WideText} {x : CodePoint} (hslash : x ≠ .char '/')
    (hdot : x ≠ .char '.') : x ∈ w.normalPath.points ↔ x ∈ w.points := by
  have hparts := mem_normalParts_iff hslash hdot (w := w)
  have hbody : x ∈ [CodePoint.char '/'].intercalate w.normalParts ↔ x ∈ w.points :=
    (Text.mem_intercalate_iff hslash w.normalParts).trans hparts
  unfold normalPath
  dsimp only
  split
  · split
    · rename_i hnone
      rw [hnone] at hparts
      refine iff_of_false (fun hx => hdot (List.mem_singleton.1 hx)) ?_
      rw [← hparts]
      exact nofun
    · exact hbody
  · simpa [hslash] using hbody
  · simpa [hslash] using hbody

def keptPieces (s : String) : List (List Char) :=
  (Text.splitAt '/' s.toList).filter fun piece => piece ≠ [] ∧ piece ≠ ['.']

theorem parts_ofString (s : String) :
    (Path.ofString s).parts = (keptPieces s).map String.ofList := by
  rw [Path.ofString, Path.components, List.filter_map]
  refine congrArg (List.map String.ofList) (List.filter_congr fun piece _ => ?_)
  have hdot : String.ofList piece = "." ↔ piece = ['.'] := by
    rw [← String.toList_inj, String.toList_ofList]
    rfl
  simp [hdot]

theorem normalParts_ofString (s : String) :
    (ofString s).normalParts = (keptPieces s).map (List.map .char) := by
  rw [normalParts, ofString, ofList, Text.splitAt_map CodePoint.char_injective, List.filter_map]
  refine congrArg (List.map (List.map CodePoint.char)) (List.filter_congr fun piece _ => ?_)
  have hdot : piece.map CodePoint.char = [.char '.'] ↔ piece = ['.'] := by
    simp [List.map_eq_singleton_iff]
  simp [hdot]

/-- The normal form of a text is that of the path that it is. -/
theorem normalPath_ofString (s : String) :
    (ofString s).normalPath = ofString (Path.ofString s).render := by
  have hbody : [CodePoint.char '/'].intercalate (ofString s).normalParts =
      ("/".intercalate (Path.ofString s).parts).toList.map .char := by
    rw [parts_ofString, normalParts_ofString, String.toList_intercalate, Text.map_intercalate]
    simp [Function.comp_def]
  have hempty : (ofString s).normalParts = [] ↔ (Path.ofString s).parts = [] := by
    rw [parts_ofString, normalParts_ofString, List.map_eq_nil_iff, List.map_eq_nil_iff]
  have hlead : (ofString s).points.takeWhile (· = .char '/') =
      (s.toList.takeWhile (· = '/')).map .char := by
    simp [ofString, ofList, List.takeWhile_map, Function.comp_def]
  rw [normalPath, Path.render, hlead, hbody]
  rcases hs : s.toList.takeWhile (· = '/') with _ | ⟨c₁, _ | ⟨c₂, _ | ⟨c₃, rest⟩⟩⟩
  · have hroot : (Path.ofString s).root = .relative := by simp only [Path.ofString, hs]
    by_cases hp : (Path.ofString s).parts = []
    · simp [hroot, hp, hempty.2 hp]
    · simp only [hroot, List.map_nil, if_neg hp, if_neg (mt hempty.1 hp)]
      rfl
  · have hroot : (Path.ofString s).root = .single := by simp only [Path.ofString, hs]
    simp [hroot, ofString, ofList]
  · have hroot : (Path.ofString s).root = .double := by simp only [Path.ofString, hs]
    simp [hroot, ofString, ofList]
  · have hroot : (Path.ofString s).root = .single := by simp only [Path.ofString, hs]
    simp [hroot, ofString, ofList]

end WideText

namespace Disk

variable {d : Disk} {place : Place} {e : DiskFault}

def followFaults : List DiskFault := [.notFound, .notDirectory, .nameTooLong]

theorem follow_eq_error {names : List String} (h : d.follow place names = .error e) :
    e ∈ followFaults := by
  fun_induction d.follow place names <;> simp_all [followFaults]

theorem followParts_eq_error {parts : List (List CodePoint)}
    (h : d.followParts place parts = .error e) : e ∈ followFaults := by
  induction parts generalizing place with
  | nil => cases h
  | cons part rest ih =>
    rw [followParts] at h
    split at h
    · rename_i name _
      cases hf : d.follow place [name] with
      | error e' =>
        rw [hf] at h
        cases h
        exact follow_eq_error hf
      | ok q =>
        rw [hf] at h
        exact ih h
    · split at h
      · cases h
        simp [followFaults]
      · cases h
        simp [followFaults]
      · split at h <;> cases h <;> simp [followFaults]

/-- A path is refused as one that no path can be exactly if it holds a NUL. -/
theorem locateWide_eq_error {w : WideText} (h : d.locateWide w = .error e) :
    if .char '\x00' ∈ w.points then e = .nulCharacter else e ∈ followFaults := by
  unfold locateWide at h
  split at h
  · rename_i hnul
    cases h
    rw [if_pos (by simpa using hnul)]
  · rename_i hnul
    rw [if_neg (by simpa using hnul)]
    split at h
    · cases h
      simp [followFaults]
    · split at h
      · cases h
        simp [followFaults]
      · exact followParts_eq_error h

theorem followParts_map (names : List (List Char)) :
    d.followParts place (names.map (List.map .char)) =
      d.follow place (names.map String.ofList) := by
  induction names generalizing place with
  | nil => rfl
  | cons name rest ih =>
    rw [List.map_cons, List.map_cons, followParts, CodePoint.name?_map_char,
      ← List.singleton_append, follow_append]
    dsimp only
    cases d.follow place [String.ofList name] with
    | error e => rfl
    | ok q => exact ih

theorem locateWide_ofString (s : String) : d.locateWide (.ofString s) = d.locate s := by
  have hnul : (WideText.ofString s).points.contains (.char '\x00') =
      s.toList.contains '\x00' := by
    rw [Bool.eq_iff_iff]
    simp [WideText.ofString, WideText.ofList]
  have hlength : ((WideText.ofString s).points.flatMap CodePoint.bytes).length =
      s.utf8ByteSize := by
    rw [WideText.ofString, WideText.ofList, CodePoint.length_bytes_map_char, String.ofList_toList]
  have hstart : (WideText.ofString s).points.head? = some (.char '/') ↔ s.startsWith "/" := by
    rw [String.startsWith_string_iff]
    cases hs : s.toList with
    | nil => simp [WideText.ofString, WideText.ofList, hs]
    | cons c cs => simp [WideText.ofString, WideText.ofList, hs, eq_comm]
  have hparts : Text.splitAt (.char '/') (WideText.ofString s).points =
      (Text.splitAt '/' s.toList).map (List.map .char) :=
    Text.splitAt_map CodePoint.char_injective '/' s.toList
  rw [locateWide, locate, hnul, hlength, WideText.isEmpty_ofString, hparts, followParts_map,
    if_congr hstart rfl rfl]
  simp only [decide_eq_true_eq, Path.components]

/-- The file of a path that is a text is the one that its normal form leads to. -/
theorem readNormal_ofString (s : String) :
    d.readNormal (.ofString s) =
      (d.read (Path.ofString s).render).mapError (DiskFault.failure (Path.ofString s).render) := by
  rw [readNormal, WideText.normalPath_ofString,
    CodePoint.unpassable?_eq_none_iff.2 (WideText.isPassable_ofString _), locateWide_ofString]
  rfl

end Disk

end CloudConf
