import CloudConf.Proofs.ProviderRuns
import CloudConf.Provider.Reading
import Mathlib.Data.List.Count
import Mathlib.Tactic.Common

/-! # The fields of the configuration and their places -/
namespace CloudConf
namespace Text

def openBehind (name : Option (List Char)) (lines : List (List Char)) : Option (List Char) :=
  (sectionNames lines).getLast?.or name

def entryKey? (line : List Char) : Option (List Char) :=
  match sectionName? line with
  | some _ => none
  | none => (keyValue? line).map (·.1)

theorem sectionName?_eq_some_iff {line name : List Char} :
    sectionName? line = some name ↔ line = '[' :: name ++ [']'] := by
  constructor
  · intro h
    unfold sectionName? at h
    split at h
    · rename_i rest
      split at h
      · rename_i hl
        obtain ⟨front, rfl⟩ := List.getLast?_eq_some_iff.1 hl
        cases h
        rw [List.dropLast_concat, List.cons_append]
      · cases h
    · cases h
  · rintro rfl
    simp [sectionName?]

theorem eq_append_of_keyValue? {line key value : List Char}
    (h : keyValue? line = some (key, value)) : line = key ++ ' ' :: '=' :: ' ' :: value := by
  fun_induction keyValue? line generalizing key with
  | case1 rest =>
    cases h
    rfl
  | case2 c rest _ ih =>
    obtain ⟨⟨k, v⟩, hk, he⟩ := Option.map_eq_some_iff.1 h
    cases he
    rw [ih hk, List.cons_append]
  | case3 => cases h

/-- A key without spaces is that of the lines that begin with it and an equals sign. -/
theorem entryKey?_eq_some_iff {line key : List Char} (hs : ' ' ∉ key) (hb : key.head? ≠ some '[')
    (hne : key ≠ []) :
    entryKey? line = some key ↔ key ++ [' ', '=', ' '] <+: line := by
  constructor
  · intro h
    unfold entryKey? at h
    split at h
    · cases h
    · obtain ⟨⟨k, value⟩, hk, rfl⟩ := Option.map_eq_some_iff.1 h
      exact ⟨value, by rw [eq_append_of_keyValue? hk, List.append_assoc]; rfl⟩
  · rintro ⟨value, rfl⟩
    obtain ⟨c, rest, rfl⟩ := List.exists_cons_of_ne_nil hne
    have hn : sectionName? (c :: rest ++ [' ', '=', ' '] ++ value) = none := by
      rw [Option.eq_none_iff_forall_ne_some]
      intro name h
      exact hb (congrArg List.head? (sectionName?_eq_some_iff.1 h))
    rw [entryKey?, hn, List.append_assoc]
    exact congrArg (Option.map _) (keyValue?_of_notMem value hs)

theorem openBehind_cons (name : Option (List Char)) (line : List Char) (rest : List (List Char)) :
    openBehind name (line :: rest) = openBehind ((sectionName? line).or name) rest := by
  cases h : sectionName? line with
  | none => simp [openBehind, sectionNames, h]
  | some opened =>
    simp only [openBehind, sectionNames, List.filterMap_cons, h, List.getLast?_cons]
    cases (rest.filterMap sectionName?).getLast? <;> rfl

theorem entriesIn_append (name : Option (List Char)) (first second : List (List Char)) :
    entriesIn name (first ++ second) =
      entriesIn name first ++ entriesIn (openBehind name first) second := by
  induction first generalizing name with
  | nil => rfl
  | cons line rest ih =>
    rw [List.cons_append, openBehind_cons]
    cases hs : sectionName? line with
    | some opened => simp [entriesIn, hs, ih]
    | none =>
      cases hk : keyValue? line with
      | none => simp [entriesIn, hs, hk, ih]
      | some e => simp [entriesIn, hs, hk, ih]

theorem map_key_entriesIn (name : Option (List Char)) (lines : List (List Char)) :
    (entriesIn name lines).map (·.key) = lines.filterMap entryKey? := by
  induction lines generalizing name with
  | nil => rfl
  | cons line rest ih =>
    cases hs : sectionName? line with
    | some opened => simp [entriesIn, entryKey?, hs, ih]
    | none =>
      cases hk : keyValue? line with
      | none => simp [entriesIn, entryKey?, hs, hk, ih]
      | some e => simp [entriesIn, entryKey?, hs, hk, ih]

theorem openBehind_mem (name : Option (List Char)) {lines : List (List Char)}
    (h : sectionNames lines ≠ []) : ∃ s ∈ sectionNames lines, openBehind name lines = some s := by
  refine ⟨(sectionNames lines).getLast h, List.getLast_mem h, ?_⟩
  simp [openBehind, List.getLast?_eq_some_getLast h]

theorem openBehind_of_eq_nil {name : Option (List Char)} {lines : List (List Char)}
    (h : sectionNames lines = []) : openBehind name lines = name := by
  simp [openBehind, h]

end Text

namespace Provider

open Text (SectionEntry entriesIn sectionNames sectionName? keyValue? openBehind entryKey?)

/-- The part of a value that stands on the line of its key. -/
def firstLine (value : String) : List Char := (Text.splitAt '\n' value.toList).headD []

/-- The lines that a value begins by its line breaks. -/
def strayLines (value : String) : List (List Char) := (Text.splitAt '\n' value.toList).tail

def regionPrefix : String := "region = "

def floatingPrefix : String := "floating-network-id = "

theorem splitAt_field {start : String} (value : String) (h : '\n' ∉ start.toList) :
    Text.splitAt '\n' (start ++ value).toList =
      (start.toList ++ firstLine value) :: strayLines value := by
  rw [String.toList_append, Text.splitAt_append_of_notMem _ h, firstLine, strayLines]
  obtain ⟨piece, pieces, hs⟩ := List.exists_cons_of_ne_nil (Text.splitAt_ne_nil '\n' value.toList)
  rw [hs]
  rfl

def floatingLines : Option (Option String) → List (List Char)
  | none => []
  | some id => [] :: loadBalancerHeader.toList ::
      (floatingPrefix.toList ++ firstLine (idText id)) :: strayLines (idText id)

private theorem splitAt_floatingLines (id : Option String) :
    (["", loadBalancerHeader, floatingPrefix ++ idText id].map String.toList).flatMap
      (Text.splitAt '\n') = floatingLines (some id) := by
  rw [List.map_cons, List.map_cons, List.map_singleton, List.flatMap_cons, List.flatMap_cons,
    List.flatMap_singleton, splitAt_field _ (by decide)]
  rfl

theorem linesOf_render (region : String) (hasCa : Bool) (floating : Option (Option String)) :
    linesOf (render region hasCa floating) =
      [globalHeader, "secret-name = openstack-credentials",
          "secret-namespace = kube-system"].map String.toList ++
        ((if region = "" then [] else [regionPrefix.toList ++ firstLine region]) ++
          strayLines region) ++ (if hasCa then [caFileLine.toList] else []) ++
        floatingLines floating := by
  have hg : ([globalHeader, "secret-name = openstack-credentials",
      "secret-namespace = kube-system"].map String.toList).flatMap (Text.splitAt '\n') =
      [globalHeader, "secret-name = openstack-credentials",
        "secret-namespace = kube-system"].map String.toList :=
    Text.flatMap_splitAt_of_notMem (by decide)
  have hr : ((if region = "" then [] else [regionPrefix ++ region]).map String.toList).flatMap
      (Text.splitAt '\n') =
      (if region = "" then [] else [regionPrefix.toList ++ firstLine region]) ++
        strayLines region := by
    split
    · rename_i h
      rw [h]
      rfl
    · rw [List.map_singleton, List.flatMap_singleton, splitAt_field _ (by decide)]
      rfl
  have hc : ((if hasCa then [caFileLine] else []).map String.toList).flatMap
      (Text.splitAt '\n') = if hasCa then [caFileLine.toList] else [] := by
    cases hasCa with
    | false => rfl
    | true => exact Text.flatMap_splitAt_of_notMem (by decide)
  have hl : lines region hasCa floating =
      [globalHeader, "secret-name = openstack-credentials", "secret-namespace = kube-system"] ++
        (if region = "" then [] else [regionPrefix ++ region]) ++
        (if hasCa then [caFileLine] else []) ++
        match floating with
        | none => []
        | some id => ["", loadBalancerHeader, floatingPrefix ++ idText id] := rfl
  rw [linesOf, render, String.toList_ofList, Text.splitAt_unlines, List.dropLast_concat, hl]
  simp only [List.map_append, List.flatMap_append]
  rw [hg, hr, hc]
  cases floating with
  | none => rfl
  | some id => rw [splitAt_floatingLines]

def globalSection : List Char := "Global".toList

def loadBalancerSection : List Char := "LoadBalancer".toList

/-- The entries of the load balancer, whatever section is open before them. -/
def floatingEntries : Option (Option String) → List SectionEntry
  | none => []
  | some id => ⟨some loadBalancerSection, "floating-network-id".toList, firstLine (idText id)⟩ ::
      entriesIn (some loadBalancerSection) (strayLines (idText id))

theorem entries_render (region : String) (hasCa : Bool) (floating : Option (Option String)) :
    entries (render region hasCa floating) =
      [⟨some globalSection, "secret-name".toList, "openstack-credentials".toList⟩,
          ⟨some globalSection, "secret-namespace".toList, "kube-system".toList⟩] ++
        ((if region = "" then []
            else [⟨some globalSection, "region".toList, firstLine region⟩]) ++
          (entriesIn (some globalSection) (strayLines region) ++
            ((if hasCa then [⟨openBehind (some globalSection) (strayLines region),
                "ca-file".toList, caBundleMount.toList⟩] else []) ++
              floatingEntries floating))) := by
  have hg : ∀ rest, entriesIn none ([globalHeader, "secret-name = openstack-credentials",
      "secret-namespace = kube-system"].map String.toList ++ rest) =
      [⟨some globalSection, "secret-name".toList, "openstack-credentials".toList⟩,
        ⟨some globalSection, "secret-namespace".toList, "kube-system".toList⟩] ++
        entriesIn (some globalSection) rest := fun _ => rfl
  have hr : ∀ rest, entriesIn (some globalSection)
      ((if region = "" then [] else [regionPrefix.toList ++ firstLine region]) ++ rest) =
      (if region = "" then [] else [⟨some globalSection, "region".toList, firstLine region⟩]) ++
        entriesIn (some globalSection) rest := by
    intro rest
    split <;> rfl
  have hc : ∀ name rest, entriesIn name ((if hasCa then [caFileLine.toList] else []) ++ rest) =
      (if hasCa then [⟨name, "ca-file".toList, caBundleMount.toList⟩] else []) ++
        entriesIn name rest := by
    intro name rest
    cases hasCa <;> rfl
  have hf : ∀ name, entriesIn name (floatingLines floating) = floatingEntries floating := by
    intro name
    cases floating <;> rfl
  rw [entries, linesOf_render]
  simp only [List.append_assoc]
  rw [hg, hr, Text.entriesIn_append, hc, hf]

def floatingSections : Option (Option String) → List (List Char)
  | none => []
  | some id => loadBalancerSection :: sectionNames (strayLines (idText id))

theorem sections_render (region : String) (hasCa : Bool) (floating : Option (Option String)) :
    sections (render region hasCa floating) =
      globalSection :: (sectionNames (strayLines region) ++ floatingSections floating) := by
  have hr : sectionNames (if region = "" then [] else [regionPrefix.toList ++ firstLine region]) =
      [] := by
    split <;> rfl
  have hc : sectionNames (if hasCa then [caFileLine.toList] else []) = [] := by
    cases hasCa <;> rfl
  have hf : sectionNames (floatingLines floating) = floatingSections floating := by
    cases floating <;> rfl
  have hg : sectionNames ([globalHeader, "secret-name = openstack-credentials",
      "secret-namespace = kube-system"].map String.toList) = [globalSection] := rfl
  rw [sections, linesOf_render]
  simp only [sectionNames, List.filterMap_append] at hg hr hc hf ⊢
  rw [hg, hr, hc, hf]
  simp

def occurrences (key config : String) : Nat := ((entries config).map (·.key)).count key.toList

def openings (name config : String) : Nat := (sections config).count name.toList

/-- All entries at a key are in one section. -/
def OnlyUnder (name key config : String) : Prop :=
  ∀ e ∈ entries config, e.key = key.toList → e.name = some name.toList

/-- Every field occurs once at most, in its section, and only if there is something to write. -/
structure FieldsInPlace (p : Profile) (network : WideText) (config : String) : Prop where
  secretName : occurrences "secret-name" config = 1
  secretNamespace : occurrences "secret-namespace" config = 1
  region : occurrences "region" config ≤ 1
  caFile : occurrences "ca-file" config ≤ 1
  floating : occurrences "floating-network-id" config ≤ 1
  global : ∀ key ∈ ["secret-name", "secret-namespace", "region", "ca-file"],
    OnlyUnder "Global" key config
  loadBalancer : OnlyUnder "LoadBalancer" "floating-network-id" config
  globalOnce : openings "Global" config ≤ 1
  loadBalancerOnce : openings "LoadBalancer" config ≤ 1
  regionSet : p.regionName = "" → occurrences "region" config = 0
  caFileSet : p.caCertFile = "" → occurrences "ca-file" config = 0
  networkSet : network.isEmpty →
    openings "LoadBalancer" config = 0 ∧ occurrences "floating-network-id" config = 0

def ownKeys : List String :=
  ["secret-name", "secret-namespace", "region", "ca-file", "floating-network-id"]

def ownSections : List String := ["Global", "LoadBalancer"]

/-- A line that would pass for one of the generator's own. -/
def IsForged (line : List Char) : Prop :=
  (∃ name ∈ ownSections, line = '[' :: name.toList ++ [']']) ∨
    ∃ key ∈ ownKeys, key.toList ++ [' ', '=', ' '] <+: line

theorem isForged_iff {line : List Char} :
    IsForged line ↔ (∃ name ∈ ownSections, sectionName? line = some name.toList) ∨
      ∃ key ∈ ownKeys, entryKey? line = some key.toList := by
  have hk : ∀ key ∈ ownKeys, ' ' ∉ key.toList ∧ key.toList.head? ≠ some '[' ∧ key.toList ≠ [] := by
    decide
  refine or_congr ?_ ?_
  · simp only [Text.sectionName?_eq_some_iff]
  · refine exists_congr fun key => and_congr_right fun hm => ?_
    obtain ⟨hs, hb, hne⟩ := hk key hm
    rw [Text.entryKey?_eq_some_iff hs hb hne]

def strayFloatingLines : Option (Option String) → List (List Char)
  | none => []
  | some id => strayLines (idText id)

def allStrayLines (p : Profile) (floating : Option (Option String)) : List (List Char) :=
  strayLines p.regionName ++ strayFloatingLines floating

/-- No value begins a line that passes for one of the generator's own, nor does the region open a
section in front of the CA file. -/
structure NothingForged (p : Profile) (floating : Option (Option String)) : Prop where
  own : ∀ line ∈ allStrayLines p floating, ¬ IsForged line
  caInGlobal : p.caCertFile ≠ "" → ∀ line ∈ strayLines p.regionName, sectionName? line = none

/-- The keys that the generator writes itself. -/
def writtenKeys (hasRegion hasCa hasFloating : Bool) : List String :=
  ["secret-name", "secret-namespace"] ++ (if hasRegion then ["region"] else []) ++
    (if hasCa then ["ca-file"] else []) ++ if hasFloating then ["floating-network-id"] else []

def writtenSections (hasFloating : Bool) : List String :=
  ["Global"] ++ if hasFloating then ["LoadBalancer"] else []

theorem count_toList_map (name : String) (names : List String) :
    (names.map String.toList).count name.toList = names.count name :=
  List.count_map_of_injective names _ (fun _ _ h => String.toList_inj.1 h) name

theorem occurrences_render (key region : String) (hasCa : Bool)
    (floating : Option (Option String)) :
    occurrences key (render region hasCa floating) =
      (writtenKeys (decide (region ≠ "")) hasCa floating.isSome).count key +
        ((strayLines region ++ strayFloatingLines floating).filterMap entryKey?).count
          key.toList := by
  have hg : ([SectionEntry.mk (some globalSection) "secret-name".toList
      "openstack-credentials".toList, ⟨some globalSection, "secret-namespace".toList,
      "kube-system".toList⟩].map (·.key)).count key.toList =
      ["secret-name", "secret-namespace"].count key :=
    count_toList_map key ["secret-name", "secret-namespace"]
  have hr : ((if region = "" then [] else [SectionEntry.mk (some globalSection) "region".toList
      (firstLine region)]).map (·.key)).count key.toList =
      (if decide (region ≠ "") then ["region"] else []).count key := by
    by_cases h : region = ""
    · simp [h]
    · rw [if_neg h, if_pos (decide_eq_true h)]
      exact count_toList_map key ["region"]
  have hc : ∀ name, ((if hasCa then [SectionEntry.mk name "ca-file".toList
      caBundleMount.toList] else []).map (·.key)).count key.toList =
      (if hasCa then ["ca-file"] else []).count key := by
    intro name
    cases hasCa with
    | false => rfl
    | true => exact count_toList_map key ["ca-file"]
  have hf : ((floatingEntries floating).map (·.key)).count key.toList =
      (if floating.isSome then ["floating-network-id"] else []).count key +
        ((strayFloatingLines floating).filterMap entryKey?).count key.toList := by
    cases floating with
    | none => rfl
    | some id =>
      rw [floatingEntries, List.map_cons, Text.map_key_entriesIn, ← List.singleton_append,
        List.count_append]
      exact congrArg (· + _) (count_toList_map key ["floating-network-id"])
  rw [occurrences, entries_render, writtenKeys]
  simp only [List.map_append, List.filterMap_append, List.count_append, Text.map_key_entriesIn]
  rw [hg, hr, hc, hf]
  omega

theorem openings_render (name region : String) (hasCa : Bool)
    (floating : Option (Option String)) :
    openings name (render region hasCa floating) =
      (writtenSections floating.isSome).count name +
        ((strayLines region ++ strayFloatingLines floating).filterMap sectionName?).count
          name.toList := by
  have hg : [globalSection].count name.toList = ["Global"].count name :=
    count_toList_map name ["Global"]
  have hf : (floatingSections floating).count name.toList =
      (if floating.isSome then ["LoadBalancer"] else []).count name +
        ((strayFloatingLines floating).filterMap sectionName?).count name.toList := by
    cases floating with
    | none => rfl
    | some id =>
      rw [floatingSections, ← List.singleton_append, List.count_append]
      exact congrArg (· + _) (count_toList_map name ["LoadBalancer"])
  rw [openings, sections_render, writtenSections, ← List.singleton_append]
  simp only [List.filterMap_append, List.count_append, sectionNames]
  rw [hg, hf]
  omega

/-- The generator itself writes every field and opens every section at most once, and the one of a
setting that is missing not at all. -/
theorem count_writtenKeys : ∀ hasRegion hasCa hasFloating : Bool,
    let keys := writtenKeys hasRegion hasCa hasFloating
    keys.count "secret-name" = 1 ∧ keys.count "secret-namespace" = 1 ∧
      keys.count "region" = hasRegion.toNat ∧ keys.count "ca-file" = hasCa.toNat ∧
      keys.count "floating-network-id" = hasFloating.toNat := by
  decide

theorem count_writtenSections : ∀ hasFloating : Bool,
    (writtenSections hasFloating).count "Global" = 1 ∧
      (writtenSections hasFloating).count "LoadBalancer" = hasFloating.toNat := by
  decide

section Iff

variable {p : Profile} {network : WideText} {floating : Option (Option String)}

def configOf (p : Profile) (floating : Option (Option String)) : String :=
  render p.regionName (decide (p.caCertFile ≠ "")) floating

def strayOccurrences (key : String) (p : Profile) (floating : Option (Option String)) : Nat :=
  ((allStrayLines p floating).filterMap entryKey?).count key.toList

def strayOpenings (name : String) (p : Profile) (floating : Option (Option String)) : Nat :=
  ((allStrayLines p floating).filterMap sectionName?).count name.toList

theorem occurrences_configOf (p : Profile) (floating : Option (Option String)) :
    occurrences "secret-name" (configOf p floating) =
      1 + strayOccurrences "secret-name" p floating ∧
    occurrences "secret-namespace" (configOf p floating) =
      1 + strayOccurrences "secret-namespace" p floating ∧
    occurrences "region" (configOf p floating) =
      (decide (p.regionName ≠ "")).toNat + strayOccurrences "region" p floating ∧
    occurrences "ca-file" (configOf p floating) =
      (decide (p.caCertFile ≠ "")).toNat + strayOccurrences "ca-file" p floating ∧
    occurrences "floating-network-id" (configOf p floating) =
      floating.isSome.toNat + strayOccurrences "floating-network-id" p floating := by
  obtain ⟨h₁, h₂, h₃, h₄, h₅⟩ := count_writtenKeys (decide (p.regionName ≠ ""))
    (decide (p.caCertFile ≠ "")) floating.isSome
  simp only [configOf, occurrences_render, h₁, h₂, h₃, h₄, h₅, strayOccurrences, allStrayLines,
    and_self]

theorem openings_configOf (p : Profile) (floating : Option (Option String)) :
    openings "Global" (configOf p floating) = 1 + strayOpenings "Global" p floating ∧
    openings "LoadBalancer" (configOf p floating) =
      floating.isSome.toNat + strayOpenings "LoadBalancer" p floating := by
  obtain ⟨h₁, h₂⟩ := count_writtenSections floating.isSome
  simp only [configOf, openings_render, h₁, h₂, strayOpenings, allStrayLines, and_self]

/-- Nothing is forged where no line that a value begins counts for a field or a section. -/
theorem forall_not_isForged_iff :
    (∀ line ∈ allStrayLines p floating, ¬ IsForged line) ↔
      (∀ key ∈ ownKeys, strayOccurrences key p floating = 0) ∧
        ∀ name ∈ ownSections, strayOpenings name p floating = 0 := by
  simp only [strayOccurrences, strayOpenings, List.count_eq_zero, List.mem_filterMap, not_exists,
    not_and]
  constructor
  · intro h
    refine ⟨?_, ?_⟩
    · intro key hk line hl he
      exact h line hl (isForged_iff.2 (.inr ⟨key, hk, he⟩))
    · intro name hn line hl he
      exact h line hl (isForged_iff.2 (.inl ⟨name, hn, he⟩))
  · rintro ⟨hk, hn⟩ line hl hf
    rcases isForged_iff.1 hf with ⟨name, hm, he⟩ | ⟨key, hm, he⟩
    · exact hn name hm line hl he
    · exact hk key hm line hl he

theorem notMem_ownKeys_of_mem_entriesIn {lines : List (List Char)} {name : Option (List Char)}
    {e : SectionEntry} (hl : ∀ line ∈ lines, ¬ IsForged line) (he : e ∈ entriesIn name lines) :
    ∀ key ∈ ownKeys, e.key ≠ key.toList := by
  intro key hk hn
  have hm : e.key ∈ lines.filterMap entryKey? := by
    rw [← Text.map_key_entriesIn name]
    exact List.mem_map_of_mem he
  obtain ⟨line, hline, hkey⟩ := List.mem_filterMap.1 hm
  exact hl line hline (isForged_iff.2 (.inr ⟨key, hk, hkey.trans (congrArg some hn)⟩))

theorem NothingForged.mem_entries (h : NothingForged p floating) {e : SectionEntry}
    (he : e ∈ entries (configOf p floating)) :
    e.name = some globalSection ∧ e.key ≠ "floating-network-id".toList ∨
      e.name = some loadBalancerSection ∧ e.key = "floating-network-id".toList ∨
      ∀ key ∈ ownKeys, e.key ≠ key.toList := by
  have hown := h.own
  simp only [allStrayLines, List.mem_append, or_imp, forall_and] at hown
  rw [configOf, entries_render] at he
  simp only [List.mem_append] at he
  rcases he with he | he | he | he | he
  · left
    rcases List.mem_cons.1 he with rfl | he
    · exact ⟨rfl, by decide⟩
    · obtain rfl := List.mem_singleton.1 he
      exact ⟨rfl, by decide⟩
  · left
    split at he
    · cases he
    · obtain rfl := List.mem_singleton.1 he
      exact ⟨rfl, (by decide : "region".toList ≠ "floating-network-id".toList)⟩
  · exact .inr (.inr (notMem_ownKeys_of_mem_entriesIn hown.1 he))
  · left
    split at he
    · rename_i hc
      obtain rfl := List.mem_singleton.1 he
      have hs : sectionNames (strayLines p.regionName) = [] := by
        rw [sectionNames, List.filterMap_eq_nil_iff]
        exact h.caInGlobal (of_decide_eq_true hc)
      exact ⟨Text.openBehind_of_eq_nil hs,
        (by decide : "ca-file".toList ≠ "floating-network-id".toList)⟩
    · cases he
  · cases floating with
    | none => cases he
    | some id =>
      rcases List.mem_cons.1 he with rfl | he
      · exact .inr (.inl ⟨rfl, rfl⟩)
      · exact .inr (.inr (notMem_ownKeys_of_mem_entriesIn hown.2 he))

theorem NothingForged.fieldsInPlace (hf : floating.isSome = !network.isEmpty)
    (h : NothingForged p floating) : FieldsInPlace p network (configOf p floating) := by
  obtain ⟨hk, hs⟩ := forall_not_isForged_iff.1 h.own
  obtain ⟨h₁, h₂, h₃, h₄, h₅⟩ := occurrences_configOf p floating
  obtain ⟨h₆, h₇⟩ := openings_configOf p floating
  rw [hk "secret-name" (by decide)] at h₁
  rw [hk "secret-namespace" (by decide)] at h₂
  rw [hk "region" (by decide)] at h₃
  rw [hk "ca-file" (by decide)] at h₄
  rw [hk "floating-network-id" (by decide)] at h₅
  rw [hs "Global" (by decide)] at h₆
  rw [hs "LoadBalancer" (by decide)] at h₇
  have hb := Bool.toNat_le
  refine
    { secretName := h₁
      secretNamespace := h₂
      region := h₃ ▸ hb _
      caFile := h₄ ▸ hb _
      floating := h₅ ▸ hb _
      global := ?_
      loadBalancer := ?_
      globalOnce := Nat.le_of_eq h₆
      loadBalancerOnce := h₇ ▸ hb _
      regionSet := fun hr => by simp [h₃, hr]
      caFileSet := fun hc => by simp [h₄, hc]
      networkSet := fun hn => by simp [h₅, h₇, hf, hn] }
  · intro key hm e he hkey
    rcases h.mem_entries he with ⟨hn, -⟩ | ⟨-, hl⟩ | ho
    · exact hn
    · have hne : ∀ key ∈ ["secret-name", "secret-namespace", "region", "ca-file"],
          key.toList ≠ "floating-network-id".toList := by decide
      exact absurd (hkey.symm.trans hl) (hne key hm)
    · have hsub : ∀ key ∈ ["secret-name", "secret-namespace", "region", "ca-file"],
          key ∈ ownKeys := by decide
      exact absurd hkey (ho key (hsub key hm))
  · intro e he hkey
    rcases h.mem_entries he with ⟨-, hn⟩ | ⟨hl, -⟩ | ho
    · exact absurd hkey hn
    · exact hl
    · exact absurd hkey (ho _ (by decide))

/-- What is there once at most, and not at all unless it is written, is not there for any other
reason. -/
private theorem stray_eq_zero {isWritten : Bool} {total stray : Nat}
    (h : total = isWritten.toNat + stray) (hle : total ≤ 1) (hz : isWritten = false → total = 0) :
    stray = 0 := by
  cases isWritten with
  | true =>
    rw [Bool.toNat_true] at h
    omega
  | false =>
    have := hz rfl
    omega

theorem FieldsInPlace.strayOpenings_eq_zero (hf : floating.isSome = !network.isEmpty)
    (h : FieldsInPlace p network (configOf p floating)) :
    ∀ name ∈ ownSections, strayOpenings name p floating = 0 := by
  obtain ⟨h₁, h₂⟩ := openings_configOf p floating
  have hglobal : strayOpenings "Global" p floating = 0 := by
    have := h.globalOnce
    omega
  have hbalancer : strayOpenings "LoadBalancer" p floating = 0 := by
    refine stray_eq_zero h₂ h.loadBalancerOnce ?_
    intro hn
    exact (h.networkSet (by simpa [hf] using hn)).1
  simp [ownSections, hglobal, hbalancer]

theorem FieldsInPlace.strayOccurrences_eq_zero (hf : floating.isSome = !network.isEmpty)
    (h : FieldsInPlace p network (configOf p floating)) :
    ∀ key ∈ ownKeys, strayOccurrences key p floating = 0 := by
  obtain ⟨h₁, h₂, h₃, h₄, h₅⟩ := occurrences_configOf p floating
  have hname : strayOccurrences "secret-name" p floating = 0 := by
    have := h.secretName
    omega
  have hspace : strayOccurrences "secret-namespace" p floating = 0 := by
    have := h.secretNamespace
    omega
  have hregion : strayOccurrences "region" p floating = 0 := by
    refine stray_eq_zero h₃ h.region ?_
    intro hr
    exact h.regionSet (by simpa using hr)
  have hca : strayOccurrences "ca-file" p floating = 0 := by
    refine stray_eq_zero h₄ h.caFile ?_
    intro hc
    exact h.caFileSet (by simpa using hc)
  have hfloating : strayOccurrences "floating-network-id" p floating = 0 := by
    refine stray_eq_zero h₅ h.floating ?_
    intro hn
    exact (h.networkSet (by simpa [hf] using hn)).2
  simp [ownKeys, hname, hspace, hregion, hca, hfloating]

/-- A section that the region opens takes the CA file out of its own. -/
theorem FieldsInPlace.caInGlobal (hs : strayOpenings "Global" p floating = 0)
    (h : FieldsInPlace p network (configOf p floating)) (hc : p.caCertFile ≠ "") :
    ∀ line ∈ strayLines p.regionName, sectionName? line = none := by
  rw [← List.filterMap_eq_nil_iff]
  by_contra hn
  obtain ⟨opened, hm, ho⟩ := Text.openBehind_mem (some globalSection) hn
  have he : SectionEntry.mk (some opened) "ca-file".toList caBundleMount.toList ∈
      entries (configOf p floating) := by
    rw [configOf, entries_render, ho, if_pos (decide_eq_true hc)]
    simp only [List.mem_append, List.mem_singleton, true_or, or_true]
  have hg : some opened = some "Global".toList := h.global "ca-file" (by decide) _ he rfl
  have hz : "Global".toList ∉ (allStrayLines p floating).filterMap sectionName? :=
    List.count_eq_zero.1 hs
  rw [allStrayLines, List.filterMap_append] at hz
  exact hz (List.mem_append_left _ (Option.some.inj hg ▸ hm))

theorem FieldsInPlace.nothingForged (hf : floating.isSome = !network.isEmpty)
    (h : FieldsInPlace p network (configOf p floating)) : NothingForged p floating := by
  have hs := h.strayOpenings_eq_zero hf
  have hk := h.strayOccurrences_eq_zero hf
  exact
    { own := forall_not_isForged_iff.2 ⟨hk, hs⟩
      caInGlobal := h.caInGlobal (hs "Global" (by decide)) }

end Iff

theorem strayLines_of_notMem {value : String} (h : '\n' ∉ value.toList) : strayLines value = [] := by
  rw [strayLines, Text.splitAt_of_notMem h, List.tail_cons]

theorem nothingForged_of_notMem {p : Profile} {floating : Option (Option String)}
    (hr : '\n' ∉ p.regionName.toList) (hi : ∀ id ∈ floating, '\n' ∉ (idText id).toList) :
    NothingForged p floating := by
  have hf : strayFloatingLines floating = [] := by
    cases floating with
    | none => rfl
    | some id => exact strayLines_of_notMem (hi id rfl)
  constructor
  · rw [allStrayLines, strayLines_of_notMem hr, hf]
    exact List.forall_mem_nil _
  · rw [strayLines_of_notMem hr]
    exact fun _ => List.forall_mem_nil _

/-- What a successful run generates has its fields in their places exactly if neither the region nor
the id of the network begins a line that passes for one of the generator's own; so it does whenever
both are free of line breaks. -/
theorem generate_fieldsInPlace_iff {p : Profile} {network : WideText} {resolve : Resolver}
    {read : FileReader} {j i : Journal} {artifact : Artifact}
    (h : (generate p network resolve read).runOn j = (.ok artifact, i)) :
    ∃ floating : Option (Option String),
      artifact.config = configOf p floating ∧ floating.isSome = !network.isEmpty ∧
      (∀ id ∈ floating, resolve.Gives network id) ∧
      (FieldsInPlace p network artifact.config ↔ NothingForged p floating) ∧
      ('\n' ∉ p.regionName.toList → (∀ id ∈ floating, '\n' ∉ (idText id).toList) →
        FieldsInPlace p network artifact.config) := by
  obtain ⟨floating, hc, hf, hg, -⟩ := generate_eq_ok h
  have hiff : FieldsInPlace p network artifact.config ↔ NothingForged p floating := by
    rw [hc]
    exact ⟨FieldsInPlace.nothingForged hf, NothingForged.fieldsInPlace hf⟩
  exact ⟨floating, hc, hf, hg, hiff, fun hr hi => hiff.2 (nothingForged_of_notMem hr hi)⟩

theorem generate_fieldsInPlace_regionOne :
    ∃ artifact i, (generate { regionName := "RegionOne", caCertFile := "/etc/ca.pem" }
        (.ofString "net1") (fun _ => pure (some "id-123")) fun _ => pure ByteArray.empty).runOn
          ⟨[], []⟩ = (.ok artifact, i) ∧
      FieldsInPlace { regionName := "RegionOne", caCertFile := "/etc/ca.pem" } (.ofString "net1")
        artifact.config := by
  refine ⟨_, _, rfl, ?_⟩
  have hrun : (generate { regionName := "RegionOne", caCertFile := "/etc/ca.pem" }
      (.ofString "net1") (fun _ => pure (some "id-123")) fun _ => pure ByteArray.empty).runOn
        ⟨[], []⟩ = (.ok _, _) := rfl
  obtain ⟨floating, -, -, hg, -, hp⟩ := generate_fieldsInPlace_iff hrun
  refine hp (by decide) ?_
  intro id hid
  obtain ⟨_, _, he⟩ := hg id hid
  cases he
  decide

/-- A region whose second line is an entry of its own. -/
theorem generate_not_fieldsInPlace_brokenRegion :
    ∃ artifact i, (generate { regionName := "a\nregion = b" } (.ofString "")
        (fun _ => pure none) fun _ => pure ByteArray.empty).runOn ⟨[], []⟩ = (.ok artifact, i) ∧
      ¬ FieldsInPlace { regionName := "a\nregion = b" } (.ofString "") artifact.config := by
  refine ⟨_, _, rfl, ?_⟩
  intro h
  have hr := h.region
  revert hr
  decide

end Provider
end CloudConf
