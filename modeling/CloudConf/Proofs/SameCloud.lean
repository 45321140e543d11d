import CloudConf.Proofs.ProviderFields
import CloudConf.Proofs.SecretReading

/-! # The configuration and the secret describe the same cloud -/
namespace CloudConf

open Text (SectionEntry)

namespace Credentials

def Content.setting? (content : Content) (key : String) : Option String :=
  (content.fields.find? (·.1 = key)).map (·.2)

theorem setting?_region (p : Profile) (namesCaFile : Bool) :
    Content.setting? ⟨fields p, namesCaFile⟩ "region" =
      if p.regionName = "" then none else some p.regionName := by
  by_cases h : p.regionName = ""
  · simp [Content.setting?, fields, allFields, List.find?_filter, h]
  · simp [Content.setting?, fields, allFields, List.find?_filter, h]

theorem getD_setting?_region (p : Profile) (namesCaFile : Bool) :
    (Content.setting? ⟨fields p, namesCaFile⟩ "region").getD "" = p.regionName := by
  rw [setting?_region]
  split
  · exact Eq.symm ‹_›
  · rfl

end Credentials

namespace Provider

theorem newline_notMem_firstLine (value : String) : '\n' ∉ firstLine value := by
  obtain ⟨piece, pieces, hs⟩ := List.exists_cons_of_ne_nil (Text.splitAt_ne_nil '\n' value.toList)
  rw [firstLine, hs]
  exact Text.notMem_of_mem_splitAt (hs ▸ List.mem_cons_self)

/-- A value stays on the line of its key exactly if it is free of line breaks. -/
theorem firstLine_eq_iff {value : String} :
    firstLine value = value.toList ↔ '\n' ∉ value.toList := by
  constructor
  · intro h
    exact h ▸ newline_notMem_firstLine value
  · intro h
    rw [firstLine, Text.splitAt_of_notMem h]
    rfl

/-- The entries for a region and for a CA file, behind the two that point to the secret. -/
def globalEntries (region : Option String) (namesCaFile : Bool) : List SectionEntry :=
  [⟨some globalSection, "secret-name".toList, "openstack-credentials".toList⟩,
    ⟨some globalSection, "secret-namespace".toList, "kube-system".toList⟩] ++
  ((region.toList.map fun r => ⟨some globalSection, "region".toList, r.toList⟩) ++
    if namesCaFile then [⟨some globalSection, "ca-file".toList, caBundleMount.toList⟩] else [])

def balancerEntries (id : Option String) : List SectionEntry :=
  id.toList.map fun i => ⟨some loadBalancerSection, "floating-network-id".toList, i.toList⟩

/-- What a configuration says if it says what a secret does, and the id of a network. -/
def described (content : Credentials.Content) (id : Option String) : List SectionEntry :=
  globalEntries (content.setting? "region") content.namesCaFile ++ balancerEntries id

def valuesAt (key : String) (es : List SectionEntry) : List (List Char) :=
  (es.filter (·.key = key.toList)).map (·.value)

theorem described_inj {content content' : Credentials.Content} {id id' : Option String} :
    described content id = described content' id' ↔
      content.setting? "region" = content'.setting? "region" ∧
        content.namesCaFile = content'.namesCaFile ∧ id = id' := by
  have hvalues : ∀ (region id : Option String) (namesCaFile : Bool),
      let es := globalEntries region namesCaFile ++ balancerEntries id
      (valuesAt "region" es).head? = region.map String.toList ∧
        (valuesAt "ca-file" es).head?.isSome = namesCaFile ∧
        (valuesAt "floating-network-id" es).head? = id.map String.toList := by
    intro region id namesCaFile
    cases region <;> cases id <;> cases namesCaFile <;> exact ⟨rfl, rfl, rfl⟩
  have hinj : Function.Injective (Option.map String.toList) :=
    Option.map_injective fun _ _ h => String.toList_inj.1 h
  constructor
  · intro h
    obtain ⟨hr, hc, hi⟩ := hvalues (content.setting? "region") id content.namesCaFile
    obtain ⟨hr', hc', hi'⟩ := hvalues (content'.setting? "region") id' content'.namesCaFile
    rw [described, described] at h
    simp only [h] at hr hc hi
    exact ⟨hinj (hr.symm.trans hr'), hc.symm.trans hc', hinj (hi.symm.trans hi')⟩
  · rintro ⟨hr, hc, rfl⟩
    rw [described, described, hr, hc]

theorem floatingEntries_eq_iff {floating : Option (Option String)} :
    floatingEntries floating = balancerEntries (floating.map idText) ↔
      ∀ id ∈ floating, '\n' ∉ (idText id).toList := by
  cases floating with
  | none => simp [floatingEntries, balancerEntries]
  | some id =>
    simp only [floatingEntries, balancerEntries, Option.map_some, Option.toList_some,
      List.map_cons, List.map_nil, Option.mem_def, Option.some.injEq, forall_eq']
    constructor
    · intro h
      have he := (List.cons.inj h).1
      exact firstLine_eq_iff.1 (congrArg SectionEntry.value he)
    · intro h
      rw [firstLine_eq_iff.2 h, strayLines_of_notMem h]
      rfl

/-- Ids that are written alike make the same lines. -/
theorem render_congr {floating floating' : Option (Option String)}
    (h : floating.map idText = floating'.map idText) (region : String) (hasCa : Bool) :
    render region hasCa floating = render region hasCa floating' := by
  cases floating with
  | none =>
    cases floating' with
    | none => rfl
    | some id' => cases h
  | some id =>
    cases floating' with
    | none => cases h
    | some id' =>
      have hid : idText id = idText id' := Option.some.inj h
      simp only [render, lines, hid]

section Profile

variable {p : Profile} {floating : Option (Option String)}

def contentOf (p : Profile) : Credentials.Content :=
  ⟨Credentials.fields p, decide (p.caCertFile ≠ "")⟩

theorem entries_configOf_of_notMem (h : '\n' ∉ p.regionName.toList) :
    entries (configOf p floating) =
      globalEntries ((contentOf p).setting? "region") (contentOf p).namesCaFile ++
        floatingEntries floating := by
  have hnone : Text.entriesIn (some globalSection) [] = [] := rfl
  have hopen : Text.openBehind (some globalSection) [] = some globalSection := rfl
  rw [configOf, entries_render, contentOf, Credentials.setting?_region, strayLines_of_notMem h,
    firstLine_eq_iff.2 h, hnone, hopen, globalEntries]
  by_cases hr : p.regionName = ""
  · simp only [if_pos hr, Option.toList_none, List.map_nil, List.nil_append, List.append_assoc]
  · simp only [if_neg hr, Option.toList_some, List.map_cons, List.map_nil, List.nil_append,
      List.append_assoc]

/-- The configuration says what the secret does, and the id, exactly if both are free of line
breaks. -/
theorem entries_configOf_eq_iff :
    entries (configOf p floating) = described (contentOf p) (floating.map idText) ↔
      '\n' ∉ p.regionName.toList ∧ ∀ id ∈ floating, '\n' ∉ (idText id).toList := by
  by_cases hn : '\n' ∈ p.regionName.toList
  · -- The third entry of the configuration has the first line of the region, not all of it.
    have hr : p.regionName ≠ "" := by
      intro he
      rw [he] at hn
      cases hn
    refine iff_of_false (fun h => ?_) (fun h => h.1 hn)
    rw [configOf, entries_render, described, contentOf, Credentials.setting?_region, globalEntries,
      if_neg hr, if_neg hr] at h
    simp only [List.append_assoc, List.append_cancel_left_eq] at h
    have hthird := (List.cons.inj h).1
    exact firstLine_eq_iff.1 (congrArg SectionEntry.value hthird) hn
  · rw [entries_configOf_of_notMem hn, described, List.append_cancel_left_eq,
      floatingEntries_eq_iff]
    exact (and_iff_right hn).symm

end Profile

structure Generation where
  profile : Profile
  network : WideText
  resolve : Resolver
  read : FileReader
  start : Journal
  finish : Journal
  artifact : Artifact
  succeeds : (generate profile network resolve read).runOn start = (.ok artifact, finish)

namespace Generation

/-- The id that the resolver has given in the run, if it was asked for one. -/
def floating (g : Generation) : Option (Option String) :=
  match (findFloating g.resolve g.network).runOn
    ((readCaBundle g.read g.profile.caCertFile).runOn g.start).2 with
  | (.ok floating, _) => floating
  | (.error _, _) => none

def id? (g : Generation) : Option String := g.floating.map idText

/-- Neither the region nor the id begins a line of its own. -/
def KeepsLines (g : Generation) : Prop :=
  '\n' ∉ g.profile.regionName.toList ∧ ∀ id ∈ g.id?, '\n' ∉ id.toList

theorem artifact_eq (g : Generation) :
    g.artifact.config = configOf g.profile g.floating ∧
      g.artifact.caBundle.isSome = decide (g.profile.caCertFile ≠ "") ∧
      g.floating.isSome = !g.network.isEmpty ∧
      ∀ id ∈ g.floating, g.resolve.Gives g.network id := by
  obtain ⟨p, network, resolve, read, j, i, artifact, h⟩ := g
  obtain ⟨bundle, i₁, hb, h⟩ := Action.runOn_bind_eq_ok h
  obtain ⟨found, i₂, hf, h⟩ := Action.runOn_bind_eq_ok h
  cases h
  obtain ⟨hs, -⟩ := readCaBundle_eq_ok hb
  obtain ⟨hn, hg⟩ := findFloating_eq_ok hf
  simp only [floating, hb, hf]
  exact ⟨by rw [configOf, hs], hs, hn, hg⟩

theorem keepsLines_iff (g : Generation) :
    g.KeepsLines ↔ '\n' ∉ g.profile.regionName.toList ∧
      ∀ id ∈ g.floating, '\n' ∉ (idText id).toList := by
  rw [KeepsLines, id?]
  cases g.floating with
  | none => simp
  | some id => simp

theorem entries_eq_iff (g : Generation) :
    entries g.artifact.config = described (contentOf g.profile) g.id? ↔ g.KeepsLines := by
  rw [g.artifact_eq.1, id?, entries_configOf_eq_iff, keepsLines_iff]

/-- A configuration hangs on nothing but the region, whether there is a CA file, and the id as it
is written out. -/
theorem config_congr {g g' : Generation} (hr : g.profile.regionName = g'.profile.regionName)
    (hc : g.profile.caCertFile = "" ↔ g'.profile.caCertFile = "") (hi : g.id? = g'.id?) :
    g.artifact.config = g'.artifact.config := by
  rw [g.artifact_eq.1, g'.artifact_eq.1, configOf, configOf, hr, render_congr hi]
  simp only [ne_eq, hc]

theorem config_inj {g g' : Generation} (hk : g.KeepsLines) (hk' : g'.KeepsLines)
    (h : g.artifact.config = g'.artifact.config) :
    g.profile.regionName = g'.profile.regionName ∧
      (g.profile.caCertFile = "" ↔ g'.profile.caCertFile = "") ∧ g.id? = g'.id? := by
  have he := g.entries_eq_iff.2 hk
  rw [h, g'.entries_eq_iff.2 hk', described_inj] at he
  obtain ⟨hr, hc, hi⟩ := he
  refine ⟨?_, ?_, hi.symm⟩
  · have hregion := congrArg (Option.getD · "") hr
    simpa only [contentOf, Credentials.getD_setting?_region, eq_comm] using hregion
  · simpa [contentOf, not_iff_not, iff_comm] using hc

/-- A successful run has a CA bundle exactly if the secret of its profile names a CA file, and an id
exactly if a network is named. Its configuration says what the secret does about the region and the
CA file, and the id, exactly if neither the region nor the id has a line break; and of two such runs
the configurations are the same exactly if all this is. -/
theorem config_describes_secret :
    (∀ g : Generation, ∃ content : Credentials.Content,
      (String.fromUTF8? (Credentials.render g.profile).toUTF8).bind Credentials.read =
        some content ∧
      (g.artifact.caBundle.isSome ↔ content.namesCaFile) ∧
      (g.id?.isSome ↔ ¬ g.network.isEmpty) ∧
      (∀ id ∈ g.floating, g.resolve.Gives g.network id) ∧
      (entries g.artifact.config = described content g.id? ↔
        '\n' ∉ g.profile.regionName.toList ∧ ∀ id ∈ g.id?, '\n' ∉ id.toList)) ∧
    ∀ g g' : Generation, g.KeepsLines → g'.KeepsLines →
      (g.artifact.config = g'.artifact.config ↔
        g.profile.regionName = g'.profile.regionName ∧
          (g.profile.caCertFile = "" ↔ g'.profile.caCertFile = "") ∧ g.id? = g'.id?) := by
  refine ⟨?_, ?_⟩
  · intro g
    obtain ⟨-, hs, hn, hg⟩ := g.artifact_eq
    refine ⟨contentOf g.profile, ?_, ?_, ?_, hg, g.entries_eq_iff⟩
    · rw [Text.Utf8.fromUTF8?_toUTF8, Option.bind_some, Credentials.read_render]
      rfl
    · rw [hs]
      rfl
    · simp [id?, hn]
  · intro g g' hk hk'
    exact ⟨config_inj hk hk', fun ⟨hr, hc, hi⟩ => config_congr hr hc hi⟩

/-- A region that looks like a section and an entry is told by both files, and other credentials,
names and CA files make no other configuration. -/
theorem config_describes_secret_bracketRegion :
    ∃ g g' : Generation,
      g.profile = { regionName := "[x] = y", caCertFile := "/ca.pem", password := "one" } ∧
      g'.profile = { regionName := "[x] = y", caCertFile := "ca.pem", username := "two" } ∧
      g.network = .ofString "net1" ∧ g'.network = .ofString "net2" ∧
      g.KeepsLines ∧ g'.KeepsLines ∧ g.artifact.config = g'.artifact.config ∧
      ∃ content : Credentials.Content,
        (String.fromUTF8? (Credentials.render g.profile).toUTF8).bind Credentials.read =
          some content ∧
        entries g.artifact.config = described content (some "id 1") := by
  let g : Generation :=
    { profile := { regionName := "[x] = y", caCertFile := "/ca.pem", password := "one" }
      network := .ofString "net1"
      resolve := fun _ => pure (some "id 1")
      read := fun _ => pure ByteArray.empty
      start := ⟨[], []⟩
      finish := _
      artifact := _
      succeeds := rfl }
  let g' : Generation :=
    { profile := { regionName := "[x] = y", caCertFile := "ca.pem", username := "two" }
      network := .ofString "net2"
      resolve := fun _ => pure (some "id 1")
      read := fun _ => pure ⟨#[1]⟩
      start := ⟨[], []⟩
      finish := _
      artifact := _
      succeeds := rfl }
  have hk : g.KeepsLines := ⟨by decide, fun id hid => by cases hid; decide⟩
  have hk' : g'.KeepsLines := ⟨by decide, fun id hid => by cases hid; decide⟩
  obtain ⟨content, hread, -, -, -, hentries⟩ := config_describes_secret.1 g
  refine ⟨g, g', rfl, rfl, rfl, rfl, hk, hk', ?_, content, hread, hentries.2 hk⟩
  exact (config_describes_secret.2 g g' hk hk').2 ⟨rfl, by decide, rfl⟩

/-- With line breaks, a region alone can make what a region and an id make. -/
example : render "a\n\n[LoadBalancer]\nfloating-network-id = x" false none =
    render "a" false (some (some "x")) := by decide +kernel

end Generation

end Provider
end CloudConf
