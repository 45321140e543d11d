import CloudConf.Disk.Listing
import CloudConf.Proofs.ProviderRuns
import CloudConf.Proofs.TreeChanges
import CloudConf.Proofs.WidePaths

/-! # How a CA file that cannot be read is reported -/
namespace CloudConf

/-- A text that the system takes for a path: it holds no NUL, and no surrogates but those that stand
for one byte each. -/
structure WideText.CanBePath (w : WideText) : Prop where
  passable : ∀ p ∈ w.points, p.isPassable
  nul_notMem : .char '\x00' ∉ w.points

theorem WideText.forall_isPassable_normalPath_iff {w : WideText} :
    (∀ p ∈ w.normalPath.points, p.isPassable) ↔ ∀ p ∈ w.points, p.isPassable := by
  refine forall_congr' fun p => ?_
  by_cases hp : p.isPassable
  · simp [hp]
  · refine imp_congr_left (mem_normalPath_iff ?_ ?_)
    · rintro rfl
      exact hp rfl
    · rintro rfl
      exact hp rfl

namespace Disk

variable {d : Disk} {path : WideText} {content : ByteArray}

/-- The path can be handed to the system and leads, in its normal form, to a file with the content. -/
def HasFile (d : Disk) (path : WideText) (content : ByteArray) : Prop :=
  CodePoint.unpassable? 0 path.normalPath.points = none ∧
    ∃ place mode, d.locateWide path.normalPath = .ok place ∧
      d.node? place = some (.file content mode)

/-- For a path that is a text, this is what its normal form leads to. -/
theorem hasFile_ofString_iff {s : String} :
    d.HasFile s content ↔ ∃ place mode, d.locate (Path.ofString s).render = .ok place ∧
      d.node? place = some (.file content mode) := by
  rw [HasFile, WideText.normalPath_ofString, locateWide_ofString]
  exact and_iff_right (CodePoint.unpassable?_eq_none_iff.2 (WideText.isPassable_ofString _))

theorem HasFile.canBePath (h : d.HasFile path content) : path.CanBePath := by
  obtain ⟨hpassable, place, mode, hl, -⟩ := h
  rw [CodePoint.unpassable?_eq_none_iff, WideText.forall_isPassable_normalPath_iff] at hpassable
  refine ⟨hpassable, fun hnul => ?_⟩
  rw [← WideText.mem_normalPath_iff (by decide) (by decide)] at hnul
  rw [locateWide, if_pos (by simpa using hnul)] at hl
  cases hl

theorem HasFile.readNormal (h : d.HasFile path content) : d.readNormal path = .ok content := by
  obtain ⟨hpassable, place, mode, hl, hn⟩ := h
  rw [Disk.readNormal, hpassable, hl]
  simp only [bind, Except.bind, contentOf, hn, Except.mapError]

theorem isSystem_failure (path : WideText) {e : DiskFault} (h : e ∈ .isDirectory :: followFaults) :
    (e.failure path).isSystem = true := by
  simp only [followFaults, List.mem_cons, List.not_mem_nil, or_false] at h
  rcases h with rfl | rfl | rfl | rfl <;> rfl

theorem readNormal_of_unpassable {p : CodePoint} (hp : p ∈ path.points) (h : ¬ p.isPassable) :
    ∃ place run, CodePoint.unpassable? 0 path.normalPath.points = some (place, run) ∧
      d.readNormal path = .error (CodePoint.refusal place run) := by
  cases hu : CodePoint.unpassable? 0 path.normalPath.points with
  | none =>
    rw [CodePoint.unpassable?_eq_none_iff, WideText.forall_isPassable_normalPath_iff] at hu
    exact absurd (hu p hp) h
  | some found => exact ⟨found.1, found.2, rfl, by rw [readNormal, hu]⟩

theorem readNormal_of_nul (hpassable : ∀ p ∈ path.points, p.isPassable)
    (hnul : .char '\x00' ∈ path.points) :
    d.readNormal path = .error (.alone (.plain .value) "embedded null byte") := by
  rw [← WideText.forall_isPassable_normalPath_iff, ← CodePoint.unpassable?_eq_none_iff (n := 0)]
    at hpassable
  rw [← WideText.mem_normalPath_iff (by decide) (by decide)] at hnul
  rw [readNormal, hpassable, locateWide, if_pos (by simpa using hnul)]
  rfl

theorem readNormal_of_not_canBePath (h : ¬ path.CanBePath) :
    ∃ f, d.readNormal path = .error f ∧ ¬ f.isSystem := by
  by_cases hpassable : ∀ p ∈ path.points, p.isPassable
  · have hnul : .char '\x00' ∈ path.points := by_contra fun hn => h ⟨hpassable, hn⟩
    exact ⟨_, readNormal_of_nul hpassable hnul, nofun⟩
  · simp only [not_forall] at hpassable
    obtain ⟨p, hp, hp'⟩ := hpassable
    obtain ⟨place, refused, -, hr⟩ := readNormal_of_unpassable hp hp'
    exact ⟨_, hr, nofun⟩

/-- A file is read through the normal form of its path, or the operating system tells why it is
not. -/
theorem readNormal_of_canBePath (d : Disk) (h : path.CanBePath) :
    (∃ content, d.HasFile path content ∧ d.readNormal path = .ok content) ∨
      ∃ f, d.readNormal path = .error f ∧ f.isSystem = true := by
  have hpassable := CodePoint.unpassable?_eq_none_iff (n := 0).2
    (WideText.forall_isPassable_normalPath_iff.2 h.passable)
  have hnul := mt (WideText.mem_normalPath_iff (by decide) (by decide)).1 h.nul_notMem
  have hfault {e : DiskFault} (he : e ∈ .isDirectory :: followFaults)
      (hr : (do d.contentOf (← d.locateWide path.normalPath)) = .error e) :
      ∃ f, d.readNormal path = .error f ∧ f.isSystem = true :=
    ⟨e.failure path.normalPath, by rw [readNormal, hpassable, hr, Except.mapError],
      isSystem_failure _ he⟩
  cases hl : d.locateWide path.normalPath with
  | error e =>
    have he := locateWide_eq_error hl
    rw [if_neg hnul] at he
    exact .inr (hfault (List.mem_cons_of_mem _ he) (by rw [hl]; rfl))
  | ok place =>
    cases hn : d.node? place with
    | none =>
      refine .inr (hfault (e := .notFound) (by simp [followFaults]) ?_)
      rw [hl]
      simp only [bind, Except.bind, contentOf, hn]
    | some n =>
      cases n with
      | directory =>
        refine .inr (hfault (e := .isDirectory) (by simp) ?_)
        rw [hl]
        simp only [bind, Except.bind, contentOf, hn]
      | file content mode =>
        have hfile : d.HasFile path content := ⟨hpassable, place, mode, hl, hn⟩
        exact .inl ⟨content, hfile, hfile.readNormal⟩

end Disk

namespace Provider

open CloudConf.Action

variable {p : Profile} {network : WideText} {resolve : Resolver} {read : FileReader}
  {j i : Journal}

def diskReader (d : Disk) : FileReader := fun path => Action.ofExcept (d.readNormal path)

theorem runOn_diskReader {d : Disk} {path : WideText} {r : Except Failure ByteArray}
    (h : d.readNormal path = r) (j : Journal) : (diskReader d path).runOn j = (r, j) := by
  rw [diskReader, runOn_ofExcept, h]

def readEntry (path : WideText) : LogEntry := ⟨.debug, .provider, s!"Read CA bundle from {path}"⟩

def unreadEntry (path : WideText) : LogEntry :=
  ⟨.error, .provider, s!"Unable to read CA certificate file {path}"⟩

def unreadable (f : Failure) : Failure :=
  .because (.stage .caBundle) "failed to read clouds.yaml ca-cert from disk" f

/-- Behind a CA file that was read there is only the look-up to fail. -/
theorem runOn_generate_of_read {content : ByteArray} (h : p.caCertFile ≠ "")
    (hr : (read p.caCertFile).runOn j = (.ok content, i)) :
    (generate p network resolve read).runOn j =
      match (findFloating resolve network).runOn
        { i with log := i.log ++ [readEntry p.caCertFile] } with
      | (.ok floating, i') => (.ok ⟨render p.regionName true floating, some content⟩, i')
      | (.error f, i') => (.error f, i') := by
  have hread : (readCaBundle read p.caCertFile).runOn j =
      (.ok (some content), { i with log := i.log ++ [readEntry p.caCertFile] }) := by
    rw [readCaBundle, if_neg h, runOn_bind, runOn_within, hr]
    rfl
  rw [generate, runOn_bind_ok hread, runOn_bind]
  obtain ⟨r, i'⟩ := (findFloating resolve network).runOn
    { i with log := i.log ++ [readEntry p.caCertFile] }
  cases r with
  | ok floating => rfl
  | error f => rfl

/-- A CA file that cannot be read ends the generation before anything is looked up. -/
theorem runOn_generate_of_failure {f : Failure} (h : p.caCertFile ≠ "")
    (hr : (read p.caCertFile).runOn j = (.error f, i)) :
    (generate p network resolve read).runOn j =
      if f.isSystem then
        (.error (unreadable f), { i with log := i.log ++ [unreadEntry p.caCertFile] })
      else (.error f, i) := by
  rw [generate, runOn_bind, readCaBundle, if_neg h, runOn_bind, runOn_within, hr]
  by_cases hf : f.isSystem
  · simp only [hf, if_true]
    rfl
  · simp only [hf, if_false, Bool.false_eq_true]

/-- A look-up fails with a failure of its stage, or because it was told to stop. -/
theorem findFloating_eq_error {f : Failure}
    (h : (findFloating resolve network).runOn j = (.error f, i)) :
    f.kind = .stage .lookup ∨ f.isSignal = true := by
  unfold findFloating at h
  split at h
  · cases h
  · rw [runOn_bind, runOn_within] at h
    cases hr : (resolve network).runOn j with
    | mk r i' =>
      rw [hr] at h
      cases r with
      | ok id => cases h
      | error g =>
        by_cases hg : g.isSignal
        · simp only [hg, Bool.not_true, Bool.false_eq_true, if_false] at h
          cases h
          exact .inr hg
        · simp only [hg, Bool.not_false, if_true] at h
          cases h
          exact .inl rfl

/-- A run with a CA file that is there: the artifact has the content of the file, and only the
look-up can fail. -/
structure BundlesFile (content : ByteArray) (network : WideText)
    (result : Except Failure Artifact) : Prop where
  bundled : ∀ artifact, result = .ok artifact → artifact.caBundle = some content
  looksUp : ∀ f, result = .error f → f.kind = .stage .lookup ∨ f.isSignal = true
  succeeds : network.isEmpty = true → ∃ artifact, result = .ok artifact

theorem bundlesFile_of_read {content : ByteArray} (h : p.caCertFile ≠ "")
    (hr : (read p.caCertFile).runOn j = (.ok content, i)) :
    BundlesFile content network ((generate p network resolve read).runOn j).1 := by
  rw [runOn_generate_of_read h hr]
  cases hf : (findFloating resolve network).runOn
      { i with log := i.log ++ [readEntry p.caCertFile] } with
  | mk r i' =>
    cases r with
    | ok floating =>
      refine ⟨?_, nofun, fun _ => ⟨_, rfl⟩⟩
      rintro artifact ⟨⟩
      rfl
    | error f =>
      refine ⟨nofun, ?_, fun hn => ?_⟩
      · rintro g ⟨⟩
        exact findFloating_eq_error hf
      · rw [findFloating, if_pos hn] at hf
        cases hf

/-- What fails with no failure of the system is not reported. -/
theorem runOn_generate_of_readNormal {d : Disk} {f : Failure} (h : p.caCertFile ≠ "")
    (hr : d.readNormal p.caCertFile = .error f) (hf : ¬ f.isSystem) :
    (generate p network resolve (diskReader d)).runOn j = (.error f, j) := by
  rw [runOn_generate_of_failure h (runOn_diskReader hr j), if_neg hf]

/-- With the files of a tree, a CA file is bundled as it is or reported as one that cannot be read,
with the reason and before anything is looked up, exactly if its path can be one. What can be none is
refused by no stage: the generation fails with what reading the file fails with, and a surrogate
counts before a NUL. -/
theorem generate_reports_caFile_iff (d : Disk) (network : WideText) (resolve : Resolver)
    (j : Journal) (h : p.caCertFile ≠ "") :
    let run := (generate p network resolve (diskReader d)).runOn j
    ((∃ content, d.HasFile p.caCertFile content ∧ BundlesFile content network run.1) ∨
        (∃ f, d.readNormal p.caCertFile = .error f ∧
          run = (.error (.because (.stage .caBundle) "failed to read clouds.yaml ca-cert from disk" f),
            { j with log := j.log ++ [unreadEntry p.caCertFile] })) ↔
      p.caCertFile.CanBePath) ∧
    (∀ q ∈ p.caCertFile.points, ¬ q.isPassable → ∃ place refused,
      CodePoint.unpassable? 0 p.caCertFile.normalPath.points = some (place, refused) ∧
        run = (.error (CodePoint.refusal place refused), j)) ∧
    ((∀ q ∈ p.caCertFile.points, q.isPassable) → .char '\x00' ∈ p.caCertFile.points →
      run = (.error (.alone (.plain .value) "embedded null byte"), j)) := by
  intro run
  refine ⟨⟨?_, fun hpath => ?_⟩, fun q hq hq' => ?_, fun hpassable hnul => ?_⟩
  · rintro (⟨content, hfile, -⟩ | ⟨f, -, hf⟩)
    · exact hfile.canBePath
    · -- The run has logged something, and one on a path that can be none never does.
      refine by_contra fun hpath => ?_
      obtain ⟨g, hr, hg⟩ := d.readNormal_of_not_canBePath hpath
      have hrun : run = (.error g, j) := runOn_generate_of_readNormal h hr hg
      simpa using congrArg (·.2.log.length) (hrun.symm.trans hf)
  · rcases d.readNormal_of_canBePath hpath with ⟨content, hfile, hr⟩ | ⟨f, hr, hf⟩
    · exact .inl ⟨content, hfile, bundlesFile_of_read h (runOn_diskReader hr j)⟩
    · have hrun : run = _ := runOn_generate_of_failure h (runOn_diskReader hr j)
      rw [if_pos hf] at hrun
      exact .inr ⟨f, hr, hrun⟩
  · obtain ⟨place, refused, hu, hr⟩ := d.readNormal_of_unpassable hq hq'
    exact ⟨place, refused, hu, runOn_generate_of_readNormal h hr nofun⟩
  · exact runOn_generate_of_readNormal h (d.readNormal_of_nul hpassable hnul) nofun

/-- Of three paths, only the one that can be a path is reported on. -/
theorem generate_reports_caFile_iff_threePaths :
    let d := Disk.fresh.layFile "ca.pem" "CA".toUTF8 none
    let run (path : WideText) : Except Failure Artifact × Journal :=
      (generate { caCertFile := path } (.ofString "") (Lookup.resolve default)
        (diskReader d)).runOn ⟨[], []⟩
    (∃ artifact, (run "ca.pem").1 = .ok artifact ∧ artifact.caBundle = some "CA".toUTF8) ∧
      run ⟨[.char 'a', .surrogate ⟨0xD800, by decide⟩]⟩ =
        (.error (.alone (.plain .unencodable)
          "'utf-8' codec can't encode character '\\ud800' in position 1: surrogates not allowed"),
          ⟨[], []⟩) ∧
      run "ca.pem\x00" = (.error (.alone (.plain .value) "embedded null byte"), ⟨[], []⟩) := by
  intro d run
  let cut : WideText := ⟨[.char 'a', .surrogate ⟨0xD800, by decide⟩]⟩
  obtain ⟨hreported, -⟩ := generate_reports_caFile_iff (p := { caCertFile := "ca.pem" }) d
    (.ofString "") (Lookup.resolve default) ⟨[], []⟩ (by decide)
  obtain ⟨-, hunpassable, -⟩ := generate_reports_caFile_iff (p := { caCertFile := cut }) d
    (.ofString "") (Lookup.resolve default) ⟨[], []⟩ (by decide)
  obtain ⟨-, -, hnul⟩ := generate_reports_caFile_iff (p := { caCertFile := "ca.pem\x00" }) d
    (.ofString "") (Lookup.resolve default) ⟨[], []⟩ (by decide)
  refine ⟨?_, ?_, hnul (by decide) (by decide)⟩
  · have hfile : d.HasFile "ca.pem" "CA".toUTF8 :=
      Disk.hasFile_ofString_iff.2
        ⟨["work", "ca.pem"], Disk.defaultMode, by decide +kernel, by decide +kernel⟩
    rcases hreported.2 hfile.canBePath with ⟨content, hcontent, hbundles⟩ | ⟨f, hf, -⟩
    · obtain ⟨artifact, ha⟩ := hbundles.succeeds (by decide)
      obtain rfl := Except.ok.inj (hcontent.readNormal.symm.trans hfile.readNormal)
      exact ⟨artifact, ha, hbundles.bundled artifact ha⟩
    · cases hfile.readNormal.symm.trans hf
  · obtain ⟨place, refused, hu, hrun⟩ :=
      hunpassable (.surrogate ⟨0xD800, by decide⟩) (by decide) (by decide)
    have hplace : CodePoint.unpassable? 0 cut.normalPath.points =
        some (1, [.surrogate ⟨0xD800, by decide⟩]) := by decide
    obtain ⟨rfl, rfl⟩ := Prod.mk.inj (Option.some.inj (hplace.symm.trans hu))
    exact hrun

/-- A path with a NUL leads to no file, and this is not reported. -/
theorem generate_not_reports_nulPath :
    ¬ ∀ (d : Disk) (p : Profile) (network : WideText) (resolve : Resolver) (j : Journal),
      p.caCertFile ≠ "" →
      (∃ content, d.HasFile p.caCertFile content ∧ BundlesFile content network
        ((generate p network resolve (diskReader d)).runOn j).1) ∨
      ∃ f, d.readNormal p.caCertFile = .error f ∧
        (generate p network resolve (diskReader d)).runOn j = (.error (unreadable f),
          { j with log := j.log ++ [unreadEntry p.caCertFile] }) := by
  intro h
  have hnul : Disk.fresh.readNormal "a\x00b" =
      .error (.alone (.plain .value) "embedded null byte") :=
    Disk.readNormal_of_nul (by decide) (by decide)
  rcases h .fresh { caCertFile := "a\x00b" } (.ofString "") (Lookup.resolve default) ⟨[], []⟩
    (by decide) with ⟨content, hfile, -⟩ | ⟨f, -, hrun⟩
  · cases hfile.readNormal.symm.trans hnul
  · rw [runOn_generate_of_readNormal (by decide) hnul (by decide)] at hrun
    cases hrun

end Provider

end CloudConf
