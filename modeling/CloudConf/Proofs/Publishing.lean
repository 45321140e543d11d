import CloudConf.Command.Publication
import CloudConf.Proofs.ActionRuns
import CloudConf.Proofs.TreeChanges

/-! # The steps that write the generated files -/
namespace CloudConf.Command

open Disk (Begins Limits Step)

def Product.files (p : Product) : List (String × ByteArray) :=
  outputContents (Credentials.render p.profile) p.artifact

/-- What is done to the files once their directory is there. -/
def fileSteps (dir : Path) (p : Product) : List Step :=
  [.touch (dir.child secretFile) secretMode, .setMode (dir.child secretFile) secretMode] ++
    contents dir (Credentials.render p.profile) p.artifact

def publication (dir : Path) (p : Product) : List Step := .makeDirectories dir :: fileSteps dir p

/-- All that writing the files may do: the directories, the secret that is closed, and each file. -/
def items (dir : Path) (p : Product) : List (List Step) :=
  dir.withAbove.map .makeDirectories ::
    [.touch (dir.child secretFile) secretMode, .setMode (dir.child secretFile) secretMode] ::
    p.files.map fun f => writing (dir.child f.1) f.2

/-- The same, one step after the other. -/
def writes (dir : Path) (p : Product) : List Step := (items dir p).flatten

theorem publication_eq_append (dir : Path) (p : Product) :
    publication dir p =
      preparation dir ++ contents dir (Credentials.render p.profile) p.artifact := rfl

theorem contents_eq_flatMap (dir : Path) (p : Product) :
    contents dir (Credentials.render p.profile) p.artifact =
      p.files.flatMap fun f => writing (dir.child f.1) f.2 := rfl

theorem writes_eq_fileSteps (dir : Path) (p : Product) :
    writes dir p = dir.withAbove.map .makeDirectories ++ fileSteps dir p := rfl

theorem isName_secretFile : Path.IsName secretFile := by constructor <;> decide

theorem isName_configFile : Path.IsName configFile := by constructor <;> decide

theorem isName_caBundleFile : Path.IsName caBundleFile := by constructor <;> decide

theorem files_ne : secretFile ≠ configFile ∧ secretFile ≠ caBundleFile ∧
    configFile ≠ caBundleFile := by decide

variable {d d' : Disk} {dir : Path} {p : Product} {f : String × ByteArray} {s : Step}
  {limits : Limits} {taken : List Step} {name : String} {content : ByteArray}

theorem mem_files :
    f ∈ p.files ↔ f = (secretFile, (Credentials.render p.profile).toUTF8) ∨
      f = (configFile, p.artifact.config.toUTF8) ∨
      ∃ bundle, p.artifact.caBundle = some bundle ∧ f = (caBundleFile, bundle) := by
  simp [Product.files, outputContents, eq_comm]

theorem secret_mem_files (p : Product) :
    (secretFile, (Credentials.render p.profile).toUTF8) ∈ p.files := List.mem_cons_self

theorem isName_of_mem_files (h : f ∈ p.files) : Path.IsName f.1 := by
  rcases mem_files.1 h with rfl | rfl | ⟨bundle, -, rfl⟩
  · exact isName_secretFile
  · exact isName_configFile
  · exact isName_caBundleFile

theorem pairwise_files (p : Product) : p.files.Pairwise fun f g => g.1 ≠ f.1 := by
  obtain ⟨hsc, hsb, hcb⟩ := files_ne
  cases h : p.artifact.caBundle with
  | none => simp [Product.files, outputContents, h, hsc.symm]
  | some bundle => simp [Product.files, outputContents, h, hsc.symm, hsb.symm, hcb.symm]

theorem mem_writing {path : Path} :
    s ∈ writing path content ↔ s = .truncate path ∨ s = .fill path content := by
  simp [writing]

theorem mem_fileSteps :
    s ∈ fileSteps dir p ↔ s = .touch (dir.child secretFile) secretMode ∨
      s = .setMode (dir.child secretFile) secretMode ∨
      ∃ name content, (name, content) ∈ p.files ∧
        (s = .truncate (dir.child name) ∨ s = .fill (dir.child name) content) := by
  rw [fileSteps, contents_eq_flatMap]
  simp only [List.cons_append, List.nil_append, List.mem_cons, List.mem_flatMap, mem_writing,
    Prod.exists]

theorem fileSteps_ne_makeDirectories (h : s ∈ fileSteps dir p) (q : Path) :
    s ≠ .makeDirectories q := by
  rcases mem_fileSteps.1 h with rfl | rfl | ⟨_, _, -, rfl | rfl⟩ <;> exact Step.noConfusion

/-- Publishing stops where its steps do, and all that it leaves came of the first of the writes. -/
theorem perform_publication (hd : dir.WellFormed) (d : Disk) (p : Product) (limits : Limits) :
    ∃ taken, Begins taken (writes dir p) ∧
      d.perform taken = ((d.perform (publication dir p) limits).1, none) ∧
      ((d.perform (publication dir p) limits).2 = none → taken = writes dir p) := by
  have hdirs := Disk.makeDirectories_eq_perform limits dir.root dir.parts.reverse d
  rw [List.reverse_reverse] at hdirs
  obtain ⟨made, hm, hr, hall⟩ := hdirs hd
  cases h : (Step.makeDirectories dir).apply d limits with
  | mk d' failed =>
    rw [← Disk.apply_makeDirectories, h] at hr hall
    cases failed with
    | some f =>
      rw [publication, Disk.perform_cons_of_eq_some h]
      have hprefix : made.map Step.makeDirectories <+: writes dir p :=
        (hm.map _).trans (writes_eq_fileSteps dir p ▸ List.prefix_append _ _)
      exact ⟨_, Disk.begins_of_prefix hprefix, hr, nofun⟩
    | none =>
      rw [hall rfl] at hr
      rw [publication, Disk.perform_cons_of_eq_none h]
      obtain ⟨taken, ht, hf, hend⟩ :=
        Disk.perform_eq_perform_begins d' limits fun s hs => fileSteps_ne_makeDirectories hs
      refine ⟨_, ht.append (dir.withAbove.map .makeDirectories), ?_,
        fun hn => by rw [hend hn, writes_eq_fileSteps]⟩
      rw [Disk.perform_append_of_eq_none hr, hf]

theorem child_inj {dir : Path} {name other : String} (h : dir.child name = dir.child other) :
    name = other :=
  List.singleton_inj.1 (List.append_cancel_left (congrArg Path.parts h))

/-- What precedes the content of the files: directories, and a secret that is empty or stale. -/
def groundwork (dir : Path) : List Step :=
  dir.withAbove.map .makeDirectories ++
    [.touch (dir.child secretFile) secretMode, .setMode (dir.child secretFile) secretMode]

theorem writes_eq_append (dir : Path) (p : Product) :
    writes dir p =
      groundwork dir ++ p.files.flatMap fun f => writing (dir.child f.1) f.2 := by
  rw [writes_eq_fileSteps, fileSteps, groundwork, contents_eq_flatMap, List.append_assoc]

theorem mem_groundwork :
    s ∈ groundwork dir ↔ (∃ q ∈ dir.withAbove, Step.makeDirectories q = s) ∨
      s = .touch (dir.child secretFile) secretMode ∨
      s = .setMode (dir.child secretFile) secretMode := by
  simp [groundwork]

theorem groundwork_ne_fill (h : s ∈ groundwork dir) (q : Path) (content : ByteArray) :
    s ≠ .fill q content := by
  rcases mem_groundwork.1 h with ⟨q, -, rfl⟩ | rfl | rfl <;> exact Step.noConfusion

theorem files_of_mem_writing {path : Path} (h : s ∈ writing path content) : s.files = [path] := by
  rcases mem_writing.1 h with rfl | rfl <;> rfl

/-- Nothing that is written is overwritten. -/
theorem pairwise_writes (dir : Path) (p : Product) :
    (writes dir p).Pairwise fun s t =>
      ∀ name content, s = .fill (dir.child name) content → t.Spares name := by
  rw [writes_eq_append, List.pairwise_append, List.pairwise_flatMap]
  refine ⟨?_, ⟨fun f _ => ?_, ?_⟩, fun s hs t _ name content he => ?_⟩
  · refine List.pairwise_of_forall_mem_list fun s hs t _ name content he => ?_
    exact absurd he (groundwork_ne_fill hs _ _)
  · exact List.pairwise_pair.2 fun _ _ => nofun
  · refine (pairwise_files p).imp_of_mem fun {f g} _ hg hne s hs t ht name content he => ?_
    rw [he] at hs
    have hname := (List.singleton_inj.1 (files_of_mem_writing hs))
    intro q hq
    rw [files_of_mem_writing ht, List.mem_singleton] at hq
    exact ⟨dir, g.1, isName_of_mem_files hg, child_inj hname ▸ hne, hq⟩
  · exact absurd he (groundwork_ne_fill hs _ _)

/-- Whatever was written is there in the end. -/
theorem read_of_mem_taken (ht : Begins taken (writes dir p)) (hr : d.perform taken = (d', none))
    (hname : Path.IsName name) (hm : .fill (dir.child name) content ∈ taken) :
    d'.read (dir.child name).render = .ok content := by
  obtain ⟨front, rest, rfl⟩ := List.append_of_mem hm
  have hp := ht.pairwise (fun s q content n h => h) (pairwise_writes dir p)
  obtain ⟨hlater, -⟩ := List.pairwise_cons.1 (List.pairwise_append.1 hp).2.1
  obtain ⟨between, -, hr⟩ := Disk.perform_append_eq_none hr
  obtain ⟨after, hw, hr⟩ := Disk.perform_cons_eq_none hr
  have hread := Disk.read_perform_of_spares hname hw fun t hm => hlater t hm name content rfl
  rwa [hr] at hread

def keysEntry (p : Profile) : LogEntry :=
  let keys := (Credentials.fields p).map (·.1)
  ⟨.debug, .credentials, s!"Generated credentials config with keys: {Text.shownList keys}"⟩

theorem runOn_generate_credentials (p : Profile) (j : Journal) :
    (Credentials.generate p).runOn j =
      (.ok (Credentials.render p), { j with log := j.log ++ [keysEntry p] }) := rfl

def publicationLog (d : Disk) (dir : Path) (p : Product) (limits : Limits) : List LogEntry :=
  match d.perform (preparation dir) limits with
  | (_, some _) => []
  | (between, none) =>
    keysEntry p.profile ::
      match between.perform (contents dir (Credentials.render p.profile) p.artifact) limits with
      | (_, some _) => []
      | (_, none) => [⟨.info, .command,
          s!"Wrote cloud provider config for cloud {p.settings.cloud} to {dir.render}"⟩]

theorem runOn_publish (d : Disk) (dir : Path) (p : Product) (limits : Limits) (j : Journal) :
    (publish d dir p limits).runOn j =
      (.ok (d.perform (publication dir p) limits),
        { j with log := j.log ++ publicationLog d dir p limits }) := by
  rw [publication_eq_append, Disk.perform_append, publish, publicationLog]
  cases hp : d.perform (preparation dir) limits with
  | mk between failed =>
    cases failed with
    | some f =>
      simp
    | none =>
      simp only
      rw [Action.runOn_bind_ok (runOn_generate_credentials p.profile j)]
      cases hc : between.perform (contents dir (Credentials.render p.profile) p.artifact) limits with
      | mk after failed =>
        cases failed with
        | some f => simp
        | none =>
          simp only
          rw [Action.runOn_bind_ok (Action.runOn_log _ _ _ _), Action.runOn_pure,
            List.append_assoc]
          rfl

end CloudConf.Command
