import CloudConf.Disk.Listing
import CloudConf.Proofs.CommandRuns
import CloudConf.Proofs.InstallSteps
import CloudConf.Proofs.ProviderRuns

/-! # The command agrees with the installation -/
namespace CloudConf

/-- The text of a file whose bytes are UTF-8. Every line break is read as a line feed. -/
def textOf? (content : ByteArray) : Option String :=
  (String.fromUTF8? content).map fun text => String.ofList (Text.unifyNewlines text.toList)

theorem ofBytes_eq_ofText {content : ByteArray} {text : String} (h : textOf? content = some text)
    (name : String) : Yaml.Stream.ofBytes content name = .ofText text name := by
  obtain ⟨raw, hraw, rfl⟩ := Option.map_eq_some_iff.1 h
  rw [Yaml.Stream.ofBytes, hraw]
  rfl

/-- The installation that an install config asks for, with the files of a tree. -/
def installFrom (w : World) (d : Disk) (s : Yaml.Stream) : Action Artifact := do
  let settings ← InstallConfig.load w.reader s
  Install.generate w false settings none fun path => Action.ofExcept (d.readNormal path)

theorem CloudAccess.runOn_load_fst (w : World) (loaded : Bool) (cloud : WideText) (j i : Journal) :
    ((load w loaded cloud).runOn j).1 = ((load w loaded cloud).runOn i).1 := by
  let c : Installation :=
    ⟨w, loaded, ⟨cloud, .ofString ""⟩, none, .answering (fun _ => []) fun _ => .ok .empty⟩
  exact (c.load_follows j).1.trans (c.load_follows i).1.symm

namespace Command

variable {args : List String} {input : ByteArray} {w : World} {d : Disk} {r : Request}
  {a : Arguments} {text : String} {p : Product} {j : Journal}

theorem installFrom_eq_produce (ht : textOf? r.content = some text) (hc : r.cloudsFile = none) :
    installFrom w d (.ofText text r.name) = (do return (← produce w d r).artifact) := by
  simp only [installFrom, produce, Install.generate, loadClouds, hc, Request.stream,
    ofBytes_eq_ofText ht, Option.isSome_none, bind_assoc, pure_bind, bind_pure]
  rfl

theorem outcome_installFrom (ht : textOf? r.content = some text) (hc : r.cloudsFile = none) :
    (installFrom w d (.ofText text r.name)).outcome =
      ((produce w d r).outcome.1.map (·.artifact), (produce w d r).outcome.2) := by
  rw [installFrom_eq_produce ht hc, Action.outcome, Action.runOn_bind, ← Action.outcome]
  cases (produce w d r).outcome with
  | mk result j => cases result <;> rfl

/-- What the files are made from: the settings, the profile of the cloud that they name, and a CA
bundle that is what its file holds. -/
theorem produce_eq_ok (ht : textOf? r.content = some text) (hc : r.cloudsFile = none)
    (h : (produce w d r).outcome = (.ok p, j)) :
    (InstallConfig.load w.reader (.ofText text r.name)).outcome.1 = .ok p.settings ∧
      (∃ region, (CloudAccess.load w false p.settings.cloud).outcome.1 =
        .ok ⟨region, p.profile⟩) ∧
      ∀ bundle, p.artifact.caBundle = some bundle →
        d.readNormal p.profile.caCertFile = .ok bundle := by
  unfold produce at h
  obtain ⟨settings, j₁, hsettings, h⟩ := Action.runOn_bind_eq_ok h
  obtain ⟨_, j₂, -, h⟩ := Action.runOn_bind_eq_ok h
  obtain ⟨access, j₃, haccess, h⟩ := Action.runOn_bind_eq_ok h
  obtain ⟨client, j₄, -, h⟩ := Action.runOn_bind_eq_ok h
  obtain ⟨artifact, j₅, hartifact, h⟩ := Action.runOn_bind_eq_ok h
  cases h
  rw [Request.stream, ofBytes_eq_ofText ht] at hsettings
  rw [hc, Option.isSome_none] at haccess
  refine ⟨?_, ⟨access.region, ?_⟩, fun bundle hb => ?_⟩
  · exact congrArg Prod.fst hsettings
  · exact (CloudAccess.runOn_load_fst ..).trans (congrArg Prod.fst haccess)
  · obtain ⟨_, -, -, -, -, hread⟩ := Provider.generate_eq_ok hartifact
    obtain ⟨_, _, hread⟩ := hread bundle hb
    rw [Action.runOn_ofExcept] at hread
    exact congrArg Prod.fst hread

theorem read_of_publication {limits : Disk.Limits} (hr : request? args input d = some r)
    (h : (d.perform (publication r.outputDir p) limits).2 = none) :
    let holds (name : String) (content : ByteArray) : Prop :=
      (d.perform (publication r.outputDir p) limits).1.read (r.outputDir.child name).render =
        .ok content
    holds configFile p.artifact.config.toUTF8 ∧
      holds secretFile (Credentials.render p.profile).toUTF8 ∧
      ∀ bundle, p.artifact.caBundle = some bundle → holds caBundleFile bundle := by
  obtain ⟨taken, ht, htaken, hall⟩ := perform_publication (wellFormed_outputDir hr) d p limits
  have hread (name : String) (content : ByteArray) (hf : (name, content) ∈ p.files) :
      (d.perform (publication r.outputDir p) limits).1.read (r.outputDir.child name).render =
        .ok content := by
    refine read_of_mem_taken ht htaken (isName_of_mem_files hf) ?_
    rw [hall h, writes_eq_fileSteps]
    exact List.mem_append_right _ (mem_fileSteps.2 (.inr (.inr ⟨_, _, hf, .inr rfl⟩)))
  refine ⟨hread _ _ (mem_files.2 (.inr (.inl rfl))), hread _ _ (secret_mem_files p),
    fun bundle hb => hread _ _ (mem_files.2 (.inr (.inr ⟨bundle, hb, rfl⟩)))⟩

/-- On a command line that leads to a request and names no clouds file, the command asks for what
the installation does. It reports the failure of a stage in its last line, passes all other failures on,
and writes what the installation yields. The CA bundle is what its file held before the run. -/
theorem run_agrees_with_installation (ha : Arguments.parse args = some a)
    (hc : .cloudsFile ∉ a.given.map (·.1)) (hr : request? args input d = some r)
    (ht : textOf? r.content = some text) (limits : Disk.Limits) :
    let report := run args input w d limits
    let install := (installFrom w d (.ofText text r.name)).outcome
    report.journal.demands = install.2.demands ∧
    match install.1 with
    | .error f =>
      (f.isStage = true → report.ending.exitCode = 1 ∧
        ∃ logged, report.errorText = logged ++
          ("Error: " ++ String.ofList (Text.withoutControls f.message.toList) ++ "\n")) ∧
      (f.isStage = false → f.isSignal = false → f.kind ≠ .plain .endOfInput →
        f.kind ≠ .system .brokenPipe → report.ending = .failed f) ∧
      (f.kind = .plain .endOfInput → report.ending = .aborted) ∧
      (f.kind = .system .brokenPipe → report.ending = .exited)
    | .ok artifact =>
      ∃ settings region profile,
        (InstallConfig.load w.reader (.ofText text r.name)).outcome.1 = .ok settings ∧
        (CloudAccess.load w false settings.cloud).outcome.1 = .ok ⟨region, profile⟩ ∧
        (∀ bundle, artifact.caBundle = some bundle →
          d.readNormal profile.caCertFile = .ok bundle) ∧
        ((d.perform (publication r.outputDir ⟨settings, profile, artifact⟩) limits).2 = none →
          let holds (name : String) (content : ByteArray) : Prop :=
            report.disk.read (r.outputDir.child name).render = .ok content
          report.ending.exitCode = 0 ∧
          holds configFile artifact.config.toUTF8 ∧
          holds secretFile (Credentials.render profile).toUTF8 ∧
          ∀ bundle, artifact.caBundle = some bundle → holds caBundleFile bundle) := by
  have hcloudsFile := cloudsFile_eq_none ha hc hr
  intro report install
  have hreport : report = fulfil w d r limits := run_of_request hr w limits
  have hinstall : install = _ := outcome_installFrom ht hcloudsFile
  cases hp : (produce w d r).outcome with
  | mk result j =>
    rw [hp] at hinstall
    cases result with
    | error f =>
      rw [fulfil_of_error hp] at hreport
      rw [hreport, hinstall]
      refine ⟨rfl, fun hstage => ?_, ofFailure_eq_failed, fun hend => ?_, fun hpipe => ?_⟩
      · rw [ofFailure_of_isStage hstage]
        exact ⟨rfl, _, rfl⟩
      · simp only [Ending.ofFailure, hend]
      · simp only [Ending.ofFailure, hpipe]
    | ok p =>
      obtain ⟨hsettings, ⟨region, haccess⟩, hbundle⟩ := produce_eq_ok ht hcloudsFile hp
      rw [fulfil_of_ok hp] at hreport
      rw [hreport, hinstall]
      refine ⟨rfl, p.settings, region, p.profile, hsettings, haccess, hbundle, fun hn => ?_⟩
      exact ⟨exitCode_ofOutcome_eq_zero_iff.2 hn, read_of_publication hr hn⟩

/-- A CA file that the secret replaces: the bundle is what the file held before. -/
theorem run_agrees_with_installation_replacedCaFile :
    let w : World :=
      { clouds := [(.ofString "c", ⟨.mapping [("cacert", .text "out/clouds.conf")], .text "R"⟩)]
        loaderFailure := none
        cloudFailure := none
        connectionFailure := none
        networkFailure := none
        client := default }
    let d := Disk.fresh.layFile "out/clouds.conf" "CA".toUTF8 none
    let text := "platform: \x7bopenstack: \x7bcloud: c\x7d\x7d"
    let args := ["--install-config", "-", "--output-dir", "out"]
    let report := run args text.toUTF8 w d
    report.journal.demands = (installFrom w d (.ofText text "<stdin>")).outcome.2.demands ∧
      report.ending.exitCode = 0 ∧
      report.disk.read "out/ca-bundle.pem" = .ok "CA".toUTF8 := by
  intro w d text args report
  have ha : Arguments.parse args =
      some ⟨false, [(.installConfig, "-"), (.outputDir, "out")], []⟩ := by decide
  have hr : (request? args text.toUTF8 d).isSome := by decide +kernel
  obtain ⟨r, hr⟩ := Option.isSome_iff_exists.1 hr
  have ht : (request? args text.toUTF8 d).map (fun r => (textOf? r.content, r.name)) =
      some (some text, "<stdin>") := by decide +kernel
  rw [hr] at ht
  obtain ⟨htext, hname⟩ := Prod.mk.inj (Option.some.inj ht)
  have hagrees := run_agrees_with_installation (w := w) ha (by decide) hr htext Disk.unlimited
  rw [hname] at hagrees
  exact ⟨hagrees.1, by decide +kernel⟩

/-- Where the agreement ends: the message of a failure is not shown as it is if it holds a control
sequence, a command line that asks for help or names a directory by no path leads to nothing, and a
failure does not leave the command if it tells that there is nothing more to read or nobody who
reads. -/
theorem run_not_agrees_with_installation :
    let failing (f : Failure) : World :=
      { clouds := []
        loaderFailure := some f
        cloudFailure := none
        connectionFailure := none
        networkFailure := none
        client := default }
    let down : Failure := .alone (.cloud .general) "\x1b[0mdown"
    let text := "platform: \x7bopenstack: \x7bcloud: c\x7d\x7d"
    let command (f : Failure) (dir : String) (more : List String) : Report :=
      run (["--install-config", "-", "--output-dir", dir] ++ more) text.toUTF8 (failing f) .fresh
    let install (f : Failure) := (installFrom (failing f) .fresh (.ofText text)).outcome
    (∃ f, failureOf (install down).1 = some f ∧ f.isStage = true ∧
      (¬ ∃ logged, (command down "out" []).errorText =
        logged ++ ("Error: " ++ f.message ++ "\n")) ∧
      (command down "out" ["--help"]).ending ≠ .usage ∧
      (command down "out" ["--help"]).ending.exitCode ≠ 1 ∧
      (command down "out" ["--help"]).journal.demands ≠ (install down).2.demands ∧
      (command down "\x00" []).ending ≠ .usage ∧
      (command down "\x00" []).journal.demands ≠ (install down).2.demands) ∧
    ∀ kind ∈ [FailureKind.plain .endOfInput, .system .brokenPipe],
      let f : Failure := .alone kind "down"
      failureOf (install f).1 = some f ∧ f.isStage = false ∧ f.isSignal = false ∧
        (command f "out" []).ending ≠ .failed f := by
  intro failing down text command install
  refine ⟨⟨.because (.stage .session) "failed to get cloud config for openstack" down,
    by decide +kernel, rfl, ?_, ?_⟩, by decide +kernel⟩
  · rintro ⟨logged, h⟩
    have hshown : '\x1b' ∉ (command down "out" []).errorText.toList := by decide +kernel
    apply hshown
    rw [h]
    simp [Failure.message, down]
  · have hdemands : (install down).2.demands.length = 1 := by decide +kernel
    have hhelp : (command down "out" ["--help"]).journal.demands.length = 0 := by decide +kernel
    have hnul : (command down "\x00" []).journal.demands.length = 0 := by decide +kernel
    refine ⟨by decide +kernel, by decide +kernel, fun he => ?_, by decide +kernel, fun he => ?_⟩
    · rw [he, hdemands] at hhelp
      cases hhelp
    · rw [he, hdemands] at hnul
      cases hnul

end Command
end CloudConf
