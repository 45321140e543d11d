import CloudConf.Disk.Listing
import CloudConf.Proofs.CommandWrites

/-! # The secret is closed to others before it is written -/
namespace CloudConf

namespace Disk

variable {d d' : Disk} {place other : Place} {s : Step} {mode : Nat} {limits : Limits}

def HasMode (d : Disk) (place : Place) (mode : Nat) : Prop :=
  ∃ content, d.node? place = some (.file content mode)

theorem HasMode.ne_directory (h : d.HasMode place mode) : d.node? place ≠ some .directory := by
  obtain ⟨content, hn⟩ := h
  simp [hn]

theorem HasMode.mode_eq {content : ByteArray} {m : Nat} (h : d.HasMode place mode)
    (hn : d.node? place = some (.file content m)) : m = mode := by
  obtain ⟨was, hwas⟩ := h
  have hnode : Node.file content m = .file was mode := Option.some.inj (hn.symm.trans hwas)
  exact (Node.file.inj hnode).2

theorem HasMode.put {n : Node} (h : d.HasMode place mode)
    (hn : place = other → ∃ content, n = .file content mode) :
    (d.put other n).HasMode place mode := by
  by_cases he : place = other
  · obtain ⟨content, rfl⟩ := hn he
    exact ⟨content, he ▸ node?_put_of_node? _ (he ▸ h.ne_directory)⟩
  · obtain ⟨content, hold⟩ := h
    exact ⟨content, by rw [node?_put_of_ne he, hold]⟩

theorem HasMode.settle {p : Path} {r : Except DiskFault Disk} (h : d.HasMode place mode)
    (hr : ∀ d', r = .ok d' → d'.HasMode place mode) : (settle d p r).1.HasMode place mode := by
  rcases settle_cases d p r with ⟨d', hok, hs⟩ | ⟨f, hs⟩
  · rw [hs]
    exact hr d' hok
  · rw [hs]
    exact h

/-- A file keeps its permission bits under every step that sets no others. -/
theorem HasMode.apply (h : d.HasMode place mode)
    (hs : ∀ p m, s = .setMode p m → m = mode) : (s.apply d limits).1.HasMode place mode := by
  have hsome : d.node? place ≠ none := by
    obtain ⟨content, hn⟩ := h
    simp [hn]
  cases s with
  | makeDirectories p =>
    have hmade := (madeAt_makeDirectories limits p.root p.parts.reverse d).frame place
    obtain ⟨content, hn⟩ := h
    rcases hmade with he | ⟨hnone, -⟩
    · exact ⟨content, he.trans hn⟩
    · exact absurd hnone hsome
  | touch p m =>
    refine h.settle fun d' hr => ?_
    obtain ⟨other, -, ⟨hnone, rfl⟩ | ⟨-, rfl⟩⟩ := touch_eq_ok (permit_eq_ok hr)
    · exact h.put fun he => absurd (he ▸ hnone) hsome
    · exact h
  | setMode p m =>
    have hm : m = mode := hs p m rfl
    refine h.settle fun d' hr => ?_
    obtain ⟨other, -, ⟨content, old, -, rfl⟩ | ⟨-, rfl⟩⟩ := setMode_eq_ok (permit_eq_ok hr)
    · exact h.put fun _ => ⟨content, by rw [hm]⟩
    · exact h
  | truncate p =>
    refine h.settle fun d' hr => ?_
    obtain ⟨other, -, ⟨old, m, hold, rfl⟩ | ⟨hnone, rfl⟩⟩ := truncate_eq_ok (permit_eq_ok hr)
    · refine h.put fun he => ⟨.empty, ?_⟩
      have hm : m = mode := h.mode_eq (he ▸ hold)
      rw [hm]
    · exact h.put fun he => absurd (he ▸ hnone) hsome
  | fill p content =>
    have hall (part : ByteArray) : ((Step.fill p part).apply d).1.HasMode place mode := by
      refine h.settle fun d' hr => ?_
      obtain ⟨other, old, m, -, hold, rfl⟩ := fill_eq_ok hr
      refine h.put fun he => ⟨part, ?_⟩
      have hm : m = mode := h.mode_eq (he ▸ hold)
      rw [hm]
    rcases apply_fill_cases d p content limits with hfill | ⟨n, f, hfill⟩
    · rw [hfill]
      exact hall content
    · rw [hfill]
      exact hall _

/-- The places of the files that a step makes, or writes to. One that fails may have written a part.
A file that is touched or whose permission bits are set is not written if it was there. -/
def Step.written (d : Disk) (s : Step) (limits : Limits) : List Place :=
  let files (p : Path) := (d.locate p.render).toOption.toList.filter fun place =>
    ((s.apply d limits).1.node? place).any Node.isFile
  match s with
  | .truncate p | .fill p _ => files p
  | .touch p _ => (files p).filter fun place => d.node? place = none
  | .makeDirectories _ | .setMode _ _ => []

def Closed (d : Disk) (path : String) (mode : Nat) : Prop :=
  ∃ place, d.locate path = .ok place ∧
    (d.node? place = some .directory ∨ d.HasMode place mode)

theorem Closed.apply {path : String} (h : d.Closed path mode)
    (hs : ∀ p m, s = .setMode p m → m = mode) : (s.apply d limits).1.Closed path mode := by
  have hext := s.extends d limits
  obtain ⟨place, hl, hdir | hmode⟩ := h
  · exact ⟨place, hext.locate hl, .inl (hext.directories place hdir)⟩
  · exact ⟨place, hext.locate hl, .inr (hmode.apply hs)⟩

theorem closed_of_setMode {p : Path} (h : (Step.setMode p mode).apply d limits = (d', none)) :
    d'.Closed p.render mode := by
  have hext := Step.extends d (.setMode p mode) limits
  rw [h] at hext
  obtain ⟨place, hl, ⟨content, old, hn, rfl⟩ | ⟨hdir, rfl⟩⟩ :=
    setMode_eq_ok (permit_eq_ok (settle_eq_none h))
  · have hput := node?_put_of_node? (.file content mode) (by simp [hn] : d.node? place ≠ _)
    exact ⟨place, hext.locate hl, .inr ⟨content, hput⟩⟩
  · exact ⟨place, hl, .inl hdir⟩

theorem hasMode_of_touched {p : Path} (h : place ∈ (Step.touch p mode).written d limits) :
    ((Step.touch p mode).apply d limits).1.HasMode place mode := by
  simp only [Step.written, List.mem_filter, Option.mem_toList, decide_eq_true_eq] at h
  obtain ⟨⟨hplace, hfile⟩, hnone⟩ := h
  have hsettle := settle_cases d p (permit (limits (.touch p mode)) (d.touch p.render mode))
  rcases hsettle with ⟨d', hr, hs⟩ | ⟨f, hs⟩
  · rw [Step.apply, hs]
    obtain ⟨other, hl, ⟨-, rfl⟩ | ⟨hthere, rfl⟩⟩ := touch_eq_ok (permit_eq_ok hr)
    · rw [hl] at hplace
      obtain rfl : other = place := Option.some.inj hplace
      exact ⟨.empty, node?_put_of_node? _ (by simp [hnone])⟩
    · rw [hl] at hplace
      obtain rfl : other = place := Option.some.inj hplace
      exact absurd hnone hthere
  · -- It failed, so there is still nothing at the place.
    rw [Step.apply, hs, hnone] at hfile
    cases hfile

/-- What is behind a step that writes is a file, and the one that its path leads to. -/
theorem file_of_written {p : Path} (hs : s.files = [p]) (h : place ∈ s.written d limits) :
    d.locate p.render = .ok place ∧
      ((s.apply d limits).1.node? place).any Node.isFile = true := by
  have hfiles : place ∈ (d.locate p.render).toOption.toList.filter fun place =>
      ((s.apply d limits).1.node? place).any Node.isFile := by
    cases s with
    | makeDirectories q => cases hs
    | setMode q m => cases h
    | touch q m =>
      obtain rfl := List.singleton_inj.1 hs
      exact List.mem_of_mem_filter h
    | truncate q =>
      obtain rfl := List.singleton_inj.1 hs
      exact h
    | fill q content =>
      obtain rfl := List.singleton_inj.1 hs
      exact h
  obtain ⟨hplace, hfile⟩ := List.mem_filter.1 hfiles
  refine ⟨?_, hfile⟩
  cases hl : d.locate p.render with
  | error e =>
    rw [hl] at hplace
    cases hplace
  | ok other =>
    rw [hl] at hplace
    rw [List.mem_singleton.1 hplace]

theorem mem_written_of_fill {p : Path} {content : ByteArray}
    (h : (Step.fill p content).apply d limits = (d', none)) :
    ∃ place ∈ (Step.fill p content).written d limits, d.locate p.render = .ok place := by
  have hnone := Step.apply_eq_none (fun _ => Step.noConfusion) h
  obtain ⟨place, old, mode, hl, -, -, hn⟩ := apply_fill_eq_none hnone
  refine ⟨place, ?_, hl⟩
  refine List.mem_filter.2 ⟨?_, ?_⟩
  · rw [hl]
    exact List.mem_singleton_self place
  · rw [h, hn]
    rfl

theorem hasMode_of_written {p : Path} (hs : s.files = [p]) (hset : ∀ q m, s ≠ .setMode q m)
    (h : place ∈ s.written d limits) (hclosed : d.Closed p.render mode) :
    (s.apply d limits).1.HasMode place mode := by
  obtain ⟨hl, hfile⟩ := file_of_written hs h
  obtain ⟨other, hl', hdir | hmode⟩ := hclosed
  · obtain rfl : other = place := Except.ok.inj (hl'.symm.trans hl)
    rw [(s.extends d limits).directories other hdir] at hfile
    cases hfile
  · obtain rfl : other = place := Except.ok.inj (hl'.symm.trans hl)
    exact hmode.apply fun q m he => absurd he (hset q m)

end Disk

namespace Command

open Disk (Limits Step)

/-- A tree, and the places of the files in it that runs have written. -/
structure Scene where
  disk : Disk
  written : List Place

def Scene.after (s : Scene) (step : Step) (limits : Limits) : Scene :=
  ⟨(step.apply s.disk limits).1, step.written s.disk limits ++ s.written⟩

/-- All that a run of the command depends on, apart from the tree. -/
structure Invocation where
  args : List String
  input : ByteArray
  world : World

namespace Invocation

def report (i : Invocation) (d : Disk) (limits : Limits := Disk.unlimited) : Report :=
  run i.args i.input i.world d limits

def steps (i : Invocation) (d : Disk) : List Step :=
  match request? i.args i.input d with
  | none => []
  | some r =>
    match (produce i.world d r).outcome.1 with
    | .error _ => []
    | .ok p => publication r.outputDir p

end Invocation

/-- The scenes that runs pass which follow each other on a tree, each with the steps that the
present run has still to take. Any step may be refused. One that fails ends its run. -/
inductive Passes (d : Disk) : Scene → List Step → Prop
  | start : Passes d ⟨d, []⟩ []
  | run {s : Scene} (i : Invocation) (idle : Passes d s []) : Passes d s (i.steps s.disk)
  | step {s : Scene} {step : Step} {rest : List Step} (limits : Limits)
      (busy : Passes d s (step :: rest)) :
      Passes d (s.after step limits) (if (step.apply s.disk limits).2 = none then rest else [])

variable {d d' : Disk} {dir : Path} {p : Product} {s : Step} {rest pending : List Step}
  {limits : Limits}

theorem mem_publication :
    s ∈ publication dir p ↔ s = .makeDirectories dir ∨
      s = .touch (dir.child secretFile) secretMode ∨
      s = .setMode (dir.child secretFile) secretMode ∨
      ∃ name content, (name, content) ∈ p.files ∧
        (s = .truncate (dir.child name) ∨ s = .fill (dir.child name) content) := by
  rw [publication, List.mem_cons, mem_fileSteps]

theorem mode_of_mem_publication (h : s ∈ publication dir p) :
    ∀ q m, s = .setMode q m → m = secretMode := by
  rintro q m rfl
  rcases mem_publication.1 h with he | he | he | ⟨_, _, -, he | he⟩
  · cases he
  · cases he
  · exact (Step.setMode.inj he).2
  · cases he
  · cases he

/-- What is still to be taken of the steps that publish a product, on a tree in which the secret is
closed once the step is taken that closes it. -/
def Underway (d : Disk) (dir : Path) (p : Product) (pending : List Step) : Prop :=
  ∃ taken, publication dir p = taken ++ pending ∧
    (.setMode (dir.child secretFile) secretMode ∈ taken →
      d.Closed (dir.child secretFile).render secretMode)

theorem Underway.begin (d : Disk) (dir : Path) (p : Product) :
    Underway d dir p (publication dir p) :=
  ⟨[], rfl, nofun⟩

theorem Underway.mem (h : Underway d dir p (s :: rest)) : s ∈ publication dir p := by
  obtain ⟨taken, heq, -⟩ := h
  simp [heq]

theorem Underway.step (h : Underway d dir p (s :: rest)) (hs : s.apply d limits = (d', none)) :
    Underway d' dir p rest := by
  have hmem := h.mem
  obtain ⟨taken, heq, hclosed⟩ := h
  refine ⟨taken ++ [s], by simp [heq], fun hset => ?_⟩
  -- Either the secret was closed before and stays so, or this is the step that closes it.
  rcases List.mem_append.1 hset with hset | hset
  · have happly : (s.apply d limits).1.Closed (dir.child secretFile).render secretMode :=
      (hclosed hset).apply (mode_of_mem_publication hmem)
    rwa [hs] at happly
  · obtain rfl := List.mem_singleton.1 hset
    exact Disk.closed_of_setMode hs

/-- No file is written before the step that closes the secret. -/
theorem Underway.closed (h : Underway d dir p (s :: rest)) (hs : s ∉ preparation dir) :
    d.Closed (dir.child secretFile).render secretMode := by
  obtain ⟨taken, heq, hclosed⟩ := h
  apply hclosed
  rw [publication_eq_append] at heq
  have hset : .setMode (dir.child secretFile) secretMode ∈ preparation dir := by
    simp [preparation]
  rcases List.append_eq_append_iff.1 heq with ⟨between, rfl, -⟩ | ⟨between, hprep, hrest⟩
  · exact List.mem_append_left _ hset
  · cases between with
    | nil => simpa [hprep] using hset
    | cons t between =>
      obtain ⟨rfl, -⟩ := List.cons.inj hrest
      exact absurd (by simp [hprep]) hs

theorem Underway.hasMode {place : Place} (h : Underway d dir p (s :: rest))
    (hw : place ∈ s.written d limits) (hname : place.getLast? = some secretFile) :
    (s.apply d limits).1.HasMode place secretMode := by
  rcases mem_publication.1 h.mem with rfl | rfl | rfl | ⟨name, content, hf, hs⟩
  · cases hw
  · exact Disk.hasMode_of_touched hw
  · cases hw
  · have hfiles : s.files = [dir.child name] := by rcases hs with rfl | rfl <;> rfl
    have hset : ∀ q m, s ≠ .setMode q m := by
      rcases hs with rfl | rfl <;> exact fun _ _ => Step.noConfusion
    have hprep : s ∉ preparation dir := by rcases hs with rfl | rfl <;> simp [preparation]
    have hlast :=
      Disk.getLast?_of_locate_child (isName_of_mem_files hf) (Disk.file_of_written hfiles hw).1
    have hsecret : name = secretFile := Option.some.inj (hlast.symm.trans hname)
    exact Disk.hasMode_of_written hfiles hset hw (hsecret ▸ h.closed hprep)

/-- All secrets that runs have written are closed, and so is the one that is written next. -/
structure Safe (s : Scene) (pending : List Step) : Prop where
  closed : ∀ place ∈ s.written, place.getLast? = some secretFile →
    s.disk.HasMode place secretMode
  underway : pending = [] ∨ ∃ dir p, Underway s.disk dir p pending

theorem Safe.step {s : Scene} {step : Step} (h : Safe s (step :: rest)) (limits : Limits) :
    Safe (s.after step limits) (if (step.apply s.disk limits).2 = none then rest else []) := by
  obtain ⟨hclosed, hpending | ⟨dir, p, hunder⟩⟩ := h
  · cases hpending
  have hmode := mode_of_mem_publication hunder.mem
  constructor
  · intro place hplace hname
    rcases List.mem_append.1 hplace with hnew | hold
    · exact hunder.hasMode hnew hname
    · exact (hclosed place hold hname).apply hmode
  · by_cases hn : (step.apply s.disk limits).2 = none
    · rw [if_pos hn]
      exact .inr ⟨dir, p, hunder.step (Prod.ext rfl hn)⟩
    · exact .inl (if_neg hn)

theorem Passes.safe {s : Scene} (h : Passes d s pending) : Safe s pending := by
  induction h with
  | start => exact ⟨by simp, .inl rfl⟩
  | @run s i idle ih =>
    refine ⟨ih.closed, ?_⟩
    unfold Invocation.steps
    cases request? i.args i.input s.disk with
    | none => exact .inl rfl
    | some r =>
      simp only
      cases (produce i.world s.disk r).outcome.1 with
      | error f => exact .inl rfl
      | ok p => exact .inr ⟨r.outputDir, p, Underway.begin s.disk r.outputDir p⟩
  | step limits busy ih => exact ih.step limits

/-- A step is behind a run, or it failed and the run is over. -/
theorem Passes.next {s : Scene} {step : Step} (h : Passes d s (step :: rest)) (limits : Limits) :
    (∃ d', step.apply s.disk limits = (d', none) ∧ (s.after step limits).disk = d' ∧
        Passes d (s.after step limits) rest) ∨
      ∃ d' f, step.apply s.disk limits = (d', some f) ∧ (s.after step limits).disk = d' ∧
        Passes d (s.after step limits) [] := by
  have hnext := h.step limits
  cases ho : step.apply s.disk limits with
  | mk d' failed =>
    have hdisk : (s.after step limits).disk = d' := congrArg Prod.fst ho
    rw [ho] at hnext
    cases failed with
    | none => exact .inl ⟨d', rfl, hdisk, hnext⟩
    | some f => exact .inr ⟨d', f, rfl, hdisk, hnext⟩

theorem Passes.states {s : Scene} (h : Passes d s pending) (limits : Limits) :
    ∀ between ∈ s.disk.states pending limits, ∃ (passed : Scene) (rest : List Step),
      Passes d passed rest ∧ passed.disk = between := by
  induction pending generalizing s with
  | nil =>
    intro between hb
    exact ⟨s, [], h, (List.mem_singleton.1 hb).symm⟩
  | cons step rest ih =>
    intro between hb
    rw [Disk.states] at hb
    rcases h.next limits with ⟨d', ho, hdisk, hnext⟩ | ⟨d', f, ho, hdisk, hnext⟩
    · rw [ho] at hb
      rcases List.mem_cons.1 hb with rfl | hb
      · exact ⟨s, step :: rest, h, rfl⟩
      · exact ih hnext between (hdisk ▸ hb)
    · rw [ho] at hb
      simp only [List.mem_cons, List.not_mem_nil, or_false] at hb
      rcases hb with rfl | rfl
      · exact ⟨s, step :: rest, h, rfl⟩
      · exact ⟨s.after step limits, [], hnext, hdisk⟩

/-- A run that goes on reaches its end, and what it leaves is what its steps lead to. -/
theorem Passes.finish {s : Scene} (h : Passes d s pending) (limits : Limits) :
    ∃ last : Scene, Passes d last [] ∧ last.disk = (s.disk.perform pending limits).1 ∧
      s.written ⊆ last.written ∧
      ((s.disk.perform pending limits).2 = none → ∀ q content, .fill q content ∈ pending →
        ∃ place ∈ last.written, last.disk.locate q.render = .ok place) := by
  induction pending generalizing s with
  | nil => exact ⟨s, h, rfl, fun _ hm => hm, nofun⟩
  | cons step rest ih =>
    have hgrows : s.written ⊆ (s.after step limits).written :=
      fun _ hm => List.mem_append_right _ hm
    rcases h.next limits with ⟨d', ho, hdisk, hnext⟩ | ⟨d', f, ho, hdisk, hnext⟩
    · rw [Disk.perform_cons_of_eq_none ho]
      obtain ⟨last, hlast, hend, hsub, hwritten⟩ := ih hnext
      rw [hdisk] at hend hwritten
      refine ⟨last, hlast, hend, List.Subset.trans hgrows hsub, fun hn q content hm => ?_⟩
      rcases List.mem_cons.1 hm with rfl | hm
      · obtain ⟨place, hw, hl⟩ := Disk.mem_written_of_fill ho
        have hextends : Disk.Extends s.disk last.disk := by
          have hs := Step.extends s.disk (.fill q content) limits
          rw [ho] at hs
          exact hend ▸ hs.trans (Disk.perform_extends d' rest limits)
        have hnew : place ∈ (s.after (.fill q content) limits).written :=
          List.mem_append_left _ hw
        exact ⟨place, hsub hnew, hextends.locate hl⟩
      · exact hwritten hn q content hm
    · rw [Disk.perform_cons_of_eq_some ho]
      exact ⟨s.after step limits, hnext, hdisk, hgrows, nofun⟩

theorem Invocation.steps_of_no_request {i : Invocation}
    (hr : request? i.args i.input d = none) : i.steps d = [] := by
  simp only [steps, hr]

theorem Invocation.steps_of_error {i : Invocation} {r : Request} {f : Failure} {j : Journal}
    (hr : request? i.args i.input d = some r)
    (h : (produce i.world d r).outcome = (.error f, j)) : i.steps d = [] := by
  simp only [steps, hr, h]

theorem Invocation.steps_of_ok {i : Invocation} {r : Request} {j : Journal}
    (hr : request? i.args i.input d = some r)
    (h : (produce i.world d r).outcome = (.ok p, j)) :
    i.steps d = publication r.outputDir p := by
  simp only [steps, hr, h]

/-- A run leaves what its steps lead to. One that ends well has taken all of them. -/
theorem Invocation.report_of_steps (i : Invocation) (d : Disk) (limits : Limits) :
    (i.report d limits).disk = (d.perform (i.steps d) limits).1 ∧
      ∀ r, request? i.args i.input d = some r → (i.report d limits).ending.exitCode = 0 →
        ∃ p, i.steps d = publication r.outputDir p ∧ (d.perform (i.steps d) limits).2 = none := by
  unfold report
  cases hr : request? i.args i.input d with
  | none =>
    obtain ⟨ending, -, hrun⟩ := run_of_no_request hr
    rw [hrun, steps_of_no_request hr]
    exact ⟨rfl, nofun⟩
  | some r =>
    rw [run_of_request hr]
    cases ho : (produce i.world d r).outcome with
    | mk result j =>
      cases result with
      | error f =>
        rw [fulfil_of_error ho, steps_of_error hr ho]
        refine ⟨rfl, fun _ _ hz => ?_⟩
        rw [exitCode_ofFailure] at hz
        cases hz
      | ok p =>
        rw [fulfil_of_ok ho, steps_of_ok hr ho]
        refine ⟨rfl, fun other he hz => ?_⟩
        obtain rfl := Option.some.inj he
        exact ⟨p, rfl, exitCode_ofOutcome_eq_zero_iff.1 hz⟩

/-- Whatever runs have followed each other on a tree, whatever the system has refused of them and
wherever the last of them has come to, nobody but its owner can read a secret that any of them has
written. The next run passes such trees only, and if it ends well it leaves a closed secret in its
directory, even if there was one that was open. -/
theorem written_secrets_closed {s : Scene} (h : Passes d s pending) :
    (∀ place ∈ s.written, place.getLast? = some secretFile →
      s.disk.HasMode place secretMode) ∧
    (pending = [] → ∀ (i : Invocation) (limits : Limits),
      (∀ between ∈ s.disk.states (i.steps s.disk) limits, ∃ (passed : Scene) (rest : List Step),
        Passes d passed rest ∧ passed.disk = between) ∧
      ∃ last : Scene, Passes d last [] ∧ last.disk = (i.report s.disk limits).disk ∧
        ∀ r, request? i.args i.input s.disk = some r →
          (i.report s.disk limits).ending.exitCode = 0 →
          ∃ place ∈ last.written,
            last.disk.locate (r.outputDir.child secretFile).render = .ok place ∧
            place.getLast? = some secretFile ∧ last.disk.HasMode place secretMode) := by
  refine ⟨h.safe.closed, ?_⟩
  rintro rfl i limits
  refine ⟨(Passes.run i h).states limits, ?_⟩
  obtain ⟨last, hlast, hdisk, -, hwritten⟩ := (Passes.run i h).finish limits
  obtain ⟨hreport, hends⟩ := i.report_of_steps s.disk limits
  refine ⟨last, hlast, hdisk.trans hreport.symm, fun r hr hz => ?_⟩
  obtain ⟨p, hsteps, hnone⟩ := hends r hr hz
  have hfill : .fill (r.outputDir.child secretFile) (Credentials.render p.profile).toUTF8 ∈
      i.steps s.disk := by
    rw [hsteps, mem_publication]
    exact .inr (.inr (.inr ⟨_, _, secret_mem_files p, .inr rfl⟩))
  obtain ⟨place, hplace, hl⟩ := hwritten hnone _ _ hfill
  have hname := Disk.getLast?_of_locate_child isName_secretFile hl
  exact ⟨place, hplace, hl, hname, hlast.safe.closed place hplace hname⟩

/-- A secret that anybody could read is closed by a run that replaces it. -/
theorem written_secrets_closed_openSecret :
    let place := ["work", "out", "clouds.conf"]
    let d := Disk.fresh.layFile "out/clouds.conf" "old".toUTF8 (some 0o644)
    let i : Invocation :=
      { args := ["--install-config", "-", "--output-dir", "out"]
        input := "platform: \x7bopenstack: \x7bcloud: c\x7d\x7d".toUTF8
        world :=
          { clouds := [(.ofString "c", ⟨.mapping [], .text "R"⟩)]
            loaderFailure := none
            cloudFailure := none
            connectionFailure := none
            networkFailure := none
            client := default } }
    d.HasMode place 0o644 ∧ ∃ last : Scene, Passes d last [] ∧
      last.disk = (i.report d).disk ∧ place ∈ last.written ∧ last.disk.HasMode place 0o600 := by
  intro place d i
  have hold : d.node? place = some (.file "old".toUTF8 0o644) := by decide +kernel
  have hr : (request? i.args i.input d).map (·.outputDir) = some (Path.ofString "out") := by
    decide +kernel
  obtain ⟨r, hr, hdir⟩ := Option.map_eq_some_iff.1 hr
  have hz : (i.report d).ending.exitCode = 0 := by decide +kernel
  have hl : (i.report d).disk.locate "out/clouds.conf" = .ok place := by decide +kernel
  obtain ⟨-, last, hlast, hdisk, hwritten⟩ :=
    (written_secrets_closed (.start (d := d))).2 rfl i Disk.unlimited
  obtain ⟨other, hmem, hother, -⟩ := hwritten r hr hz
  have hpath : (r.outputDir.child secretFile).render = "out/clouds.conf" := by
    rw [hdir]
    decide
  rw [hpath, hdisk, hl] at hother
  obtain rfl : place = other := Except.ok.inj hother
  have hclosed := (written_secrets_closed hlast).1 place hmem rfl
  exact ⟨⟨_, hold⟩, last, hlast, hdisk, hmem, hclosed⟩

end Command
end CloudConf
