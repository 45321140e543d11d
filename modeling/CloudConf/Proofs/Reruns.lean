import CloudConf.Proofs.CommandAgreement
import CloudConf.Proofs.Products
import CloudConf.Proofs.SecretMode

/-! # What runs into one directory leave there -/
namespace CloudConf

namespace Disk

variable {d d' : Disk} {place other : Place} {p : Path} {name : String} {content : ByteArray}
  {mode : Nat} {n : Node}

def fileAt (d : Disk) (place : Place) : Option ByteArray :=
  match d.node? place with
  | some (.file content _) => some content
  | _ => none

theorem fileAt_congr (h : d'.node? place = d.node? place) : d'.fileAt place = d.fileAt place := by
  rw [fileAt, fileAt, h]

theorem fileAt_of_read {path : String} (h : d.read path = .ok content) :
    ∃ place, d.locate path = .ok place ∧ d.fileAt place = some content := by
  obtain ⟨place, hl, hc⟩ := except_bind_eq_ok_iff.1 h
  refine ⟨place, hl, ?_⟩
  unfold contentOf at hc
  rw [fileAt]
  cases hn : d.node? place with
  | none =>
    rw [hn] at hc
    cases hc
  | some n =>
    rw [hn] at hc
    cases n with
    | directory => cases hc
    | file c m =>
      cases hc
      rfl

/-- Steps that spare the name of a place neither make a file there nor change one. -/
theorem fileAt_perform_of_spares {steps : List Step} (hs : ∀ s ∈ steps, s.Spares name) :
    (d.perform steps).1.fileAt (place ++ [name]) = d.fileAt (place ++ [name]) := by
  rcases perform_framed d steps unlimited (place ++ [name]) with he | ⟨hnone, hdir, -⟩ | ⟨p, hp, hl⟩
  · exact fileAt_congr he
  · rw [fileAt, fileAt, hnone, hdir]
  · obtain ⟨s, hm, hf⟩ := List.mem_flatMap.1 hp
    obtain ⟨q, other, ho, hne, rfl⟩ := hs s hm p hf
    have hlast := getLast?_of_locate_child ho hl
    rw [List.getLast?_concat] at hlast
    exact absurd (Option.some.inj hlast).symm hne

/-! ### Steps that succeed -/

theorem apply_touch_of_none (hl : d.locate p.render = .ok place) (hn : d.node? place = none)
    (mode : Nat) : (Step.touch p mode).apply d = (d.put place (.file .empty mode), none) := by
  have htouch : d.touch p.render mode = .ok (d.put place (.file .empty mode)) := by
    rw [touch, hl]
    simp only [bind, Except.bind, hn]
    rfl
  rw [Step.apply, htouch]
  rfl

theorem apply_setMode_of_file {old : Nat} (hl : d.locate p.render = .ok place)
    (hn : d.node? place = some (.file content old)) (mode : Nat) :
    (Step.setMode p mode).apply d = (d.put place (.file content mode), none) := by
  have hset : d.setMode p.render mode = .ok (d.put place (.file content mode)) := by
    rw [setMode, hl]
    simp only [bind, Except.bind, hn]
    rfl
  rw [Step.apply, hset]
  rfl

theorem apply_fill_of_file {old : ByteArray} (hl : d.locate p.render = .ok place)
    (hn : d.node? place = some (.file old mode)) (content : ByteArray) :
    (Step.fill p content).apply d = (d.put place (.file content mode), none) := by
  have hfill : d.fill p.render content = .ok (d.put place (.file content mode)) := by
    rw [fill, hl]
    simp only [bind, Except.bind, hn]
    rfl
  simp only [Step.apply, unlimited, hfill]
  rfl

end Disk

namespace Command

open Disk (Step)

variable {place : Place} {d d' e : Disk} {dir : Path} {p : Product} {i : Invocation}
  {runs : List Invocation} {r : Request} {name : String} {content : ByteArray}

/-! ## One run -/

namespace Invocation

def product? (i : Invocation) (d : Disk) : Option Product :=
  match request? i.args i.input d with
  | none => none
  | some r => (produce i.world d r).outcome.1.toOption

/-- The CA bundle that a run writes: one that ends well and has a CA file. -/
def bundle? (i : Invocation) (d : Disk) : Option ByteArray :=
  if (i.report d).ending = .done then (i.product? d).bind (·.artifact.caBundle) else none

/-- Wherever the output directory of a run leads in the end, if anywhere, it is this place. -/
def Into (place : Place) (i : Invocation) (d : Disk) : Prop :=
  ∀ r q, request? i.args i.input d = some r →
    (i.report d).disk.locate r.outputDir.render = .ok q → q = place

/-- A run without a product leaves all as it is. Any other one takes the steps that publish it. -/
theorem report_cases (i : Invocation) (d : Disk) :
    (i.product? d = none ∧ (i.report d).disk = d ∧
      (request? i.args i.input d ≠ none → (i.report d).ending.exitCode ≠ 0)) ∨
    ∃ r p, request? i.args i.input d = some r ∧ i.product? d = some p ∧
      (produce i.world d r).outcome.1 = .ok p ∧
      (i.report d).disk = (d.perform (publication r.outputDir p)).1 ∧
      (i.report d).ending = .ofOutcome (d.perform (publication r.outputDir p)).2 := by
  unfold report product?
  cases hr : request? i.args i.input d with
  | none =>
    obtain ⟨ending, -, hrun⟩ := run_of_no_request hr
    rw [hrun]
    exact .inl ⟨rfl, rfl, fun hne => absurd rfl hne⟩
  | some r =>
    rw [run_of_request hr]
    cases ho : (produce i.world d r).outcome with
    | mk result j =>
      cases result with
      | error f =>
        rw [fulfil_of_error ho]
        have hproduct : (produce i.world d r).outcome.1.toOption = none := by
          rw [ho]
          rfl
        refine .inl ⟨hproduct, rfl, fun _ => ?_⟩
        rw [exitCode_ofFailure]
        decide
      | ok p =>
        rw [fulfil_of_ok ho]
        have hproduct : (produce i.world d r).outcome.1.toOption = some p := by
          rw [ho]
          rfl
        exact .inr ⟨r, p, rfl, hproduct, by rw [ho], rfl, rfl⟩

/-- The files that a run can read behind it in its directory are those at its place. -/
theorem Into.fileAt (h : i.Into place d) (hr : request? i.args i.input d = some r)
    (hname : Path.IsName name)
    (hread : (i.report d).disk.read (r.outputDir.child name).render = .ok content) :
    (i.report d).disk.fileAt (place ++ [name]) = some content := by
  obtain ⟨q, hl, hf⟩ := Disk.fileAt_of_read hread
  obtain ⟨above, habove, rfl⟩ := Disk.locate_child_eq_ok (wellFormed_outputDir hr) hname hl
  obtain rfl := h r above hr habove
  exact hf

end Invocation

/-- What is done before the CA bundle is written. -/
def unbundled (dir : Path) (p : Product) : List Step :=
  preparation dir ++
    (writing (dir.child secretFile) (Credentials.render p.profile).toUTF8 ++
      writing (dir.child configFile) p.artifact.config.toUTF8)

theorem publication_eq_unbundled (dir : Path) (p : Product) :
    publication dir p = unbundled dir p ++
      p.artifact.caBundle.toList.flatMap (writing (dir.child caBundleFile)) := by
  cases h : p.artifact.caBundle with
  | none => simp [publication_eq_append, contents, outputContents, unbundled, h]
  | some bundle => simp [publication_eq_append, contents, outputContents, unbundled, h]

theorem spares_of_mem_unbundled {s : Step} (h : s ∈ unbundled dir p) :
    s.Spares caBundleFile := by
  obtain ⟨-, hsecret, hconfig⟩ := files_ne
  have hfile (name : String) (hn : Path.IsName name) (hne : name ≠ caBundleFile)
      (hs : s.files = [dir.child name]) : s.Spares caBundleFile := by
    intro q hq
    rw [hs] at hq
    exact ⟨dir, name, hn, hne, List.mem_singleton.1 hq⟩
  rcases List.mem_append.1 h with h | h
  · simp only [preparation, List.mem_cons, List.not_mem_nil, or_false] at h
    rcases h with rfl | rfl | rfl
    · intro q hq
      cases hq
    · exact hfile _ isName_secretFile hsecret rfl
    · exact hfile _ isName_secretFile hsecret rfl
  · rcases List.mem_append.1 h with h | h
    · exact hfile _ isName_secretFile hsecret (files_of_mem_writing h)
    · exact hfile _ isName_configFile hconfig (files_of_mem_writing h)

theorem perform_writing_of_locate {path : Path} (hl : d.locate path.render = .ok place)
    (hd : d.node? place ≠ some .directory) (content : ByteArray) :
    ∃ mode, d.perform (writing path content) =
      ((d.put place (.file .empty mode)).put place (.file content mode), none) := by
  obtain ⟨mode, htruncate⟩ : ∃ mode, d.truncate path.render =
      .ok (d.put place (.file .empty mode)) := by
    rw [Disk.truncate, hl]
    simp only [bind, Except.bind]
    cases hnode : d.node? place with
    | none => exact ⟨_, rfl⟩
    | some n =>
      cases n with
      | directory => exact absurd hnode hd
      | file old mode => exact ⟨mode, rfl⟩
  have hempty : (Step.truncate path).apply d = (d.put place (.file .empty mode), none) := by
    rw [Step.apply, htruncate]
    rfl
  have hput : (d.put place (.file .empty mode)).node? place = some (.file .empty mode) :=
    Disk.node?_put_of_node? _ hd
  have hfill := Disk.apply_fill_of_file ((Disk.extends_put _ hd).locate hl) hput content
  exact ⟨mode, by rw [writing, Disk.perform_cons_of_eq_none hempty, Disk.perform_singleton hfill]⟩

/-- Where nothing is refused, a file is written as a whole or not at all. -/
theorem perform_writing (d : Disk) (path : Path) (content : ByteArray) :
    (d.perform (writing path content)).2 = none ∨ (d.perform (writing path content)).1 = d := by
  cases h : (Step.truncate path).apply d with
  | mk emptied failed =>
    cases failed with
    | some f =>
      rw [writing, Disk.perform_cons_of_eq_some h]
      exact .inr (Disk.settle_eq_some h)
    | none =>
      left
      have hfile : ∃ place, d.locate path.render = .ok place ∧
          d.node? place ≠ some .directory := by
        obtain ⟨place, hl, ⟨_, _, hn, -⟩ | ⟨hn, -⟩⟩ :=
          Disk.truncate_eq_ok (Disk.settle_eq_none h)
        · exact ⟨place, hl, by simp [hn]⟩
        · exact ⟨place, hl, by simp [hn]⟩
      obtain ⟨place, hl, hd⟩ := hfile
      obtain ⟨mode, hwritten⟩ := perform_writing_of_locate hl hd content
      rw [hwritten]

/-- A publication without a CA bundle, or one that fails, leaves the CA bundle as it was. -/
theorem fileAt_publication
    (h : p.artifact.caBundle = none ∨ (d.perform (publication dir p)).2 ≠ none) :
    (d.perform (publication dir p)).1.fileAt (place ++ [caBundleFile]) =
      d.fileAt (place ++ [caBundleFile]) := by
  have hfront : (d.perform (unbundled dir p)).1.fileAt (place ++ [caBundleFile]) =
      d.fileAt (place ++ [caBundleFile]) :=
    Disk.fileAt_perform_of_spares fun s => spares_of_mem_unbundled
  rw [publication_eq_unbundled] at h ⊢
  cases hb : p.artifact.caBundle with
  | none => simpa using hfront
  | some bundle =>
    rw [hb] at h
    simp only [reduceCtorEq, false_or, Option.toList_some, List.flatMap_singleton] at h ⊢
    cases hu : d.perform (unbundled dir p) with
    | mk between failed =>
      rw [hu] at hfront
      rw [Disk.perform_append, hu] at h ⊢
      cases failed with
      | some f => exact hfront
      | none =>
        -- The CA bundle is not written, so all stays as it was.
        simp only at h ⊢
        rw [(perform_writing between (dir.child caBundleFile) bundle).resolve_left h]
        exact hfront

theorem Invocation.fileAt_caBundle (h : i.Into place d) :
    (i.report d).disk.fileAt (place ++ [caBundleFile]) =
      (i.bundle? d).or (d.fileAt (place ++ [caBundleFile])) := by
  rcases i.report_cases d with ⟨hproduct, hdisk, -⟩ | ⟨r, p, hr, hproduct, -, hdisk, hending⟩
  · simp [bundle?, hproduct, hdisk]
  · by_cases hp : p.artifact.caBundle = none ∨ (d.perform (publication r.outputDir p)).2 ≠ none
    · have hnone : i.bundle? d = none := by
        rw [bundle?, hproduct]
        rcases hp with hp | hp
        · simp [hp]
        · refine if_neg fun hdone => ?_
          have hcode := congrArg Ending.exitCode (hending.symm.trans hdone)
          exact hp (exitCode_ofOutcome_eq_zero_iff.1 hcode)
      rw [hnone, hdisk, fileAt_publication hp]
      rfl
    · obtain ⟨bundle, hb⟩ := Option.ne_none_iff_exists'.1 fun hno => hp (.inl hno)
      have hnone : (d.perform (publication r.outputDir p)).2 = none :=
        Classical.byContradiction fun hno => hp (.inr hno)
      have hbundle : i.bundle? d = some bundle := by
        have hdone : (i.report d).ending = .done := by
          rw [hending, hnone]
          rfl
        rw [bundle?, if_pos hdone, hproduct]
        exact hb
      have hread := (read_of_publication hr hnone).2.2 bundle hb
      rw [← hdisk] at hread
      rw [hbundle, h.fileAt hr isName_caBundleFile hread]
      rfl

/-- The files of a directory hold a product, next to a CA bundle or to none. -/
structure Holds (d : Disk) (place : Place) (p : Product) (bundle : Option ByteArray) : Prop where
  secret : d.fileAt (place ++ [secretFile]) = some (Credentials.render p.profile).toUTF8
  config : d.fileAt (place ++ [configFile]) = some p.artifact.config.toUTF8
  caBundle : d.fileAt (place ++ [caBundleFile]) = bundle

/-- A run that ends well leaves its product. Without a CA bundle it leaves the one that is there. -/
theorem Invocation.holds_of_exitCode (h : i.Into place d)
    (hr : request? i.args i.input d = some r) (hz : (i.report d).ending.exitCode = 0) :
    ∃ p, i.product? d = some p ∧ (produce i.world d r).outcome.1 = .ok p ∧
      Holds (i.report d).disk place p
        (p.artifact.caBundle.or (d.fileAt (place ++ [caBundleFile]))) := by
  have hbundle := i.fileAt_caBundle h
  rcases i.report_cases d with ⟨-, -, hcode⟩ | ⟨s, p, hs, hproduct, hproduce, hdisk, hending⟩
  · exact absurd hz (hcode (by simp [hr]))
  · obtain rfl := Option.some.inj (hr.symm.trans hs)
    rw [hending] at hz
    have hnone := exitCode_ofOutcome_eq_zero_iff.1 hz
    have hdone : (i.report d).ending = .done := by
      rw [hending, hnone]
      rfl
    obtain ⟨hconfig, hsecret, -⟩ := read_of_publication hr hnone
    rw [← hdisk] at hconfig hsecret
    refine ⟨p, hproduct, hproduce, h.fileAt hr isName_secretFile hsecret,
      h.fileAt hr isName_configFile hconfig, ?_⟩
    rw [hbundle, bundle?, if_pos hdone, hproduct]
    rfl

/-! ## Runs one after the other -/

def outputNames : List String := [secretFile, configFile, caBundleFile]

/-- The paths of the generated files lead to a place where they can be written. -/
structure Ready (d : Disk) (dir : Path) (place : Place) : Prop where
  locate : ∀ name ∈ outputNames, d.locate (dir.child name).render = .ok (place ++ [name])
  node : ∀ name ∈ outputNames, d.node? (place ++ [name]) ≠ some .directory

theorem Ready.put (h : Ready d dir place) {other : Place} (ho : d.node? other ≠ some .directory)
    (content : ByteArray) (mode : Nat) : Ready (d.put other (.file content mode)) dir place := by
  refine ⟨fun name hn => (Disk.extends_put _ ho).locate (h.locate name hn), fun name hn => ?_⟩
  by_cases he : place ++ [name] = other
  · rw [he, Disk.node?_put_of_node? _ ho]
    exact nofun
  · rw [Disk.node?_put_of_ne he]
    exact h.node name hn

/-- Files that can be written are written, one after the other. -/
theorem Ready.perform_writes (h : Ready d dir place) {files : List (String × ByteArray)}
    (hf : ∀ f ∈ files, f.1 ∈ outputNames) :
    (d.perform (files.flatMap fun f => writing (dir.child f.1) f.2)).2 = none := by
  induction files generalizing d with
  | nil => rfl
  | cons f rest ih =>
    obtain ⟨hfirst, hrest⟩ := List.forall_mem_cons.1 hf
    obtain ⟨mode, hwritten⟩ :=
      perform_writing_of_locate (h.locate f.1 hfirst) (h.node f.1 hfirst) f.2
    have hemptied := h.put (h.node f.1 hfirst) .empty mode
    rw [List.flatMap_cons, Disk.perform_append_of_eq_none hwritten]
    exact ih (hemptied.put (hemptied.node f.1 hfirst) _ _) hrest

theorem mem_outputNames_of_mem_files {f : String × ByteArray} (h : f ∈ p.files) :
    f.1 ∈ outputNames := by
  rcases mem_files.1 h with rfl | rfl | ⟨bundle, -, rfl⟩ <;> simp [outputNames]

/-- A directory can be made at a place, and has none of the generated files. -/
def Fresh (d : Disk) (dir : Path) (place : Place) : Prop :=
  ∃ made, (Step.makeDirectories dir).apply d = (made, none) ∧
    ∀ name ∈ outputNames, made.locate (dir.child name).render = .ok (place ++ [name]) ∧
      made.node? (place ++ [name]) = none

theorem Fresh.perform_publication (h : Fresh d dir place) (p : Product) :
    (d.perform (publication dir p)).2 = none := by
  obtain ⟨made, hmade, hnames⟩ := h
  have hmem : secretFile ∈ outputNames := List.mem_cons_self
  have hready : Ready made dir place :=
    ⟨fun name hn => (hnames name hn).1, fun name hn => by simp [(hnames name hn).2]⟩
  obtain ⟨hl, hn⟩ := hnames secretFile hmem
  -- The secret is made, and closed, before anything is written.
  have htouched := hready.put (hready.node _ hmem) .empty secretMode
  have hnode : (made.put (place ++ [secretFile]) (.file .empty secretMode)).node?
      (place ++ [secretFile]) = some (.file .empty secretMode) :=
    Disk.node?_put_self (by simp)
  have hclosed := htouched.put (htouched.node _ hmem) .empty secretMode
  rw [publication, fileSteps, contents_eq_flatMap, Disk.perform_cons_of_eq_none hmade,
    List.cons_append, List.cons_append, List.nil_append,
    Disk.perform_cons_of_eq_none (Disk.apply_touch_of_none hl hn secretMode),
    Disk.perform_cons_of_eq_none
      (Disk.apply_setMode_of_file (htouched.locate _ hmem) hnode secretMode)]
  exact hclosed.perform_writes fun f => mem_outputNames_of_mem_files

theorem Fresh.fileAt_caBundle (h : Fresh d dir place) :
    d.fileAt (place ++ [caBundleFile]) = none := by
  obtain ⟨made, hmade, hnames⟩ := h
  have hnone : made.fileAt (place ++ [caBundleFile]) = none := by
    rw [Disk.fileAt, (hnames caBundleFile (by simp [outputNames])).2]
  have hspares : ∀ s ∈ [Step.makeDirectories dir], s.Spares caBundleFile := by
    intro s hs q hq
    obtain rfl := List.mem_singleton.1 hs
    cases hq
  have hsame : (d.perform [.makeDirectories dir]).1.fileAt (place ++ [caBundleFile]) =
      d.fileAt (place ++ [caBundleFile]) := Disk.fileAt_perform_of_spares hspares
  rw [Disk.perform_singleton hmade] at hsame
  exact hsame.symm.trans hnone

/-- A fresh directory is where the output directory leads once the files are there. -/
theorem Fresh.into (h : Fresh d r.outputDir place) (hr : request? i.args i.input d = some r)
    (hdisk : (i.report d).disk = (d.perform (publication r.outputDir p)).1) : i.Into place d := by
  intro s q hs hq
  obtain rfl := Option.some.inj (hr.symm.trans hs)
  obtain ⟨made, hmade, hnames⟩ := h
  have hextends : Disk.Extends made (i.report d).disk := by
    rw [hdisk, publication, Disk.perform_cons_of_eq_none hmade]
    exact Disk.perform_extends made _ Disk.unlimited
  have hl := hextends.locate (hnames secretFile List.mem_cons_self).1
  obtain ⟨above, habove, he⟩ :=
    Disk.locate_child_eq_ok (wellFormed_outputDir hr) isName_secretFile hl
  rw [habove] at hq
  cases hq
  exact (List.append_cancel_right he).symm

/-- A run into a fresh directory, whose stages succeed, leaves its product there and nothing else. -/
theorem Fresh.holds (h : Fresh d r.outputDir place) (hr : request? i.args i.input d = some r)
    (hp : (produce i.world d r).outcome.1 = .ok p) :
    (i.report d).ending.exitCode = 0 ∧ Holds (i.report d).disk place p p.artifact.caBundle := by
  have hproduct : i.product? d = some p := by
    rw [Invocation.product?, hr]
    simp only [hp]
    rfl
  rcases i.report_cases d with ⟨hnone, -⟩ | ⟨s, p', hs, hproduct', -, hdisk, hending⟩
  · cases hproduct.symm.trans hnone
  · obtain rfl := Option.some.inj (hr.symm.trans hs)
    obtain rfl := Option.some.inj (hproduct.symm.trans hproduct')
    have hz : (i.report d).ending.exitCode = 0 := by
      rw [hending]
      exact exitCode_ofOutcome_eq_zero_iff.2 (h.perform_publication p)
    obtain ⟨p', hproduct', -, hholds⟩ := Invocation.holds_of_exitCode (h.into hr hdisk) hr hz
    obtain rfl := Option.some.inj (hproduct.symm.trans hproduct')
    rw [h.fileAt_caBundle, Option.or_none] at hholds
    exact ⟨hz, hholds⟩

end Command

end CloudConf
