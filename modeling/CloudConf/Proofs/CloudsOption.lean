import CloudConf.Disk.Listing
import CloudConf.Proofs.Products

/-! # A clouds file changes where the clouds are read from -/
namespace CloudConf

theorem eraseDups_filter {α : Type} [BEq α] [LawfulBEq α] (p : α → Bool) :
    ∀ l : List α, (l.filter p).eraseDups = l.eraseDups.filter p
  | [] => rfl
  | a :: l => by
    have hlength : (l.filter fun b => !b == a).length < l.length + 1 :=
      Nat.lt_succ_of_le (List.length_filter_le _ _)
    have hrest := eraseDups_filter p (l.filter fun b => !b == a)
    have hswap : (l.filter fun b => !b == a).filter p = (l.filter p).filter fun b => !b == a := by
      rw [List.filter_filter, List.filter_filter]
      exact List.filter_congr fun b _ => Bool.and_comm _ _
    rw [List.eraseDups_cons]
    by_cases ha : p a
    · rw [List.filter_cons_of_pos ha, List.filter_cons_of_pos ha, List.eraseDups_cons, ← hswap,
        hrest]
    · have hno : (l.filter p).filter (fun b => !b == a) = l.filter p := by
        refine List.filter_eq_self.2 fun b hb => ?_
        have hne : b ≠ a := fun he => ha (he ▸ List.of_mem_filter hb)
        simpa using hne
      rw [List.filter_cons_of_neg ha, List.filter_cons_of_neg ha, ← hrest, hswap, hno]
termination_by l => l.length

namespace Command

/-! ## The command line without the option -/

/-- Leaves out the option for a clouds file wherever it stands, with its values. -/
def withoutClouds : List String → List String
  | [] => []
  | arg :: rest =>
    if arg = "--" then arg :: rest
    else if !Arguments.isOption arg then arg :: withoutClouds rest
    else match Arguments.splitValue arg with
      | ("--help", none) => arg :: withoutClouds rest
      | (name, some _) =>
        if name = Key.cloudsFile.name then withoutClouds rest else arg :: withoutClouds rest
      | (name, none) =>
        match rest with
        | [] => [arg]
        | value :: rest =>
          if name = Key.cloudsFile.name then withoutClouds rest
          else arg :: value :: withoutClouds rest

theorem Key.eq_of_ofName? {name : String} {key : Key} (h : Key.ofName? name = some key) :
    key.name = name := by
  have hname := List.find?_some (p := fun k : Key => decide (k.name = name)) h
  exact of_decide_eq_true hname

namespace Arguments

variable {arg name value : String} {rest : List String}

/-! ### How arguments are read, one after the other -/

/-- An option with its value, in front of other arguments. -/
def withValue (name value : String) (after : Option Arguments) : Option Arguments := do
  let key ← Key.ofName? name
  return addValue key value (← after)

theorem parse_end (rest : List String) : parse ("--" :: rest) = some { empty with others := rest } := by
  rw [parse.eq_def]
  rfl

theorem parse_other (hend : arg ≠ "--") (ho : isOption arg = false) :
    parse (arg :: rest) = (parse rest).map (addOther arg) := by
  rw [parse.eq_def]
  simp only [hend, ho, if_false, Bool.not_false, if_true]

theorem parse_option (hend : arg ≠ "--") (ho : isOption arg = true) :
    parse (arg :: rest) =
      match splitValue arg with
      | ("--help", none) => (parse rest).map fun a => { a with wantsHelp := true }
      | (name, some value) => withValue name value (parse rest)
      | (name, none) =>
        match rest with
        | [] => none
        | value :: rest => withValue name value (parse rest) := by
  rw [parse.eq_def]
  simp only [hend, ho, if_false, Bool.not_true, Bool.false_eq_true]
  rfl

/-- The value of an option that comes without one is what follows it. -/
theorem parse_valued (hend : arg ≠ "--") (ho : isOption arg = true)
    (hs : splitValue arg = (name, none)) (hh : name ≠ "--help") :
    parse (arg :: rest) =
      match rest with
      | [] => none
      | value :: rest => withValue name value (parse rest) := by
  rw [parse_option hend ho, hs]
  split
  · exact absurd (Prod.mk.inj ‹_›).1 hh
  · cases (Prod.mk.inj ‹_›).2
  · rename_i heq
    cases heq
    rfl

def withoutClouds (a : Arguments) : Arguments :=
  { a with given := a.given.filter (·.1 ≠ .cloudsFile) }

theorem withoutClouds_withValue_cloudsFile (value : String) (after : Option Arguments) :
    (withValue Key.cloudsFile.name value after).map withoutClouds = after.map withoutClouds := by
  cases after <;> rfl

theorem withoutClouds_withValue (h : name ≠ Key.cloudsFile.name) (value : String)
    (after : Option Arguments) :
    (withValue name value after).map withoutClouds =
      withValue name value (after.map withoutClouds) := by
  unfold withValue
  cases hk : Key.ofName? name with
  | none => rfl
  | some key =>
    have hkey : key ≠ .cloudsFile := by
      rintro rfl
      exact h (Key.eq_of_ofName? hk).symm
    cases after with
    | none => rfl
    | some a =>
      change some _ = some _
      simp [withoutClouds, addValue, hkey]

theorem parse_withoutClouds (args : List String) :
    parse (Command.withoutClouds args) = (parse args).map withoutClouds := by
  fun_induction Command.withoutClouds args with
  | case1 => rfl
  | case2 rest =>
    rw [parse_end]
    rfl
  | case3 arg rest hend ho ih =>
    have ho : isOption arg = false := by simpa using ho
    rw [parse_other hend ho, parse_other hend ho, ih, Option.map_map, Option.map_map]
    rfl
  | case4 arg rest hend ho hs ih =>
    have ho : isOption arg = true := by simpa using ho
    rw [parse_option hend ho, parse_option hend ho, hs]
    simp only [ih, Option.map_map]
    rfl
  | case5 arg rest hend ho value hs ih =>
    have ho : isOption arg = true := by simpa using ho
    rw [parse_option hend ho, hs, ih]
    exact (withoutClouds_withValue_cloudsFile ..).symm
  | case6 arg rest hend ho name value hs hn ih =>
    have ho : isOption arg = true := by simpa using ho
    rw [parse_option hend ho, parse_option hend ho, hs]
    simp only [ih]
    exact (withoutClouds_withValue hn ..).symm
  | case7 arg hend ho name hh hs =>
    have ho : isOption arg = true := by simpa using ho
    rw [parse_valued hend ho hs hh]
    rfl
  | case8 arg hend ho value rest hh hs ih =>
    have ho : isOption arg = true := by simpa using ho
    rw [parse_valued hend ho hs hh, ih]
    exact (withoutClouds_withValue_cloudsFile ..).symm
  | case9 arg hend ho name hh hs value rest hn ih =>
    have ho : isOption arg = true := by simpa using ho
    rw [parse_valued hend ho hs hh, parse_valued hend ho hs hh]
    simp only [ih]
    exact (withoutClouds_withValue hn ..).symm

theorem value?_withoutClouds (a : Arguments) {key : Key} (h : key ≠ .cloudsFile) :
    a.withoutClouds.value? key = a.value? key := by
  have hf : (a.given.filter (·.1 ≠ .cloudsFile)).filter (·.1 = key) =
      a.given.filter (·.1 = key) := by
    rw [List.filter_filter]
    refine List.filter_congr fun e _ => ?_
    by_cases he : e.1 = key
    · simp [he, h]
    · simp [he]
  simp only [value?, withoutClouds, hf]

theorem cloudsFile_notMem_withoutClouds (a : Arguments) :
    Key.cloudsFile ∉ a.withoutClouds.given.map (·.1) := by
  intro hm
  obtain ⟨e, he, hk⟩ := List.mem_map.1 hm
  have hne : e.1 ≠ .cloudsFile := by simpa using (List.mem_filter.1 he).2
  exact hne hk

theorem order_withoutClouds (a : Arguments) :
    a.withoutClouds.order.filter (· ≠ .cloudsFile) = a.order.filter (· ≠ .cloudsFile) := by
  have hkeys : a.withoutClouds.given.map (·.1) = (a.given.map (·.1)).filter (· ≠ .cloudsFile) := by
    rw [List.filter_map]
    rfl
  simp only [order, hkeys, eraseDups_filter, List.filter_append, List.filter_filter, Bool.and_self]
  congr 1
  refine List.filter_congr fun key _ => ?_
  by_cases hk : key = .cloudsFile <;> simp [hk]

end Arguments

namespace Request

variable {d : Disk} {input : ByteArray} {a : Arguments} {path : String} {content : ByteArray}
  {mode : Nat}

def withClouds (r : Request) (file : Option String) : Request := { r with cloudsFile := file }

theorem accept_withClouds {key : Key} (h : key ≠ .cloudsFile) (r : Request)
    (file : Option String) (value : Option String) :
    accept d input (r.withClouds file) key value =
      (accept d input r key value).map (·.withClouds file) := by
  unfold accept
  cases key with
  | cloudsFile => exact absurd rfl h
  | installConfig =>
    cases value with
    | none => rfl
    | some path =>
      dsimp only
      split
      · rfl
      · cases d.read path <;> rfl
  | outputDir =>
    cases value with
    | none => rfl
    | some path =>
      dsimp only
      split <;> rfl
  | logLevel =>
    cases value with
    | none => rfl
    | some name =>
      dsimp only
      split <;> rfl

theorem foldlM_accept_of_none {value? : Key → Option String} (h : value? .cloudsFile = none)
    (keys : List Key) (r : Request) :
    (keys.filter (· ≠ .cloudsFile)).foldlM (fun r key => accept d input r key (value? key)) r =
      keys.foldlM (fun r key => accept d input r key (value? key)) r := by
  induction keys generalizing r with
  | nil => rfl
  | cons key keys ih =>
    by_cases hk : key = .cloudsFile
    · subst hk
      rw [List.filter_cons_of_neg (by simp), List.foldlM_cons, h, ih]
      rfl
    · rw [List.filter_cons_of_pos (by simpa using hk), List.foldlM_cons, List.foldlM_cons]
      exact congrArg _ (funext ih)

/-- An option that names a clouds file which is there changes nothing but the clouds file. -/
theorem foldlM_accept_withClouds (input : ByteArray) {value? value?' : Key → Option String}
    (hpath : value? .cloudsFile = some path) (hfile : d.stat path = .ok (.file content mode))
    (hother : ∀ key, key ≠ .cloudsFile → value?' key = value? key)
    (keys : List Key) (r : Request) (file : Option String) :
    keys.foldlM (fun r key => accept d input r key (value? key)) (r.withClouds file) =
      ((keys.filter (· ≠ .cloudsFile)).foldlM
        (fun r key => accept d input r key (value?' key)) r).map
          (·.withClouds (if .cloudsFile ∈ keys then some (Path.ofString path).render else file)) := by
  induction keys generalizing r file with
  | nil => rfl
  | cons key keys ih =>
    rw [List.foldlM_cons]
    by_cases hk : key = .cloudsFile
    · subst hk
      have haccept : accept d input (r.withClouds file) .cloudsFile (value? .cloudsFile) =
          .ok (r.withClouds (some (Path.ofString path).render)) := by
        rw [hpath]
        simp only [accept, hfile]
        rfl
      rw [haccept, List.filter_cons_of_neg (by simp), if_pos List.mem_cons_self]
      refine (ih r _).trans ?_
      rw [ite_self]
    · rw [accept_withClouds hk, List.filter_cons_of_pos (by simpa using hk), List.foldlM_cons,
        hother key hk]
      cases accept d input r key (value? key) with
      | error e => rfl
      | ok next =>
        refine (ih next file).trans ?_
        have hmem : Key.cloudsFile ∈ key :: keys ↔ Key.cloudsFile ∈ keys := by
          simp [Ne.symm hk]
        simp only [hmem]
        rfl

theorem ofArguments_withoutClouds (input : ByteArray) (hpath : a.value? .cloudsFile = some path)
    (hfile : d.stat path = .ok (.file content mode)) :
    ofArguments d input a =
      (ofArguments d input a.withoutClouds).map
        (·.withClouds (some (Path.ofString path).render)) := by
  have hmem : Key.cloudsFile ∈ a.order := by
    refine List.mem_append_left _ (List.mem_eraseDups.2 (Classical.byContradiction fun hno => ?_))
    rw [value?_eq_none hno] at hpath
    cases hpath
  have hfold := foldlM_accept_withClouds input hpath hfile
    (fun key => a.value?_withoutClouds) a.order initial none
  rw [if_pos hmem, ← a.order_withoutClouds,
    foldlM_accept_of_none (value?_eq_none a.cloudsFile_notMem_withoutClouds)] at hfold
  have hinitial : initial.withClouds none = initial := rfl
  rw [hinitial] at hfold
  simp only [ofArguments, hfold]
  cases a.withoutClouds.order.foldlM
      (fun r key => accept d input r key (a.withoutClouds.value? key)) initial with
  | error e => rfl
  | ok r =>
    change (if a.others = [] then _ else _) = Except.map _ (if a.others = [] then _ else _)
    split <;> rfl

end Request

/-! ## Two runs side by side -/

open CloudConf.Action
open CloudAccess (noClouds)

variable {w : World} {d : Disk} {r : Request} {args : List String} {input : ByteArray}
  {a : Arguments} {path : String} {content : ByteArray} {mode : Nat}

/-- What a run does once it has a cloud. -/
def finish (w : World) (d : Disk) (dir : Path) (settings : Settings) (access : CloudAccess) :
    Action (Disk × Option Failure) := do
  let artifact ← configure w d settings access
  publish d dir ⟨settings, access.profile, artifact⟩

theorem adds_finish (w : World) (d : Disk) (dir : Path) (settings : Settings)
    (access : CloudAccess) : Adds (finish w d dir settings access) :=
  (adds_configure w d settings access).bind fun _ => adds_publish d dir _ _

theorem produce_bind_publish (w : World) (d : Disk) (r : Request) :
    (produce w d r >>= publish d r.outputDir) = (do
      let settings ← InstallConfig.load w.reader r.stream
      let access ← reach w r.cloudsFile settings.cloud
      finish w d r.outputDir settings access) := by
  simp only [produce_eq, finish, bind_assoc, pure_bind]

def Ending.ofResult : Except Failure (Disk × Option Failure) → Ending
  | .error f => .ofFailure f
  | .ok (_, stopped) => .ofOutcome stopped

def treeOf (d : Disk) : Except Failure (Disk × Option Failure) → Disk
  | .error _ => d
  | .ok (d', _) => d'

def reportOf (level : Level) (d : Disk)
    (outcome : Except Failure (Disk × Option Failure) × Journal) : Report :=
  ⟨.ofResult outcome.1, outcome.2, level, treeOf d outcome.1⟩

theorem fulfil_eq_reportOf (w : World) (d : Disk) (r : Request) :
    fulfil w d r = reportOf r.level d (produce w d r >>= publish d r.outputDir).outcome := by
  unfold fulfil
  dsimp only
  split
  · rename_i h
    rw [h]
    rfl
  · rename_i h
    rw [h]
    rfl
  · rename_i h
    rw [h]
    rfl

/-- What comes of two runs, the first one with a file of clouds. They do the same but for where the
clouds are read from, unless these cannot be loaded, which only the second one reports. -/
inductive Compared (w : World) (file : String) {α : Type} :
    Except Failure α × Journal → Except Failure α × Journal → Prop
  | unreached {r : Except Failure α} {log : List LogEntry} :
    Compared w file (r, ⟨[], log⟩) (r, ⟨[], log⟩)
  | alike {r : Except Failure α} {ds : List Demand} {log : List LogEntry}
    (h : ∀ f, w.loaderFailure = some f → f.isRemote = false) :
    Compared w file (r, ⟨.call (.loader (some [file])) :: ds, log⟩)
      (r, ⟨.call (.loader none) :: ds, log⟩)
  | apart {f : Failure} {e : LogEntry} {log : List LogEntry} (h : w.loaderFailure = some f)
    (hf : f.isRemote = true) :
    Compared w file (.error f, ⟨[.call (.loader (some [file]))], log⟩)
      (.error (noClouds f), ⟨[.call (.loader none)], log ++ [e]⟩)

theorem compared_reach {α : Type} (w : World) (file : String) (cloud : WideText)
    {rest : CloudAccess → Action α} (hrest : ∀ access, Adds (rest access)) (log : List LogEntry) :
    Compared w file ((reach w (some file) cloud >>= rest).runOn ⟨[], log⟩)
      ((reach w none cloud >>= rest).runOn ⟨[], log⟩) := by
  have hasked : (⟨[], log⟩ ++ ⟨[.call (.loader none)], []⟩ : Journal) =
      ⟨[.call (.loader none)], log⟩ := (Journal.asked ⟨[], log⟩ _).symm
  have hgiven : (reach w (some file) cloud >>= rest) =
      (w.loadClouds (some [file]) >>= fun _ => CloudAccess.load w true cloud >>= rest) :=
    bind_assoc _ _ _
  have hplain : reach w none cloud = CloudAccess.load w false cloud := pure_bind _ _
  obtain ⟨e, hload⟩ := CloudAccess.runOn_load_unloaded w cloud ⟨[], log⟩
  rw [hgiven, hplain, runOn_bind, w.runOn_loadClouds]
  cases hf : w.loaderFailure with
  | none =>
    have hadds : Adds (CloudAccess.load w true cloud >>= rest) :=
      (CloudAccess.adds_load w true cloud).bind hrest
    have hsame : (CloudAccess.load w false cloud >>= rest).runOn ⟨[], log⟩ =
        (CloudAccess.load w true cloud >>= rest).runOn ⟨[.call (.loader none)], log⟩ := by
      rw [runOn_bind, hload, hf, runOn_bind]
      simp only [hasked]
    rw [hsame, hadds]
    simp only [resultOf]
    rw [hadds]
    exact .alike (by simp [hf])
  | some f =>
    simp only [resultOf]
    rw [runOn_bind, hload, hf]
    by_cases hr : f.isRemote
    · simp only [hr, if_true]
      exact .apart hf hr
    · simp only [hr, if_false, Bool.false_eq_true, hasked]
      refine .alike fun g hg => ?_
      obtain rfl := Option.some.inj (hf.symm.trans hg)
      simpa using hr

theorem compared_outcome (w : World) (d : Disk) (r : Request) (file : String) :
    Compared w file
      (produce w d (r.withClouds (some file)) >>= publish d r.outputDir).outcome
      (produce w d (r.withClouds none) >>= publish d r.outputDir).outcome := by
  have hgiven := produce_bind_publish w d (r.withClouds (some file))
  have hplain := produce_bind_publish w d (r.withClouds none)
  simp only [Request.withClouds, Request.stream] at hgiven hplain ⊢
  rw [hgiven, hplain, outcome, outcome, runOn_bind, runOn_bind, InstallConfig.runOn_load]
  cases InstallConfig.document w.reader (.ofBytes r.content r.name) >>=
      InstallConfig.ofDocument w.reader with
  | error f => exact .unreached
  | ok settings =>
    exact compared_reach w file settings.cloud (fun access => adds_finish w d _ settings access) _

/-! ## What the option changes -/

/-- A run loads the clouds, and that fails in a way that the session reports. -/
def CannotLoad (w : World) (report : Report) (f : Failure) : Prop :=
  w.loaderFailure = some f ∧ f.isRemote = true ∧ report.journal.demands ≠ []

/-- A run with a file of clouds, and one without. -/
structure SameButClouds (w : World) (file : String) (given plain : Report) : Prop where
  exitCode : given.ending.exitCode = plain.ending.exitCode
  disk : given.disk = plain.disk
  /-- Both ask for the same, but for where the clouds are read from, which is asked for first. -/
  demands : given.journal.demands = [] ∧ plain.journal.demands = [] ∨
    ∃ ds, given.journal.demands = .call (.loader (some [file])) :: ds ∧
      plain.journal.demands = .call (.loader none) :: ds
  same_iff : (given.ending = plain.ending ∧ given.errorText = plain.errorText) ↔
    ¬ ∃ f, CannotLoad w given f
  /-- The failure to load a file of clouds leaves as it is. -/
  unreported : ∀ f, CannotLoad w given f → given.ending = .failed f ∧
    plain.ending = .reported (noClouds f) ∧
    ∃ logged, plain.errorText = given.errorText ++ (logged ++ plain.ending.notice)

theorem SameButClouds.of_eq {report : Report} (file : String) (h : report.journal.demands = []) :
    SameButClouds w file report report where
  exitCode := rfl
  disk := rfl
  demands := .inl ⟨h, h⟩
  same_iff := ⟨fun _ ⟨_, _, _, hne⟩ => hne h, fun _ => ⟨rfl, rfl⟩⟩
  unreported := fun _ ⟨_, _, hne⟩ => absurd h hne

theorem ofFailure_of_isRemote {f : Failure} (h : f.isRemote = true) :
    Ending.ofFailure f = .failed f := by
  unfold Failure.isRemote at h
  unfold Ending.ofFailure
  cases hk : f.kind <;> simp_all

theorem sameButClouds_of_compared {file : String}
    {x y : Except Failure (Disk × Option Failure) × Journal} (h : Compared w file x y)
    (level : Level) (d : Disk) :
    SameButClouds w file (reportOf level d x) (reportOf level d y) := by
  cases h with
  | unreached => exact .of_eq file rfl
  | alike h =>
    have hno : ∀ f, w.loaderFailure = some f → f.isRemote ≠ true := fun f hf => by simp [h f hf]
    exact ⟨rfl, rfl, .inr ⟨_, rfl, rfl⟩, ⟨fun _ ⟨f, hf, hr, _⟩ => hno f hf hr, fun _ => ⟨rfl, rfl⟩⟩,
      fun f ⟨hf, hr, _⟩ => absurd hr (hno f hf)⟩
  | apart h hr =>
    rename_i f e log
    have hgiven : (reportOf level d (.error f, ⟨[.call (.loader (some [file]))], log⟩)).ending =
        .failed f := ofFailure_of_isRemote hr
    have hload : CannotLoad w (reportOf level d (.error f, ⟨[.call (.loader (some [file]))], log⟩))
        f := ⟨h, hr, List.cons_ne_nil _ _⟩
    refine ⟨?_, rfl, .inr ⟨[], rfl, rfl⟩, ⟨fun ⟨he, _⟩ => ?_, fun hno => absurd ⟨f, hload⟩ hno⟩,
      fun g hg => ?_⟩
    · rw [hgiven]
      rfl
    · rw [hgiven] at he
      cases he
    · obtain rfl := Option.some.inj (h.symm.trans hg.1)
      refine ⟨hgiven, rfl, String.join (([e].filter fun e =>
        decide (level.severity ≤ e.level.severity)).map LogEntry.line), ?_⟩
      have hquiet : (Ending.failed f).notice = "" := rfl
      simp only [Report.errorText, hgiven, hquiet, String.append_empty]
      simp only [reportOf, List.filter_append, List.map_append, String.join_append,
        String.append_assoc]
      rfl

/-- A command line that names a file of clouds, and the same one without that option. The runs end
alike, leave the same tree and ask for the same, but for where the clouds are read from. Only if the
clouds cannot be loaded, in a way that the session reports, that failure leaves the run with the file
as it is, while the other run reports it. -/
theorem run_withoutClouds (hargs : Arguments.parse args = some a)
    (hpath : a.value? .cloudsFile = some path) (hfile : d.stat path = .ok (.file content mode)) :
    SameButClouds w (Path.ofString path).render (run args input w d)
      (run (withoutClouds args) input w d) := by
  have hplain : Arguments.parse (withoutClouds args) = some a.withoutClouds := by
    rw [Arguments.parse_withoutClouds, hargs]
    rfl
  have hrequest := Request.ofArguments_withoutClouds input hpath hfile
  have hhelp : a.withoutClouds.wantsHelp = a.wantsHelp := rfl
  cases hh : a.wantsHelp with
  | true =>
    simp only [run, hargs, hplain, hhelp, hh, if_true]
    exact .of_eq _ rfl
  | false =>
    cases ho : Request.ofArguments d input a.withoutClouds with
    | error e =>
      rw [ho] at hrequest
      simp only [run, hargs, hplain, hhelp, hh, hrequest, ho, Except.map, Bool.false_eq_true,
        if_false]
      cases e with
      | usage => exact .of_eq _ rfl
      | failing f => exact .of_eq _ rfl
    | ok r =>
      rw [ho] at hrequest
      have hleads : request? (withoutClouds args) input d = some r := by
        simp [request?, hplain, hhelp, hh, ho, Except.toOption]
      have hnone : r.cloudsFile = none :=
        cloudsFile_eq_none hplain a.cloudsFile_notMem_withoutClouds hleads
      have hr : r = r.withClouds none := by
        rw [Request.withClouds, ← hnone]
      simp only [run, hargs, hplain, hhelp, hh, hrequest, ho, Except.map, Bool.false_eq_true,
        if_false]
      rw [fulfil_eq_reportOf, fulfil_eq_reportOf]
      have hcompared := compared_outcome w d r (Path.ofString path).render
      rw [← hr] at hcompared
      exact sameButClouds_of_compared hcompared r.level d

def unloadable : World where
  clouds := []
  loaderFailure := some (.alone (.cloud .general) "down")
  cloudFailure := none
  connectionFailure := none
  networkFailure := none
  client := default

/-- The option between others, and a failure that the two runs pass on differently. -/
theorem run_withoutClouds_unloadable :
    let d := Disk.fresh.layFile "c.yaml" .empty none
    let text := "platform: \x7bopenstack: \x7bcloud: c\x7d\x7d"
    let args := ["--install-config", "-", "--clouds-yaml", "./c.yaml", "--output-dir=out"]
    let given := run args text.toUTF8 unloadable d
    withoutClouds args = ["--install-config", "-", "--output-dir=out"] ∧
      SameButClouds unloadable "c.yaml" given (run (withoutClouds args) text.toUTF8 unloadable d) ∧
      CannotLoad unloadable given (.alone (.cloud .general) "down") := by
  intro d text args given
  let a : Arguments :=
    ⟨false, [(.installConfig, "-"), (.cloudsFile, "./c.yaml"), (.outputDir, "out")], []⟩
  have hargs : Arguments.parse args = some a := by decide
  have hpath : a.value? .cloudsFile = some "./c.yaml" := by decide
  have hfile : d.stat "./c.yaml" = .ok (.file .empty 0o644) := by decide +kernel
  have hrender : (Path.ofString "./c.yaml").render = "c.yaml" := by decide +kernel
  have hsame : SameButClouds unloadable (Path.ofString "./c.yaml").render given
      (run (withoutClouds args) text.toUTF8 unloadable d) := run_withoutClouds hargs hpath hfile
  rw [hrender] at hsame
  refine ⟨by decide, hsame, rfl, rfl, ?_⟩
  have hlength : given.journal.demands.length = 1 := by decide +kernel
  intro hnone
  rw [hnone] at hlength
  cases hlength

/-- The option changes how the failure to load the clouds is reported. -/
theorem run_withoutClouds_not_alike :
    ¬ ∀ (args : List String) (a : Arguments) (path : String) (content : ByteArray) (mode : Nat)
      (input : ByteArray) (w : World) (d : Disk), Arguments.parse args = some a →
      a.value? .cloudsFile = some path → d.stat path = .ok (.file content mode) →
      (run args input w d).ending = (run (withoutClouds args) input w d).ending ∧
        (run args input w d).errorText = (run (withoutClouds args) input w d).errorText := by
  intro h
  have hargs : Arguments.parse ["--install-config", "-", "--clouds-yaml", "c.yaml",
      "--output-dir", "out"] = some ⟨false,
      [(.installConfig, "-"), (.cloudsFile, "c.yaml"), (.outputDir, "out")], []⟩ := by decide
  have hfile : (Disk.fresh.layFile "c.yaml" .empty none).stat "c.yaml" =
      .ok (.file .empty 0o644) := by decide +kernel
  have hends := (h _ _ _ _ _ "platform: \x7bopenstack: \x7bcloud: c\x7d\x7d".toUTF8 unloadable _
    hargs rfl hfile).1
  revert hends
  decide +kernel

end Command

end CloudConf
