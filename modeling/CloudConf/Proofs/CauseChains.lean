import CloudConf.Proofs.CaFileReading
import CloudConf.Proofs.ControlSequences
import CloudConf.Proofs.Products

/-! # How failures tell their causes -/
namespace CloudConf

namespace Failure

variable {f : Failure} {texts : List String} {root? : Option Failure}

/-- A failure of a stage with what caused it, link by link: the texts of the failures of stages, each
the cause of the one before, and the failure of no stage that caused the last of them, if there is
one. -/
inductive Chain : Failure → List String → Option Failure → Prop
  | last (s : Stage) (text : String) : Chain (alone (.stage s) text) [text] none
  | foreign (s : Stage) (text : String) {f : Failure} (h : f.isStage = false) :
    Chain (because (.stage s) text f) [text] (some f)
  | next (s : Stage) (text : String) {f : Failure} {texts : List String} {root? : Option Failure}
    (h : Chain f texts root?) : Chain (because (.stage s) text f) (text :: texts) root?

theorem Chain.isStage (h : f.Chain texts root?) : f.isStage = true := by
  cases h <;> rfl

theorem Chain.ne_nil (h : f.Chain texts root?) : texts ≠ [] := by
  cases h <;> exact List.cons_ne_nil _ _

/-- The failures of stages are those that a chain begins with. -/
theorem isStage_iff_exists_chain (f : Failure) :
    f.isStage = true ↔ ∃ texts root?, f.Chain texts root? := by
  constructor
  · intro h
    induction f with
    | alone kind text =>
      cases kind with
      | stage s => exact ⟨_, _, .last s text⟩
      | _ => cases h
    | because kind text cause ih =>
      cases kind with
      | stage s =>
        cases hc : cause.isStage with
        | true =>
          obtain ⟨texts, root?, hchain⟩ := ih hc
          exact ⟨_, _, .next s text hchain⟩
        | false => exact ⟨_, _, .foreign s text hc⟩
      | _ => cases h
  · rintro ⟨texts, root?, h⟩
    exact h.isStage

theorem message_of_isStage_eq_false (h : f.isStage = false) :
    f.message = (alone f.kind f.text).message := by
  cases f with
  | alone kind text => rfl
  | because kind text cause =>
    cases kind with
    | stage s => cases h
    | _ => rfl

theorem Chain.message_eq (h : f.Chain texts root?) :
    f.message = ": ".intercalate
      (texts ++ root?.toList.map fun g => (alone g.kind g.text).message) := by
  induction h with
  | last s text => simp [message]
  | foreign s text h =>
    rw [message, message_of_isStage_eq_false h]
    simp [String.intercalate_cons_of_ne_nil]
  | next s text h ih =>
    rw [message, ih, List.cons_append, String.intercalate_cons_of_ne_nil]
    exact List.append_ne_nil_of_left_ne_nil h.ne_nil _

/-- A stage that reports a failure adds one link to its chain. -/
theorem chain_because_iff {s : Stage} {text : String} :
    (because (.stage s) text f).Chain texts root? ↔ ∃ rest, texts = text :: rest ∧
      (f.Chain rest root? ∨ f.isStage = false ∧ rest = [] ∧ root? = some f) := by
  constructor
  · intro h
    cases h with
    | foreign s text h => exact ⟨[], rfl, .inr ⟨h, rfl, rfl⟩⟩
    | next s text h => exact ⟨_, rfl, .inl h⟩
  · rintro ⟨rest, rfl, h | ⟨h, rfl, rfl⟩⟩
    · exact .next s text h
    · exact .foreign s text h

end Failure

theorem Action.runOn_bind_error {α β : Type} {a : Action α} {k : α → Action β} {f : Failure}
    {j : Journal} (h : (a.runOn j).1 = .error f) : ((a >>= k).runOn j).1 = .error f := by
  rw [runOn_bind]
  cases ha : a.runOn j with
  | mk r i =>
    rw [ha] at h
    rw [show r = .error f from h]

namespace Provider

open CloudConf.Action

variable {p : Profile} {network : WideText} {resolve : Resolver} {read : FileReader}
  {bundle : Option ByteArray} {x : Failure} {j i i' : Journal}

def unresolved (network : WideText) (x : Failure) : Failure :=
  .because (.stage .lookup) s!"failed to fetch external network {network}" x

/-- All failures of a look-up but signals are reported. -/
theorem runOn_generate_of_unresolved (hb : (readCaBundle read p.caCertFile).runOn j = (.ok bundle, i))
    (hn : network.isEmpty = false) (hx : (resolve network).runOn i = (.error x, i')) :
    ((generate p network resolve read).runOn j).1 =
      .error (if x.isSignal then x else unresolved network x) := by
  rw [generate, runOn_bind_ok hb]
  refine runOn_bind_error ?_
  rw [findFloating, if_neg (by simp [hn])]
  refine runOn_bind_error ?_
  rw [runOn_within, hx]
  cases hs : x.isSignal <;> simp [hs, unresolved]

end Provider

namespace Command

open CloudConf.Action

variable {args : List String} {input : ByteArray} {w : World} {d : Disk} {r : Request}
  {network : WideText} {x : Failure}

/-- The network that a request leads to looking up, and what comes of it. -/
def lookedUp (w : World) (d : Disk) (r : Request) :
    Action (WideText × Except Failure (Option String)) := do
  let settings ← InstallConfig.load w.reader r.stream
  let access ← reach w r.cloudsFile settings.cloud
  let client ← CloudAccess.networkClient w access.region
  let _ ← Provider.readCaBundle (Provider.diskReader d) access.profile.caCertFile
  return (settings.externalNetwork, Lookup.answer client settings.externalNetwork)

/-- A request leads to looking a network up, and that fails. -/
def LookupFails (w : World) (d : Disk) (r : Request) (network : WideText) (x : Failure) : Prop :=
  network.isEmpty = false ∧ (lookedUp w d r).outcome.1 = .ok (network, .error x)

/-- A text as it is written where no terminal is. -/
def echoed (text : String) : String := String.ofList (Text.withoutControls text.toList)

theorem LookupFails.outcome_produce (h : LookupFails w d r network x) :
    (produce w d r).outcome.1 =
      .error (if x.isSignal then x else Provider.unresolved network x) := by
  obtain ⟨hn, hlooked⟩ := h
  have hrun : (lookedUp w d r).runOn ⟨[], []⟩ =
      (.ok (network, .error x), (lookedUp w d r).outcome.2) := Prod.ext hlooked rfl
  obtain ⟨settings, j₁, hsettings, hrun⟩ := runOn_bind_eq_ok hrun
  obtain ⟨access, j₂, haccess, hrun⟩ := runOn_bind_eq_ok hrun
  obtain ⟨client, j₃, hclient, hrun⟩ := runOn_bind_eq_ok hrun
  obtain ⟨bundle, j₄, hbundle, hrun⟩ := runOn_bind_eq_ok hrun
  obtain ⟨rfl, hanswer⟩ := Prod.mk.inj (Except.ok.inj (congrArg Prod.fst hrun))
  obtain ⟨hresolve, -⟩ := Lookup.runOn_resolve client settings.externalNetwork j₄
  rw [hanswer] at hresolve
  have hgenerate := Provider.runOn_generate_of_unresolved hbundle hn (Prod.ext hresolve rfl)
  rw [produce_eq, outcome, runOn_bind_ok hsettings, runOn_bind_ok haccess]
  refine runOn_bind_error ?_
  rw [configure, runOn_bind_ok hclient]
  exact hgenerate

/-- A run in which the look-up of a network fails reports that, unless it is told to stop. -/
theorem ending_of_lookupFails (hr : request? args input d = some r)
    (h : LookupFails w d r network x) (hx : x.isSignal = false) :
    (run args input w d).ending = .reported (Provider.unresolved network x) := by
  have hproduce := h.outcome_produce
  rw [hx, if_neg Bool.false_ne_true] at hproduce
  rw [run_of_request hr, fulfil_of_error (Prod.ext hproduce rfl)]
  exact ofFailure_of_isStage (f := Provider.unresolved network x) rfl

theorem errorText_of_reported {report : Report} {f : Failure} (h : report.ending = .reported f) :
    ∃ logged, report.errorText = logged ++ ("Error: " ++ echoed f.message ++ "\n") := by
  rw [Report.errorText, h]
  exact ⟨_, rfl⟩

/-- What is told of a failure stands at the end of what is written exactly if all control sequences
leave it alone. -/
theorem echoed_append_eq_iff (told text : String) :
    echoed (told ++ text) = echoed told ++ text ↔
      Text.Leaves text.length (told ++ text).toList := by
  rw [echoed, echoed, ← String.toList_inj, String.toList_append, String.toList_append,
    String.toList_ofList, String.toList_ofList, Text.withoutControls_append_eq_iff,
    String.length_toList]

/-- The message of a chain of failures is made of the texts of the stages in order and of what the
failure behind them tells by itself. A look-up that fails adds one link, unless it was told to stop.
The command reports it in its last line, which loses its control sequences: behind what is left of
the words of the stage, the text of the cause stands as it is exactly if each control sequence is
followed by as much as that text. -/
theorem run_tells_causes :
    (∀ f : Failure, f.isStage = true ↔ ∃ texts root?, f.Chain texts root?) ∧
    (∀ (f : Failure) (texts : List String) (root? : Option Failure), f.Chain texts root? →
      f.message = ": ".intercalate
        (texts ++ root?.toList.map fun g => (Failure.alone g.kind g.text).message)) ∧
    (∀ (p : Profile) (network : WideText) (resolve : Resolver) (read : FileReader)
      (bundle : Option ByteArray) (x : Failure) (j i i' : Journal), network.isEmpty = false →
      (Provider.readCaBundle read p.caCertFile).runOn j = (.ok bundle, i) →
      (resolve network).runOn i = (.error x, i') →
      ((Provider.generate p network resolve read).runOn j).1 =
        .error (if x.isSignal then x else Provider.unresolved network x)) ∧
    (∀ (network : WideText) (x : Failure) (texts : List String) (root? : Option Failure),
      (Provider.unresolved network x).cause? = some x ∧
      ((Provider.unresolved network x).Chain texts root? ↔
        ∃ rest, texts = s!"failed to fetch external network {network}" :: rest ∧
          (x.Chain rest root? ∨ x.isStage = false ∧ rest = [] ∧ root? = some x))) ∧
    ∀ (args : List String) (input : ByteArray) (w : World) (d : Disk) (r : Request)
      (network : WideText) (x : Failure), request? args input d = some r →
      LookupFails w d r network x → x.isSignal = false →
      let report := run args input w d
      let told := s!"failed to fetch external network {network}: "
      report.ending.exitCode = 1 ∧
      (∃ logged, report.errorText =
        logged ++ ("Error: " ++ echoed (told ++ x.message) ++ "\n")) ∧
      (echoed (told ++ x.message) = echoed told ++ x.message ↔
        Text.Leaves x.message.length (told ++ x.message).toList) := by
  refine ⟨Failure.isStage_iff_exists_chain, fun f texts root? h => h.message_eq, ?_, ?_, ?_⟩
  · intro p network resolve read bundle x j i i' hn hb hx
    exact Provider.runOn_generate_of_unresolved hb hn hx
  · intro network x texts root?
    exact ⟨rfl, Failure.chain_because_iff⟩
  · intro args input w d r network x hr hfails hx report told
    have hending : report.ending = _ := ending_of_lookupFails hr hfails hx
    obtain ⟨logged, htext⟩ := errorText_of_reported hending
    have hcode : report.ending.exitCode = 1 := by
      rw [hending]
      rfl
    exact ⟨hcode, ⟨logged, htext⟩, echoed_append_eq_iff told x.message⟩

def unlisted (f : Failure) : World where
  clouds := [(.ofString "c", ⟨.mapping [], .text "R"⟩)]
  loaderFailure := none
  cloudFailure := none
  connectionFailure := none
  networkFailure := none
  client := ⟨[], true, some f, 0⟩

theorem exists_lookupFails (x : Failure) :
    ∃ r, request? ["--install-config", "-", "--output-dir", "out"]
        "platform: \x7bopenstack: \x7bcloud: c, externalNetwork: n\x7d\x7d".toUTF8 .fresh = some r ∧
      LookupFails (unlisted x) .fresh r (.ofString "n") x := by
  let request := request? ["--install-config", "-", "--output-dir", "out"]
    "platform: \x7bopenstack: \x7bcloud: c, externalNetwork: n\x7d\x7d".toUTF8 .fresh
  have hsome : request.isSome := by decide +kernel
  have hload : request.map (fun r => (InstallConfig.load default r.stream).outcome.1) =
      some (.ok ⟨.ofString "c", .ofString "n"⟩) := by decide +kernel
  have hclouds : request.map (·.cloudsFile) = some none := by decide +kernel
  obtain ⟨r, hr⟩ := Option.isSome_iff_exists.1 hsome
  rw [hr] at hload hclouds
  have hnone : r.cloudsFile = none := Option.some.inj hclouds
  refine ⟨r, hr, by decide, ?_⟩
  have hreader : (unlisted x).reader = default := rfl
  rw [lookedUp, outcome, hreader, runOn_bind_ok (Prod.ext (Option.some.inj hload) rfl), hnone]
  rfl

/-- A look-up that fails as a stage does, with a cause that has one of its own. -/
theorem run_tells_causes_threeLinks :
    let x : Failure := .because (.stage .session) "no session" (.because (.plain .value) "bad"
      (.alone (.plain .key) "'k'"))
    let text := "platform: \x7bopenstack: \x7bcloud: c, externalNetwork: n\x7d\x7d"
    let report := run ["--install-config", "-", "--output-dir", "out"] text.toUTF8 (unlisted x)
      .fresh
    report.ending.exitCode = 1 ∧ ∃ logged, report.errorText =
      logged ++ "Error: failed to fetch external network n: no session: bad\n" := by
  intro x text report
  obtain ⟨-, hmessage, -, -, hrun⟩ := run_tells_causes
  obtain ⟨r, hr, hfails⟩ := exists_lookupFails x
  obtain ⟨hcode, ⟨logged, htext⟩, -⟩ := hrun _ _ _ _ r _ x hr hfails rfl
  have hx : x.message = "no session: bad" :=
    hmessage x _ _ (.foreign .session "no session" rfl)
  rw [hx] at htext
  refine ⟨hcode, logged, htext.trans ?_⟩
  let network := WideText.ofString "n"
  have hechoed : echoed (s!"failed to fetch external network {network}: " ++
      "no session: bad") = "failed to fetch external network n: no session: bad" := by
    decide +kernel
  rw [hechoed]
  rfl

/-- The text of a cause is not told as it is if it holds a control sequence. -/
theorem run_not_tells_causes :
    ¬ ∀ (args : List String) (input : ByteArray) (w : World) (d : Disk) (r : Request)
      (network : WideText) (x : Failure), request? args input d = some r →
      LookupFails w d r network x → x.isSignal = false →
      ∃ told, (run args input w d).errorText = told ++ (x.message ++ "\n") := by
  intro h
  let x : Failure := .alone (.plain .runtime) "\x1b[0mdown"
  obtain ⟨r, hr, hfails⟩ := exists_lookupFails x
  obtain ⟨told, htext⟩ := h _ _ _ _ r _ x hr hfails rfl
  have hshown : '\x1b' ∉ (run ["--install-config", "-", "--output-dir", "out"]
      "platform: \x7bopenstack: \x7bcloud: c, externalNetwork: n\x7d\x7d".toUTF8 (unlisted x)
      .fresh).errorText.toList := by decide +kernel
  apply hshown
  rw [htext]
  simp [x, Failure.message]

end Command

end CloudConf
