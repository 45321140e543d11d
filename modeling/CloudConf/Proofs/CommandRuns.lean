import CloudConf.Command.Run
import CloudConf.Proofs.Publishing

/-! # What runs of the command do -/
namespace CloudConf.Command

open Disk (Limits)

variable {args : List String} {input : ByteArray} {w : World} {d : Disk} {r : Request}
  {p : Product} {f : Failure} {j : Journal}

/-- The request that a command line leads to. One that is wrong or asks for help leads to none. -/
def request? (args : List String) (input : ByteArray) (d : Disk) : Option Request :=
  match Arguments.parse args with
  | none => none
  | some a => if a.wantsHelp then none else (Request.ofArguments d input a).toOption

/-- Either a command line leads to a request, which the run fulfils, or the run ends at once,
whatever the world is like and whatever the system refuses. -/
theorem request_or_ends (args : List String) (input : ByteArray) (d : Disk) :
    (∃ r, request? args input d = some r ∧
        ∀ w limits, run args input w d limits = fulfil w d r limits) ∨
      request? args input d = none ∧
        ∃ ending : Ending, (ending = .usage ∨ ending = .help ∨ ∃ f, ending = .failed f) ∧
          ∀ w limits, run args input w d limits = ⟨ending, ⟨[], []⟩, .info, d⟩ := by
  cases hp : Arguments.parse args with
  | none =>
    exact .inr ⟨by simp only [request?, hp], .usage, .inl rfl,
      fun w limits => by simp only [run, hp]⟩
  | some a =>
    cases hh : a.wantsHelp with
    | true =>
      exact .inr ⟨by simp only [request?, hp, hh, if_true], .help, .inr (.inl rfl),
        fun w limits => by simp only [run, hp, hh, if_true]⟩
    | false =>
      have hrequest : request? args input d = (Request.ofArguments d input a).toOption := by
        simp [request?, hp, hh]
      rw [hrequest]
      cases ho : Request.ofArguments d input a with
      | ok r => exact .inl ⟨r, rfl, fun w limits => by simp [run, hp, hh, ho]⟩
      | error e =>
        refine .inr ⟨rfl, ?_⟩
        cases e with
        | usage => exact ⟨.usage, .inl rfl, fun w limits => by simp [run, hp, hh, ho]⟩
        | failing f =>
          exact ⟨.failed f, .inr (.inr ⟨f, rfl⟩), fun w limits => by simp [run, hp, hh, ho]⟩

theorem run_of_request (h : request? args input d = some r) (w : World) (limits : Limits) :
    run args input w d limits = fulfil w d r limits := by
  rcases request_or_ends args input d with ⟨r', hr, hrun⟩ | ⟨hn, -⟩
  · obtain rfl := Option.some.inj (hr.symm.trans h)
    exact hrun w limits
  · cases hn.symm.trans h

theorem run_of_no_request (h : request? args input d = none) :
    ∃ ending : Ending, (ending = .usage ∨ ending = .help ∨ ∃ f, ending = .failed f) ∧
      ∀ w limits, run args input w d limits = ⟨ending, ⟨[], []⟩, .info, d⟩ := by
  rcases request_or_ends args input d with ⟨r', hr, -⟩ | ⟨-, he⟩
  · cases hr.symm.trans h
  · exact he

/-- How a run ends whose files were written until one of the steps failed, if one did. -/
def Ending.ofOutcome : Option Failure → Ending
  | none => .done
  | some f => .ofFailure f

theorem fulfil_of_error (h : (produce w d r).outcome = (.error f, j)) (limits : Limits) :
    fulfil w d r limits = ⟨.ofFailure f, j, r.level, d⟩ := by
  have hproduce : (produce w d r).runOn ⟨[], []⟩ = (.error f, j) := h
  have houtcome : (do publish d r.outputDir (← produce w d r) limits).outcome = (.error f, j) := by
    rw [Action.outcome, Action.runOn_bind, hproduce]
  unfold fulfil
  simp only [houtcome]

theorem fulfil_of_ok (h : (produce w d r).outcome = (.ok p, j)) (limits : Limits) :
    fulfil w d r limits =
      ⟨.ofOutcome (d.perform (publication r.outputDir p) limits).2,
        { j with log := j.log ++ publicationLog d r.outputDir p limits }, r.level,
        (d.perform (publication r.outputDir p) limits).1⟩ := by
  have houtcome : (do publish d r.outputDir (← produce w d r) limits).outcome =
      (.ok (d.perform (publication r.outputDir p) limits),
        { j with log := j.log ++ publicationLog d r.outputDir p limits }) := by
    rw [Action.outcome, Action.runOn_bind_ok h, runOn_publish]
  unfold fulfil
  simp only [houtcome]
  cases d.perform (publication r.outputDir p) limits with
  | mk d' failed => cases failed <;> rfl

theorem ofFailure_of_isStage {f : Failure} (h : f.isStage = true) :
    Ending.ofFailure f = .reported f := by
  unfold Failure.isStage at h
  unfold Ending.ofFailure
  split at h
  · rename_i hk
    rw [hk]
  · cases h

theorem ofFailure_eq_failed {f : Failure} (hstage : f.isStage = false)
    (hsignal : f.isSignal = false) (hend : f.kind ≠ .plain .endOfInput)
    (hpipe : f.kind ≠ .system .brokenPipe) : Ending.ofFailure f = .failed f := by
  unfold Failure.isStage at hstage
  unfold Failure.isSignal at hsignal
  unfold Ending.ofFailure
  split <;> simp_all

theorem exitCode_ofFailure (f : Failure) : (Ending.ofFailure f).exitCode = 1 := by
  rw [Ending.ofFailure]
  split <;> rfl

theorem exitCode_ofOutcome_eq_zero_iff {failed : Option Failure} :
    (Ending.ofOutcome failed).exitCode = 0 ↔ failed = none := by
  cases failed with
  | none => exact ⟨fun _ => rfl, fun _ => rfl⟩
  | some f => simp [Ending.ofOutcome, exitCode_ofFailure]

/-- What every option keeps that is looked at holds of the request in the end. -/
theorem ofArguments_keeps {P : Request → Prop} {a : Arguments} (hinit : P Request.initial)
    (hstep : ∀ r key r', P r → Request.accept d input r key (a.value? key) = .ok r' → P r')
    (h : Request.ofArguments d input a = .ok r) : P r := by
  have hfold : ∀ (keys : List Key) (first last : Request), P first →
      keys.foldlM (fun r key => Request.accept d input r key (a.value? key)) first = .ok last →
      P last := by
    intro keys
    induction keys with
    | nil =>
      intro first last hf hl
      cases hl
      exact hf
    | cons key keys ih =>
      intro first last hf hl
      rw [List.foldlM_cons] at hl
      cases hs : Request.accept d input first key (a.value? key) with
      | error e =>
        rw [hs] at hl
        cases hl
      | ok next =>
        rw [hs] at hl
        exact ih next last (hstep _ _ _ hf hs) hl
  unfold Request.ofArguments at h
  cases hf : a.order.foldlM (fun r key => Request.accept d input r key (a.value? key))
      Request.initial with
  | error e =>
    rw [hf] at h
    cases h
  | ok last =>
    rw [hf] at h
    have hlast := hfold _ _ _ hinit hf
    simp only [bind, Except.bind] at h
    split at h
    · cases h
      exact hlast
    · cases h

theorem ofArguments_of_request (h : request? args input d = some r) :
    ∃ a, Arguments.parse args = some a ∧ Request.ofArguments d input a = .ok r := by
  unfold request? at h
  split at h
  · cases h
  · rename_i a ha
    refine ⟨a, ha, ?_⟩
    split at h
    · cases h
    · cases ho : Request.ofArguments d input a with
      | error e =>
        rw [ho] at h
        cases h
      | ok r' =>
        rw [ho] at h
        rw [Option.some.inj h]

/-- The directory is a path in normal form, and only its own option names a clouds file. -/
theorem accept_eq_ok {r' : Request} {key : Key} {value : Option String}
    (h : Request.accept d input r key value = .ok r') :
    (r'.outputDir = r.outputDir ∨ ∃ path, r'.outputDir = Path.ofString path) ∧
      (r'.cloudsFile = r.cloudsFile ∨ key = .cloudsFile ∧ value ≠ none) := by
  unfold Request.accept at h
  split at h
  · cases h
  · cases h
  · cases h
    exact ⟨.inl rfl, .inl rfl⟩
  · cases h
    exact ⟨.inl rfl, .inl rfl⟩
  · split at h
    · cases h
      exact ⟨.inl rfl, .inl rfl⟩
    · split at h
      · cases h
        exact ⟨.inl rfl, .inl rfl⟩
      · cases h
  · split at h
    · cases h
    · cases h
    · cases h
      exact ⟨.inr ⟨_, rfl⟩, .inl rfl⟩
  · split at h
    · cases h
      exact ⟨.inl rfl, .inr ⟨rfl, Option.some_ne_none _⟩⟩
    · cases h
    · cases h
  · split at h
    · cases h
      exact ⟨.inl rfl, .inl rfl⟩
    · cases h

theorem wellFormed_outputDir (h : request? args input d = some r) : r.outputDir.WellFormed := by
  obtain ⟨a, -, ha⟩ := ofArguments_of_request h
  refine ofArguments_keeps (P := fun r => r.outputDir.WellFormed) (fun part hm => ?_) ?_ ha
  · cases hm
  · intro r key r' hr hacc
    rcases (accept_eq_ok hacc).1 with he | ⟨path, he⟩
    · rwa [he]
    · rw [he]
      exact Path.wellFormed_ofString path

theorem value?_eq_none {a : Arguments} {key : Key} (h : key ∉ a.given.map (·.1)) :
    a.value? key = none := by
  have hf : a.given.filter (·.1 = key) = [] := by
    rw [List.filter_eq_nil_iff]
    intro e he hk
    exact h (List.mem_map.2 ⟨e, he, of_decide_eq_true hk⟩)
  rw [Arguments.value?, hf]
  rfl

theorem cloudsFile_eq_none {a : Arguments} (ha : Arguments.parse args = some a)
    (hc : .cloudsFile ∉ a.given.map (·.1)) (h : request? args input d = some r) :
    r.cloudsFile = none := by
  obtain ⟨a', ha', ho⟩ := ofArguments_of_request h
  obtain rfl := Option.some.inj (ha.symm.trans ha')
  refine ofArguments_keeps (P := fun r => r.cloudsFile = none) rfl ?_ ho
  intro r key r' hr hacc
  rcases (accept_eq_ok hacc).2 with he | ⟨rfl, hv⟩
  · rw [he, hr]
  · exact absurd (value?_eq_none hc) hv

end CloudConf.Command
