import CloudConf.Proofs.DocumentFaults
import CloudConf.Proofs.SettingsReading
import CloudConf.Proofs.StepRuns

/-! # Failures to read an install config that are not reported as such -/
namespace CloudConf

namespace Yaml

/-- What the words of a document can go wrong with, apart from the rules of YAML. -/
def wordFaults : List PlainFault :=
  [.value, .key, .attribute, .index, .type, .overflow, .recursion]

/-- A failure of a document that is known as a whole: it breaks the rules of YAML, or a word of it
does not mean what it is to mean. -/
def IsWordFault (f : Failure) : Prop := f.kind = .malformed ∨ ∃ p ∈ wordFaults, f.kind = .plain p

theorem isWordFault_malformed : IsWordFault malformed := .inl rfl

theorem isWordFault_alone {p : PlainFault} (h : p ∈ wordFaults) (text : String) :
    IsWordFault (.alone (.plain p) text) := .inr ⟨p, h, rfl⟩

theorem isWordFault_valueError (text : String) : IsWordFault (Text.valueError text) :=
  isWordFault_alone (by decide) text

abbrev ReadsWords {α : Type} : Except Failure α → Prop := Yields IsWordFault fun _ => True

theorem readsWords_decimal (digits : List Char) : ReadsWords (Text.decimal digits) := by
  unfold Text.decimal
  split
  · exact .error (isWordFault_valueError _)
  · exact .ok trivial

theorem readsWords_numbered (n : Nat) : ReadsWords (Scalar.numbered n) := by
  unfold Scalar.numbered
  split
  · split
    · exact .ok trivial
    · exact .ok trivial
  · split
    · exact .error (isWordFault_alone (by decide) _)
    · exact .error (isWordFault_alone (by decide) _)

namespace Value

theorem readsWords_readInteger (base : Nat) (s : WideText) : ReadsWords (readInteger base s) := by
  unfold readInteger
  dsimp -zeta only
  extract_lets digits ds finish
  have hfinish (n : Nat) : ReadsWords (finish n) :=
    .check (isWordFault_valueError _) (.ok trivial)
  split
  · exact (readsWords_decimal ds).bind fun n _ => hfinish n
  · exact hfinish _

theorem readsWords_integer (s : WideText) : ReadsWords (integer s) := by
  unfold integer
  dsimp -zeta only
  extract_lets finish
  have hfinish {x : Except Failure Int} (hx : ReadsWords x) : ReadsWords (x >>= finish) :=
    hx.bind fun _ _ => .ok trivial
  split
  · exact .error (isWordFault_alone (by decide) _)
  · exact hfinish (.ok trivial)
  · exact hfinish (readsWords_readInteger 2 _)
  · exact hfinish (readsWords_readInteger 16 _)
  · exact hfinish (readsWords_readInteger 8 _)
  · split
    · exact hfinish (Yields.mapM (fun _ => readsWords_readInteger 10 _) _).map
    · exact hfinish (readsWords_readInteger 10 _)

theorem readsWords_checkFloat (s : WideText) : ReadsWords (checkFloat s) := by
  unfold checkFloat
  split
  · exact .ok trivial
  · exact .error (isWordFault_valueError _)

theorem readsWords_checkFloatScalar (s : WideText) : ReadsWords (checkFloatScalar s) := by
  unfold checkFloatScalar
  refine .check (isWordFault_alone (by decide) _) ?_
  dsimp only
  split
  · exact .ok trivial
  · split
    · refine (Yields.forM (fun _ => readsWords_checkFloat _) _).bind fun _ _ => ?_
      split
      · exact .error (isWordFault_alone (by decide) _)
      · exact .ok trivial
    · exact readsWords_checkFloat _

theorem readsWords_boolean (s : WideText) : ReadsWords (boolean s) := by
  unfold boolean
  dsimp only
  split
  · exact .ok trivial
  · exact .error (isWordFault_alone (by decide) _)

theorem readsWords_checkDate (year month day : Nat) : ReadsWords (checkDate year month day) := by
  unfold checkDate
  split_ifs
  · exact .error (isWordFault_valueError _)
  · exact .error (isWordFault_valueError _)
  · exact .error (isWordFault_valueError _)
  · exact .ok trivial

theorem readsWords_checkTime (hour minute second : Nat) :
    ReadsWords (checkTime hour minute second) := by
  unfold checkTime
  split_ifs
  · exact .error (isWordFault_valueError _)
  · exact .error (isWordFault_valueError _)
  · exact .error (isWordFault_valueError _)
  · exact .ok trivial

theorem readsWords_checkZone (negative : Bool) (hours minutes : Nat) :
    ReadsWords (checkZone negative hours minutes) := by
  unfold checkZone
  dsimp only
  split
  · exact .ok trivial
  · exact .error (isWordFault_valueError _)

theorem readsWords_ofStamp (s : Stamp) : ReadsWords (ofStamp s) := by
  unfold ofStamp
  dsimp -zeta only
  split
  · exact (readsWords_checkDate _ _ _).bind fun _ _ => .ok trivial
  · extract_lets finish
    have hfinish (u : Unit) : ReadsWords (finish u) :=
      (readsWords_checkDate _ _ _).bind fun _ _ => (readsWords_checkTime _ _ _).bind
        fun _ _ => .ok trivial
    split
    · exact (readsWords_checkZone _ _ _).bind fun u _ => hfinish u
    · exact hfinish ()

theorem readsWords_timestamp (s : WideText) : ReadsWords (timestamp s) := by
  unfold timestamp
  dsimp only
  split
  · exact readsWords_ofStamp _
  · exact .error (isWordFault_alone (by decide) _)

theorem readsWords_ofScalar (tag : Tag) (s : WideText) : ReadsWords (ofScalar tag s) := by
  unfold ofScalar
  split
  · exact .ok trivial
  · exact (readsWords_boolean s).map
  · exact (readsWords_integer s).map
  · exact (readsWords_checkFloatScalar s).map
  · split
    · exact .ok trivial
    · exact .error isWordFault_malformed
  · exact readsWords_timestamp s
  · exact .ok trivial
  · exact .error isWordFault_malformed

end Value

theorem Fault.isWordFault {s : Stream} {f : Failure} (h : Fault s f) (hs : s.fault = none) :
    IsWordFault f := by
  cases h with
  | malformed => exact isWordFault_malformed
  | stream h =>
    rw [hs] at h
    cases h
  | escape h => exact (readsWords_numbered _).failure h
  | number h => exact (readsWords_decimal _).failure h
  | scalar h => exact (Value.readsWords_ofScalar _ _).failure h
  | noText => exact isWordFault_alone (by decide) _
  | endless => exact isWordFault_alone (by decide) _

end Yaml

namespace InstallConfig

open Yaml (Document Fault Stream wordFaults)

variable {reader : ConfigReader} {s : Stream} {f : Failure}

theorem kind_of_ofDocument {d : Document} (h : ofDocument reader d = .error f) :
    f.kind = .stage .settings := by
  unfold ofDocument at h
  split at h
  · cases h
    rfl
  · split at h
    · cases h
    · cases h
      rfl
  · cases h
    rfl

/-- Of a document that breaks the rules of YAML the failure is reported. -/
theorem outcome_load_of_malformed (h : reader.parse s = .error f) (hf : f.kind = .malformed) :
    (load reader s).outcome =
      (.error (unusable "failed to parse install config" f), ⟨[], []⟩) := by
  have hd : document reader s = .error (unusable "failed to parse install config" f) := by
    unfold document
    rw [h]
    exact if_pos hf
  rw [Action.outcome, runOn_load, hd]
  rfl

theorem outcome_load_of_stray (h : reader.parse s = .error f) (hf : f.kind ≠ .malformed) :
    (load reader s).outcome = (.error f, ⟨[], []⟩) := by
  have hd : document reader s = .error f := by
    unfold document
    rw [h]
    exact if_neg hf
  rw [Action.outcome, runOn_load, hd]
  rfl

theorem load_of_parse {d : Document} (h : reader.parse s = .ok d) :
    (∃ settings, (load reader s).outcome.1 = .ok settings) ∨
      ∃ f, (load reader s).outcome.1 = .error f ∧ f.kind = .stage .settings := by
  rw [outcome_load_fst h]
  cases ho : ofDocument reader d with
  | ok settings => exact .inl ⟨settings, rfl⟩
  | error f => exact .inr ⟨f, rfl, kind_of_ofDocument ho⟩

theorem stray_of_parse_ofText {text name : String}
    (h : Document.parse (.ofText text name) = .error f) (hf : f.kind ≠ .malformed) :
    ∃ p ∈ wordFaults, f.kind = .plain p :=
  (((Yaml.Document.onlyFaults_parse _).failure h).isWordFault rfl).resolve_left hf

/-- Whatever reads install configs, settings are loaded or an unusable install config is reported,
exactly if a stream is not read as a document at most because it breaks the rules of YAML (or as the
reader itself reports an unusable install config). Else the failure to read the stream leaves as it
is, and nothing is logged. Where a text is read as it is here, this happens if a word of it does not
mean what it is to mean. -/
theorem load_reports_iff_malformed (reader : ConfigReader) (s : Stream) :
    ((∃ settings, (load reader s).outcome.1 = .ok settings) ∨
        (∃ f, (load reader s).outcome.1 = .error f ∧ f.kind = .stage .settings) ↔
      ∀ f, reader.parse s = .error f → f.kind = .malformed ∨ f.kind = .stage .settings) ∧
    (∀ f, reader.parse s = .error f → f.kind ≠ .malformed →
      (load reader s).outcome = (.error f, ⟨[], []⟩)) ∧
    ∀ text name f, s = .ofText text name → Document.parse s = .error f → f.kind ≠ .malformed →
      Fault s f ∧ ∃ p ∈ wordFaults, f.kind = .plain p := by
  refine ⟨⟨fun h f hp => ?_, fun h => ?_⟩, fun f => outcome_load_of_stray, ?_⟩
  · by_cases hf : f.kind = .malformed
    · exact .inl hf
    · rw [outcome_load_of_stray hp hf] at h
      rcases h with ⟨settings, h⟩ | ⟨g, h, hg⟩
      · cases h
      · cases h
        exact .inr hg
  · cases hp : reader.parse s with
    | ok d => exact load_of_parse hp
    | error f =>
      by_cases hf : f.kind = .malformed
      · rw [outcome_load_of_malformed hp hf]
        exact .inr ⟨_, rfl, rfl⟩
      · rw [outcome_load_of_stray hp hf]
        exact .inr ⟨f, rfl, (h f hp).resolve_left hf⟩
  · rintro text name f rfl hp hf
    exact ⟨(Yaml.Document.onlyFaults_parse _).failure hp, stray_of_parse_ofText hp hf⟩

/-- What is to be a truth value and is no word for one is not reported. -/
theorem load_not_reports_badBoolean :
    ¬ ∀ text : String, (∃ settings, (load default (.ofText text)).outcome.1 = .ok settings) ∨
      ∃ f, (load default (.ofText text)).outcome.1 = .error f ∧ f.kind = .stage .settings := by
  intro h
  have hload : failureOf (load default (.ofText "platform: !!bool x")).outcome.1 =
      some (.missingKey (.ofString "x")) := by decide +kernel
  rcases h "platform: !!bool x" with ⟨settings, hs⟩ | ⟨f, hf, hk⟩
  · rw [hs] at hload
    cases hload
  · rw [hf] at hload
    cases hload
    cases hk

end InstallConfig

end CloudConf
