import CloudConf.InstallConfig
import CloudConf.Proofs.ActionRuns

/-! # Which install configs are usable -/
namespace CloudConf.InstallConfig

open Yaml (Document Stream Value)

/-- A document holds a value at `platform.openstack`, with mappings on the way. -/
def Reaches (d : Document) (v : Value) : Prop :=
  ∃ top platform, d.value d.root = .mapping top ∧
    d.find? "platform" top = some (.mapping platform) ∧ d.find? "openstack" platform = some v

/-- A value counts as a text: it is one, or it is the bytes of one. -/
inductive CountsAs : Value → WideText → Prop
  | text (s : WideText) : CountsAs (.text s) s
  | binary {content : ByteArray} {s : String} (h : String.fromUTF8? content = some s) :
      CountsAs (.binary content) (.ofString s)

def HasText (found : Option Value) (s : WideText) : Prop := ∃ v, found = some v ∧ CountsAs v s

/-- What is at the key of a network names one; where nothing is, the name is empty. -/
inductive NamesNetwork : Option Value → WideText → Prop
  | absent : NamesNetwork none (.ofString "")
  | null : NamesNetwork (some .null) (.ofString "")
  | text {found : Option Value} {s : WideText} (h : HasText found s) : NamesNetwork found s

/-- What is wrong with a value, or with the lack of one, where a text is asked for. -/
inductive Unfit : Option Value → IssueKind → Prop
  | missing : Unfit none .missing
  | notUnicode {content : ByteArray} (h : String.fromUTF8? content = none) :
      Unfit (some (.binary content)) .notUnicode
  | notText {v : Value} (ht : ∀ s, v ≠ .text s) (hb : ∀ content, v ≠ .binary content) :
      Unfit (some v) .notText

/-- The key that the external network is at: the second one counts if the first is not there. -/
def networkKey (d : Document) (entries : List (Nat × Nat)) : String :=
  if (d.find? "externalNetwork" entries).isSome then "externalNetwork" else "external_network"

def networkEntry (d : Document) (entries : List (Nat × Nat)) : Option Value :=
  (d.find? "externalNetwork" entries).or (d.find? "external_network" entries)

/-- The settings that a document is usable for. -/
def Usable (d : Document) (settings : Settings) : Prop :=
  ∃ entries, Reaches d (.mapping entries) ∧
    HasText (d.find? "cloud" entries) settings.cloud ∧
    NamesNetwork (networkEntry d entries) settings.externalNetwork

variable {reader : ConfigReader} {d d' : Document} {s s' : Stream} {v : Value} {found : Option Value}
  {entries entries' : List (Nat × Nat)} {text : WideText} {kind : IssueKind}

theorem entry_eq_ok_iff {key : String} {w : Value} :
    entry d v key = .ok w ↔ ∃ entries, v = .mapping entries ∧ d.find? key entries = some w := by
  cases v with
  | mapping entries =>
    cases h : d.find? key entries <;> simp [entry, h]
  | _ => simp [entry]

/-- A value without an entry at a key is a mapping that lacks it, or no mapping. -/
theorem entry_eq_error {key : String} {f : Failure} (h : entry d v key = .error f) :
    f.kind = .plain .key ∨ f.kind = .plain .type := by
  unfold entry at h
  split at h
  · split at h
    · cases h
    · cases h
      exact .inl rfl
  · cases h
    exact .inr rfl

theorem section?_eq_ok_iff : section? d = .ok v ↔ Reaches d v := by
  unfold section? Reaches
  cases hp : entry d (d.value d.root) "platform" with
  | error f =>
    refine ⟨nofun, ?_⟩
    rintro ⟨top, platform, ht, hf, -⟩
    cases hp.symm.trans (entry_eq_ok_iff.2 ⟨top, ht, hf⟩)
  | ok w =>
    obtain ⟨top, ht, hw⟩ := entry_eq_ok_iff.1 hp
    constructor
    · intro h
      obtain ⟨platform, rfl, ho⟩ := entry_eq_ok_iff.1 h
      exact ⟨top, platform, ht, hw, ho⟩
    · rintro ⟨top', platform, ht', hf, ho⟩
      cases ht.symm.trans ht'
      obtain rfl : w = .mapping platform := Option.some.inj (hw.symm.trans hf)
      exact entry_eq_ok_iff.2 ⟨platform, rfl, ho⟩

theorem section?_eq_error {f : Failure} (h : section? d = .error f) :
    f.kind = .plain .key ∨ f.kind = .plain .type := by
  unfold section? at h
  cases hp : entry d (d.value d.root) "platform" with
  | error e =>
    rw [hp] at h
    cases h
    exact entry_eq_error hp
  | ok w =>
    rw [hp] at h
    exact entry_eq_error h

theorem asText_eq_ok_iff : (settingEntry found).asText = .ok text ↔ HasText found text := by
  constructor
  · intro h
    unfold settingEntry at h
    split at h
    · cases h
    · cases h
    · cases h
      exact ⟨_, rfl, .text _⟩
    · rename_i content
      simp only [Entry.asText] at h
      split at h
      · cases h
        exact ⟨_, rfl, .binary ‹_›⟩
      · cases h
    · cases h
  · rintro ⟨v, rfl, hv⟩
    cases hv with
    | text => rfl
    | binary h => simp only [settingEntry, Entry.asText, h]

theorem unfit_of_asText (h : (settingEntry found).asText = .error kind) : Unfit found kind := by
  unfold settingEntry at h
  split at h
  · cases h
    exact .missing
  · cases h
    exact .notText nofun nofun
  · cases h
  · simp only [Entry.asText] at h
    split at h
    · cases h
    · cases h
      exact .notUnicode ‹_›
  · rename_i v hn ht hb
    cases h
    exact .notText (fun s he => ht s (he ▸ rfl)) fun content he => hb content (he ▸ rfl)

theorem settingEntry_eq_absent_iff : settingEntry found = .absent ↔ found = none := by
  unfold settingEntry
  split <;> simp

theorem settingEntry_eq_null_iff : settingEntry found = .null ↔ found = some .null := by
  unfold settingEntry
  split <;> simp_all

/-- The entries of a section as the settings see them. -/
def view (d : Document) (entries : List (Nat × Nat)) (key : String) : Entry :=
  settingEntry (d.find? key entries)

theorem networkKey_view : Settings.networkKey (view d entries) = networkKey d entries := by
  unfold Settings.networkKey networkKey
  cases h : d.find? "externalNetwork" entries with
  | none => simp [view, h, settingEntry]
  | some v =>
    split
    · rename_i ha
      cases h.symm.trans (settingEntry_eq_absent_iff.1 ha)
    · simp

theorem view_networkKey :
    view d entries (networkKey d entries) = settingEntry (networkEntry d entries) := by
  unfold networkKey networkEntry
  cases h : d.find? "externalNetwork" entries with
  | none => simp [view]
  | some v => simp [view, h]

theorem network_eq_ok_iff :
    Settings.network (view d entries) = .ok text ↔ NamesNetwork (networkEntry d entries) text := by
  rw [Settings.network, networkKey_view, view_networkKey]
  generalize networkEntry d entries = found
  constructor
  · intro h
    split at h
    · rename_i ha
      cases h
      exact settingEntry_eq_absent_iff.1 ha ▸ .absent
    · rename_i hn
      cases h
      exact settingEntry_eq_null_iff.1 hn ▸ .null
    · exact .text (asText_eq_ok_iff.1 h)
  · rintro (_ | _ | h)
    · rfl
    · rfl
    · have ht := asText_eq_ok_iff.2 h
      split
      · rename_i ha
        rw [ha] at ht
        cases ht
      · rename_i hn
        rw [hn] at ht
        cases ht
      · exact ht

theorem network_eq_error (h : Settings.network (view d entries) = .error kind) :
    Unfit (networkEntry d entries) kind := by
  rw [Settings.network, networkKey_view, view_networkKey] at h
  split at h
  · cases h
  · cases h
  · exact unfit_of_asText h

theorem ofEntries_eq_ok_iff {settings : Settings} :
    Settings.ofEntries (view d entries) = .ok settings ↔
      HasText (d.find? "cloud" entries) settings.cloud ∧
        NamesNetwork (networkEntry d entries) settings.externalNetwork := by
  rw [← asText_eq_ok_iff, ← network_eq_ok_iff, Settings.ofEntries]
  change _ ↔ (view d entries "cloud").asText = _ ∧ _
  cases (view d entries "cloud").asText with
  | error k => cases Settings.network (view d entries) <;> simp
  | ok cloud =>
    cases Settings.network (view d entries) with
    | error k => simp
    | ok network =>
      obtain ⟨cloud', network'⟩ := settings
      simp

/-- The issues of a section: the fields that are wrong, in order and each at its key. -/
structure Blames (d : Document) (entries : List (Nat × Nat)) (issues : List Issue) : Prop where
  order : (issues.map (·.field)).Sublist [some "cloud", some (networkKey d entries)]
  cloud : some "cloud" ∈ issues.map (·.field) ↔ ∀ text, ¬ HasText (d.find? "cloud" entries) text
  network : some (networkKey d entries) ∈ issues.map (·.field) ↔
    ∀ text, ¬ NamesNetwork (networkEntry d entries) text
  kinds : ∀ issue ∈ issues,
    issue.field = some "cloud" ∧ Unfit (d.find? "cloud" entries) issue.kind ∨
      issue.field = some (networkKey d entries) ∧ Unfit (networkEntry d entries) issue.kind

theorem networkKey_ne_cloud : networkKey d entries ≠ "cloud" := by
  unfold networkKey
  split <;> decide

theorem ofEntries_eq_error {issues : List Issue}
    (h : Settings.ofEntries (view d entries) = .error issues) : Blames d entries issues := by
  have hne : networkKey d entries ≠ "cloud" := networkKey_ne_cloud
  have hcloud {k : IssueKind} (hk : (view d entries "cloud").asText = .error k) :
      (∀ text, ¬ HasText (d.find? "cloud" entries) text) ∧ Unfit (d.find? "cloud" entries) k := by
    refine ⟨fun text ht => ?_, unfit_of_asText hk⟩
    cases hk.symm.trans (asText_eq_ok_iff.2 ht)
  have hnetwork {k : IssueKind} (hk : Settings.network (view d entries) = .error k) :
      (∀ text, ¬ NamesNetwork (networkEntry d entries) text) ∧
        Unfit (networkEntry d entries) k := by
    refine ⟨fun text ht => ?_, network_eq_error hk⟩
    cases hk.symm.trans (network_eq_ok_iff.2 ht)
  rw [Settings.ofEntries, networkKey_view] at h
  split at h
  · cases h
  · rename_i cloud k hc hn
    obtain ⟨hnone, hunfit⟩ := hnetwork hn
    have htext := asText_eq_ok_iff.1 hc
    cases h
    exact ⟨by simp, by simpa [Ne.symm hne] using ⟨cloud, htext⟩, by simpa using hnone,
      by simpa using .inr hunfit⟩
  · rename_i k network hc hn
    obtain ⟨hnone, hunfit⟩ := hcloud hc
    have htext := network_eq_ok_iff.1 hn
    cases h
    exact ⟨by simp, by simpa using hnone, by simpa [hne] using ⟨network, htext⟩,
      by simpa using .inl hunfit⟩
  · rename_i k k' hc hn
    obtain ⟨hnone, hunfit⟩ := hcloud hc
    obtain ⟨hnone', hunfit'⟩ := hnetwork hn
    cases h
    exact ⟨by simp, by simpa using hnone, by simpa using hnone',
      by simpa using ⟨.inl hunfit, .inr hunfit'⟩⟩

theorem Reaches.unique {w : Value} (h : Reaches d v) (h' : Reaches d w) : v = w :=
  Except.ok.inj ((section?_eq_ok_iff.2 h).symm.trans (section?_eq_ok_iff.2 h'))

theorem ofDocument_of_unreached (h : ∀ v, ¬ Reaches d v) :
    ∃ f cause, ofDocument reader d = .error f ∧ f.kind = .stage .settings ∧ f.cause? = some cause ∧
      (cause.kind = .plain .key ∨ cause.kind = .plain .type) := by
  unfold ofDocument
  cases hs : section? d with
  | ok v => exact absurd (section?_eq_ok_iff.1 hs) (h v)
  | error f => exact ⟨_, f, rfl, rfl, rfl, section?_eq_error hs⟩

theorem ofDocument_of_noMapping (h : Reaches d v) (hv : ∀ entries, v ≠ .mapping entries) :
    ∃ f, ofDocument reader d = .error f ∧ f.kind = .stage .settings ∧ f.cause? = none := by
  unfold ofDocument
  rw [section?_eq_ok_iff.2 h]
  split
  · rename_i he
    cases he
  · rename_i entries he
    cases he
    exact absurd rfl (hv entries)
  · exact ⟨_, rfl, rfl, rfl⟩

theorem ofDocument_of_mapping (h : Reaches d (.mapping entries)) :
    ofDocument reader d = (Settings.ofEntries (view d entries)).mapError fun issues =>
      unusable "invalid platform.openstack section"
        (.alone (.invalid issues) (reader.blame d issues)) := by
  unfold ofDocument view
  rw [section?_eq_ok_iff.2 h]
  dsimp only
  cases Settings.ofEntries fun key => settingEntry (d.find? key entries) <;> rfl

theorem ofDocument_eq_ok_iff {settings : Settings} :
    ofDocument reader d = .ok settings ↔ Usable d settings := by
  constructor
  · intro h
    cases hs : section? d with
    | error f =>
      have hnone : ∀ v, ¬ Reaches d v := fun v hv => by cases hs.symm.trans (section?_eq_ok_iff.2 hv)
      obtain ⟨_, _, he, -⟩ := ofDocument_of_unreached hnone
      cases h.symm.trans he
    | ok v =>
      have hv := section?_eq_ok_iff.1 hs
      by_cases hm : ∃ entries, v = .mapping entries
      · obtain ⟨entries, rfl⟩ := hm
        rw [ofDocument_of_mapping hv] at h
        cases ho : Settings.ofEntries (view d entries) with
        | error issues =>
          rw [ho] at h
          cases h
        | ok found =>
          rw [ho] at h
          cases h
          exact ⟨entries, hv, ofEntries_eq_ok_iff.1 ho⟩
      · obtain ⟨_, he, -⟩ := ofDocument_of_noMapping hv fun entries he => hm ⟨entries, he⟩
        cases h.symm.trans he
  · rintro ⟨entries, hr, hfields⟩
    rw [ofDocument_of_mapping hr, ofEntries_eq_ok_iff.2 hfields]
    rfl

def loadedEntry (settings : Settings) : LogEntry :=
  ⟨.debug, .settings, s!"Loaded install settings for cloud {settings.cloud}, " ++
    s!"external network {settings.externalNetwork.shown}"⟩

/-- Loading asks for nothing, and logs only what it has loaded. -/
theorem runOn_load (reader : ConfigReader) (s : Stream) (j : Journal) :
    (load reader s).runOn j =
      match document reader s >>= ofDocument reader with
      | .ok settings => (.ok settings, { j with log := j.log ++ [loadedEntry settings] })
      | .error f => (.error f, j) := by
  unfold load
  rw [Action.runOn_bind, Action.runOn_ofExcept]
  cases document reader s with
  | error f => rfl
  | ok d =>
    simp only
    rw [Action.runOn_bind, Action.runOn_ofExcept]
    change _ = match ofDocument reader d with | .ok _ => _ | .error _ => _
    cases ofDocument reader d <;> rfl

theorem outcome_load_of_parse (h : reader.parse s = .ok d) :
    (load reader s).outcome =
      match ofDocument reader d with
      | .ok settings => (.ok settings, ⟨[], [loadedEntry settings]⟩)
      | .error f => (.error f, ⟨[], []⟩) := by
  have hd : document reader s = .ok d := by
    unfold document
    rw [h]
  rw [Action.outcome, runOn_load, hd]
  change (match ofDocument reader d with | .ok _ => _ | .error _ => _) = _
  cases ofDocument reader d <;> rfl

theorem outcome_load_fst (h : reader.parse s = .ok d) :
    (load reader s).outcome.1 = ofDocument reader d := by
  rw [outcome_load_of_parse h]
  cases ofDocument reader d <;> rfl

/-- Of an install config that is YAML, settings are loaded exactly if it is usable for them. Any other
one is reported as unusable: because of what keeps its section from being reached, because of nothing
else if the section is no mapping, and because of the issues of its fields if it is one. Nothing but
the two fields of the section counts, but for the words in which issues are told. -/
theorem load_eq_ok_iff_usable (h : reader.parse s = .ok d) :
    (∀ settings, (load reader s).outcome.1 = .ok settings ↔ Usable d settings) ∧
    ((∀ settings, ¬ Usable d settings) →
      ∃ f, (load reader s).outcome.1 = .error f ∧ f.kind = .stage .settings ∧
        ((∀ v, ¬ Reaches d v) → ∃ cause, f.cause? = some cause ∧
          (cause.kind = .plain .key ∨ cause.kind = .plain .type)) ∧
        (∀ v, Reaches d v → (∀ entries, v ≠ .mapping entries) → f.cause? = none) ∧
        ∀ entries, Reaches d (.mapping entries) → ∃ cause issues, f.cause? = some cause ∧
          cause.kind = .invalid issues ∧ Blames d entries issues) ∧
    ∀ (words : List Issue → String) (s' : Stream) (d' : Document)
      (entries entries' : List (Nat × Nat)), reader.parse s' = .ok d' →
      Reaches d (.mapping entries) → Reaches d' (.mapping entries') →
      settingEntry (d'.find? "cloud" entries') = settingEntry (d.find? "cloud" entries) →
      networkKey d' entries' = networkKey d entries →
      settingEntry (networkEntry d' entries') = settingEntry (networkEntry d entries) →
      (load { reader with blame := fun _ => words } s').outcome =
        (load { reader with blame := fun _ => words } s).outcome := by
  have hresult := outcome_load_fst h
  refine ⟨fun settings => by rw [hresult, ofDocument_eq_ok_iff], fun hnone => ?_, ?_⟩
  · rw [hresult]
    by_cases hr : ∃ v, Reaches d v
    · obtain ⟨v, hv⟩ := hr
      by_cases hm : ∃ entries, v = .mapping entries
      · obtain ⟨entries, rfl⟩ := hm
        rw [ofDocument_of_mapping hv]
        cases ho : Settings.ofEntries (view d entries) with
        | ok settings => exact absurd ⟨entries, hv, ofEntries_eq_ok_iff.1 ho⟩ (hnone settings)
        | error issues =>
          refine ⟨_, rfl, rfl, fun hu => absurd hv (hu _), fun w hw hne => ?_, fun other ho' => ?_⟩
          · exact absurd (hw.unique hv) (hne entries)
          · cases hv.unique ho'
            exact ⟨_, issues, rfl, rfl, ofEntries_eq_error ho⟩
      · have hne : ∀ entries, v ≠ .mapping entries := fun entries he => hm ⟨entries, he⟩
        obtain ⟨f, hf, hkind, hcause⟩ := ofDocument_of_noMapping hv hne
        exact ⟨f, hf, hkind, fun hu => absurd hv (hu v), fun _ _ _ => hcause,
          fun entries he => absurd (hv.unique he) (hne entries)⟩
    · have hu : ∀ v, ¬ Reaches d v := fun v hv => hr ⟨v, hv⟩
      obtain ⟨f, cause, hf, hkind, hcause, hc⟩ := ofDocument_of_unreached hu
      exact ⟨f, hf, hkind, fun _ => ⟨cause, hcause, hc⟩, fun v hv => absurd hv (hu v),
        fun entries he => absurd he (hu _)⟩
  · intro words s' d' entries entries' h' hr hr' hcloud hkey hnetwork
    have hview : Settings.ofEntries (view d' entries') = Settings.ofEntries (view d entries) := by
      have hc : view d' entries' "cloud" = view d entries "cloud" := hcloud
      have hn : view d' entries' (networkKey d entries) = view d entries (networkKey d entries) := by
        rw [view_networkKey, ← hkey, view_networkKey, hnetwork]
      simp only [Settings.ofEntries, Settings.network, networkKey_view, hc, hkey, hn]
    let same : ConfigReader := { reader with blame := fun _ => words }
    have hs : same.parse s = .ok d := h
    have hs' : same.parse s' = .ok d' := h'
    rw [outcome_load_of_parse hs, outcome_load_of_parse hs', ofDocument_of_mapping hr,
      ofDocument_of_mapping hr', hview]

/-- A merged key that is null counts before the other key of the network, and bytes count as the
text that they encode. -/
theorem load_eq_ok_iff_usable_mergedNull :
    let s := Stream.ofText ("base: &b \x7bexternalNetwork: ~, cloud: 7\x7d\n" ++
      "platform: \x7bopenstack: \x7b<<: *b, external_network: other, cloud: !!binary Yw==\x7d\x7d\n")
    ∃ d, Document.parse s = .ok d ∧ Usable d ⟨.ofString "c", .ofString ""⟩ := by
  intro s
  have hparse : (Document.parse s).toOption.isSome = true := by decide +kernel
  have hload : (load default s).outcome.1.toOption = some ⟨.ofString "c", .ofString ""⟩ := by
    decide +kernel
  cases hd : Document.parse s with
  | error f =>
    rw [hd] at hparse
    cases hparse
  | ok d =>
    cases ho : (load default s).outcome.1 with
    | error f =>
      rw [ho] at hload
      cases hload
    | ok settings =>
      rw [ho] at hload
      cases hload
      have hparse : (default : ConfigReader).parse s = .ok d := hd
      exact ⟨d, rfl, ((load_eq_ok_iff_usable hparse).1 _).1 ho⟩

end CloudConf.InstallConfig
