import CloudConf.Proofs.SecretReading
import CloudConf.Proofs.ValueTexts

/-! # A cloud's secret tells all that is set, and nothing else -/
namespace CloudConf

/-- The keys of the credentials among the settings that authenticate. -/
def credentialKeys : List String :=
  ["auth_url", "username", "password", "project_id", "project_name", "domain_id",
    "user_domain_id", "domain_name", "user_domain_name"]

namespace Datum

def isMapping : Datum → Bool
  | mapping _ => true
  | _ => false

variable {entry : Option Datum}

/-- The text that is told of an entry, if one is. -/
def told? (entry : Option Datum) : Option String := (setting entry).toOption.filter (· ≠ "")

theorem getD_told? {t : String} (h : setting entry = .ok t) : (told? entry).getD "" = t := by
  rw [told?, h]
  by_cases ht : t = ""
  · simp [Except.toOption, Option.filter_some, ht]
  · simp [Except.toOption, Option.filter_some, ht]

end Datum

namespace Region

def entries (r : Region) : List (String × Datum) :=
  match r.config with
  | .mapping es => es
  | _ => []

def authEntries (r : Region) : List (String × Datum) :=
  match Datum.find? "auth" r.entries with
  | some (.mapping es) => es
  | _ => []

/-- The value that would have to be a mapping and is none. An empty value in place of the entries
that authenticate will do. -/
def misfit? (r : Region) : Option Datum :=
  match r.config with
  | .mapping es => (Datum.find? "auth" es).filter fun auth => auth.isTruthy && !auth.isMapping
  | d => some d

/-- All that is converted to a text when the profile is made. -/
def converted (r : Region) : List Datum :=
  credentialKeys.filterMap (Datum.find? · r.authEntries) ++
    (r.name :: (Datum.find? "cacert" r.entries).toList)

end Region

def Profile.told (auth : String → Option Datum) (name : Datum) (caFile : Option Datum) :
    Profile where
  authUrl := (Datum.told? (auth "auth_url")).getD ""
  username := (Datum.told? (auth "username")).getD ""
  password := (Datum.told? (auth "password")).getD ""
  projectId := (Datum.told? (auth "project_id")).getD ""
  projectName := (Datum.told? (auth "project_name")).getD ""
  domainId := (Datum.told? (auth "domain_id")).getD ""
  userDomainId := (Datum.told? (auth "user_domain_id")).getD ""
  domainName := (Datum.told? (auth "domain_name")).getD ""
  userDomainName := (Datum.told? (auth "user_domain_name")).getD ""
  regionName := (Datum.told? (some name)).getD ""
  caCertFile := .ofString ((Datum.told? caFile).getD "")

def Region.profile (r : Region) : Profile :=
  .told (Datum.find? · r.authEntries) r.name (Datum.find? "cacert" r.entries)

namespace Profile

def entriesFailure (d : Datum) : Failure :=
  .alone (.plain .attribute) s!"'{d.typeName}' object has no attribute 'get'"

theorem entries_of_isMapping {d : Datum} (h : d.isMapping = false) :
    entries d = .error (entriesFailure d) := by
  cases d with
  | mapping es => cases h
  | _ => rfl

theorem authEntries_of_misfit {config : List (String × Datum)} {auth : Datum}
    (ha : Datum.find? "auth" config = some auth) (ht : auth.isTruthy)
    (hm : auth.isMapping = false) : authEntries config = .error (entriesFailure auth) := by
  rw [authEntries, ha]
  simp only [ht, if_true]
  exact entries_of_isMapping hm

theorem authEntries_of_fit {r : Region} {config : List (String × Datum)}
    (hc : r.config = .mapping config) (hf : r.misfit? = none) :
    authEntries config = .ok r.authEntries := by
  simp only [Region.misfit?, hc] at hf
  simp only [authEntries, Region.authEntries, Region.entries, hc]
  cases ha : Datum.find? "auth" config with
  | none => rfl
  | some auth =>
    rw [ha] at hf
    cases auth with
    | mapping es => cases es <;> rfl
    | _ => simp_all [Datum.isMapping]

theorem ofSettings_eq_ok_iff {auth : String → Option Datum} {name : Datum} {caFile : Option Datum}
    {p : Profile} :
    ofSettings auth name caFile = .ok p ↔
      (∀ key ∈ credentialKeys, ∃ t, Datum.setting (auth key) = .ok t) ∧
        (∃ t, Datum.setting (some name) = .ok t) ∧ (∃ t, Datum.setting caFile = .ok t) ∧
        p = .told auth name caFile := by
  simp only [ofSettings, except_bind_eq_ok_iff, except_pure_eq_ok_iff, credentialKeys,
    List.forall_mem_cons]
  constructor
  · rintro ⟨_, h₁, _, h₂, _, h₃, _, h₄, _, h₅, _, h₆, _, h₇, _, h₈, _, h₉, _, h₁₀, _, h₁₁, rfl⟩
    refine ⟨⟨⟨_, h₁⟩, ⟨_, h₂⟩, ⟨_, h₃⟩, ⟨_, h₄⟩, ⟨_, h₅⟩, ⟨_, h₆⟩, ⟨_, h₇⟩, ⟨_, h₈⟩, ⟨_, h₉⟩,
      List.forall_mem_nil _⟩, ⟨_, h₁₀⟩, ⟨_, h₁₁⟩, ?_⟩
    simp only [Profile.told, Datum.getD_told? h₁, Datum.getD_told? h₂, Datum.getD_told? h₃,
      Datum.getD_told? h₄, Datum.getD_told? h₅, Datum.getD_told? h₆, Datum.getD_told? h₇,
      Datum.getD_told? h₈, Datum.getD_told? h₉, Datum.getD_told? h₁₀, Datum.getD_told? h₁₁]
  · rintro ⟨⟨⟨_, h₁⟩, ⟨_, h₂⟩, ⟨_, h₃⟩, ⟨_, h₄⟩, ⟨_, h₅⟩, ⟨_, h₆⟩, ⟨_, h₇⟩, ⟨_, h₈⟩, ⟨_, h₉⟩, -⟩,
      ⟨_, h₁₀⟩, ⟨_, h₁₁⟩, rfl⟩
    refine ⟨_, h₁, _, h₂, _, h₃, _, h₄, _, h₅, _, h₆, _, h₇, _, h₈, _, h₉, _, h₁₀, _, h₁₁, ?_⟩
    simp only [Profile.told, Datum.getD_told? h₁, Datum.getD_told? h₂, Datum.getD_told? h₃,
      Datum.getD_told? h₄, Datum.getD_told? h₅, Datum.getD_told? h₆, Datum.getD_told? h₇,
      Datum.getD_told? h₈, Datum.getD_told? h₉, Datum.getD_told? h₁₀, Datum.getD_told? h₁₁]

/-- A region is converted unless a value is no mapping that would have to be one. -/
theorem ofRegion_eq (r : Region) :
    ofRegion r = match r.misfit? with
      | some d => .error (entriesFailure d)
      | none => ofSettings (Datum.find? · r.authEntries) r.name (Datum.find? "cacert" r.entries) := by
  cases hc : r.config with
  | mapping config =>
    cases hf : r.misfit? with
    | some auth =>
      obtain ⟨ha, ht, hm⟩ : Datum.find? "auth" config = some auth ∧ auth.isTruthy ∧
          auth.isMapping = false := by
        simpa [Region.misfit?, hc, Option.filter_eq_some_iff] using hf
      simp [ofRegion, hc, entries, authEntries_of_misfit ha ht hm, bind, Except.bind]
    | none =>
      have hcacert : r.entries = config := by rw [Region.entries, hc]
      simp only [ofRegion, hc, entries, authEntries_of_fit hc hf, bind, Except.bind, hcacert]
  | _ => simp [ofRegion, Region.misfit?, hc, entries, entriesFailure, bind, Except.bind]

theorem forall_converted_iff {r : Region} :
    (∀ d ∈ r.converted, ¬ d.Overlong) ↔
      (∀ key ∈ credentialKeys, ∃ t, Datum.setting (Datum.find? key r.authEntries) = .ok t) ∧
        (∃ t, Datum.setting (some r.name) = .ok t) ∧
        ∃ t, Datum.setting (Datum.find? "cacert" r.entries) = .ok t := by
  simp only [Datum.exists_setting_eq_ok_iff, Region.converted, List.forall_mem_append,
    List.forall_mem_cons, List.mem_filterMap, Option.mem_toList]
  refine and_congr ⟨fun h key hk d hd => h d ⟨key, hk, hd⟩, ?_⟩ (and_congr_left' (by simp))
  rintro h d ⟨key, hk, hd⟩
  exact h key hk d hd

theorem ofRegion_eq_ok_iff {r : Region} {p : Profile} :
    ofRegion r = .ok p ↔
      r.misfit? = none ∧ (∀ d ∈ r.converted, ¬ d.Overlong) ∧ p = r.profile := by
  rw [ofRegion_eq, forall_converted_iff]
  cases r.misfit? with
  | none =>
    simp only [ofSettings_eq_ok_iff, true_and, and_assoc]
    rfl
  | some d => simp

end Profile

namespace Credentials

end Credentials

namespace Region

end Region
end CloudConf
