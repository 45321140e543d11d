import CloudConf.Proofs.ActionRuns
import CloudConf.Provider

/-! # What successful runs of the generator have done -/
namespace CloudConf

def Resolver.Gives (resolve : Resolver) (name : WideText) (id : Option String) : Prop :=
  ∃ j i, (resolve name).runOn j = (.ok id, i)

def FileReader.Gives (read : FileReader) (path : WideText) (content : ByteArray) : Prop :=
  ∃ j i, (read path).runOn j = (.ok content, i)

namespace Provider

open CloudConf.Action

variable {p : Profile} {network : WideText} {resolve : Resolver} {read : FileReader}
  {j i : Journal}

theorem readCaBundle_eq_ok {path : WideText} {bundle : Option ByteArray}
    (h : (readCaBundle read path).runOn j = (.ok bundle, i)) :
    bundle.isSome = decide (path ≠ "") ∧ ∀ content ∈ bundle, read.Gives path content := by
  unfold readCaBundle at h
  split at h
  · rename_i hp
    cases h
    simp [hp]
  · rename_i hp
    obtain ⟨content, i₁, hr, h⟩ := runOn_bind_eq_ok h
    obtain ⟨u, i₂, hl, h⟩ := runOn_bind_eq_ok h
    cases h
    refine ⟨by simp [hp], ?_⟩
    intro c hc
    cases hc
    exact ⟨j, i₁, runOn_within_eq_ok hr⟩

theorem findFloating_eq_ok {floating : Option (Option String)}
    (h : (findFloating resolve network).runOn j = (.ok floating, i)) :
    floating.isSome = !network.isEmpty ∧ ∀ id ∈ floating, resolve.Gives network id := by
  unfold findFloating at h
  split at h
  · rename_i hn
    cases h
    simp [hn]
  · rename_i hn
    obtain ⟨id, i₁, hr, h⟩ := runOn_bind_eq_ok h
    obtain ⟨u, i₂, hl, h⟩ := runOn_bind_eq_ok h
    cases h
    refine ⟨by simp [hn], ?_⟩
    intro d hd
    cases hd
    exact ⟨j, i₁, runOn_within_eq_ok hr⟩

/-- A configuration that was generated is rendered from the region, from whether there is a CA file
and from the id that was given for the network, if one is named. -/
theorem generate_eq_ok {artifact : Artifact}
    (h : (generate p network resolve read).runOn j = (.ok artifact, i)) :
    ∃ floating : Option (Option String),
      artifact.config = render p.regionName (decide (p.caCertFile ≠ "")) floating ∧
      floating.isSome = !network.isEmpty ∧ (∀ id ∈ floating, resolve.Gives network id) ∧
      artifact.caBundle.isSome = decide (p.caCertFile ≠ "") ∧
      ∀ content ∈ artifact.caBundle, read.Gives p.caCertFile content := by
  obtain ⟨bundle, i₁, hb, h⟩ := runOn_bind_eq_ok h
  obtain ⟨floating, i₂, hf, h⟩ := runOn_bind_eq_ok h
  cases h
  obtain ⟨hs, hr⟩ := readCaBundle_eq_ok hb
  obtain ⟨hn, hg⟩ := findFloating_eq_ok hf
  exact ⟨floating, by rw [hs], hn, hg, hs, hr⟩

end Provider

end CloudConf
