import CloudConf.Proofs.NameLookup
import CloudConf.Proofs.SameCloud

/-! # Which network the load balancer is given -/
namespace CloudConf
namespace Provider

open Text (SectionEntry entriesIn entryKey?)

/-- The ids that a configuration gives for the network of the load balancer. -/
def floatingIds (config : String) : List (List Char) :=
  valuesAt "floating-network-id" (entries config)

/-- The load balancer is given one id, which is that of the one network of the client that bears the
name. -/
def FloatsOnNamed (c : NetworkClient) (name : WideText) (config : String) : Prop :=
  ∃ n id, c.networks.filter (·.name = name) = [n] ∧ n.id = some id ∧
    floatingIds config = [id.toList]

theorem valuesAt_append (key : String) (es es' : List SectionEntry) :
    valuesAt key (es ++ es') = valuesAt key es ++ valuesAt key es' := by
  rw [valuesAt, List.filter_append, List.map_append]
  rfl

theorem valuesAt_eq_nil_iff {key : String} {es : List SectionEntry} :
    valuesAt key es = [] ↔ key.toList ∉ es.map (·.key) := by
  simp [valuesAt]

theorem valuesAt_entriesIn_eq_nil_iff (name : Option (List Char)) {lines : List (List Char)} :
    valuesAt "floating-network-id" (entriesIn name lines) = [] ↔
      ∀ line ∈ lines, ¬ floatingPrefix.toList <+: line := by
  have hkey : ∀ line, entryKey? line = some "floating-network-id".toList ↔
      floatingPrefix.toList <+: line :=
    fun line => Text.entryKey?_eq_some_iff (by decide) (by decide) (by decide)
  rw [valuesAt_eq_nil_iff, Text.map_key_entriesIn, List.mem_filterMap]
  simp only [hkey, not_exists, not_and]

theorem floatingIds_render (region : String) (hasCa : Bool) (id : Option String) :
    floatingIds (render region hasCa (some id)) =
      valuesAt "floating-network-id" (entriesIn (some globalSection) (strayLines region)) ++
        firstLine (idText id) ::
          valuesAt "floating-network-id"
            (entriesIn (some loadBalancerSection) (strayLines (idText id))) := by
  have hregion : valuesAt "floating-network-id" (if region = "" then []
      else [⟨some globalSection, "region".toList, firstLine region⟩]) = [] := by
    split <;> rfl
  have hca : ∀ name, valuesAt "floating-network-id" (if hasCa then
      [⟨name, "ca-file".toList, caBundleMount.toList⟩] else []) = [] := by
    intro name
    cases hasCa <;> rfl
  have hsecret : valuesAt "floating-network-id" [⟨some globalSection, "secret-name".toList,
        "openstack-credentials".toList⟩, ⟨some globalSection, "secret-namespace".toList,
        "kube-system".toList⟩] = [] := rfl
  rw [floatingIds, entries_render]
  simp only [valuesAt_append, hregion, hca, hsecret, List.nil_append]
  rfl

/-- The id is read back alone exactly if it has no line break, nor the region a line like its. -/
theorem floatingIds_eq_singleton_iff {region : String} {hasCa : Bool} {id : Option String} :
    floatingIds (render region hasCa (some id)) = [(idText id).toList] ↔
      '\n' ∉ (idText id).toList ∧
        ∀ line ∈ strayLines region, ¬ floatingPrefix.toList <+: line := by
  rw [floatingIds_render, ← valuesAt_entriesIn_eq_nil_iff (some globalSection),
    ← firstLine_eq_iff]
  constructor
  · intro h
    rcases List.append_eq_singleton_iff.1 h with ⟨hregion, hid⟩ | ⟨-, hid⟩
    · exact ⟨(List.cons.inj hid).1, hregion⟩
    · cases hid
  · rintro ⟨hid, hregion⟩
    have hlines : strayLines (idText id) = [] := strayLines_of_notMem (firstLine_eq_iff.1 hid)
    rw [hregion, hid, hlines]
    rfl

theorem render_some (region : String) (hasCa : Bool) (id : Option String) :
    render region hasCa (some id) =
      render region hasCa none ++ "\n[LoadBalancer]\nfloating-network-id = " ++ idText id ++
        "\n" := by
  have hfront : '\n' :: loadBalancerHeader.toList ++ '\n' :: floatingPrefix.toList =
      "\n[LoadBalancer]\nfloating-network-id = ".toList := by decide
  apply String.toList_inj.1
  simp only [String.toList_append, render, String.toList_ofList, ← hfront]
  simp [lines, Text.unlines, floatingPrefix]

variable {c : NetworkClient} {p : Profile} {network : WideText} {read : FileReader}
  {j i : Journal} {artifact : Artifact}

/-- A run that looks a network up succeeds only on a listing of a single network, whose id it
writes. -/
theorem generate_resolve_eq_ok (hn : network.isEmpty = false)
    (h : (generate p network (Lookup.resolve c) read).runOn j = (.ok artifact, i)) :
    ∃ n, c.failure = none ∧ c.matching network = [n] ∧
      artifact.config = configOf p (some n.id) := by
  obtain ⟨floating, hc, hf, hg, -⟩ := generate_eq_ok h
  cases floating with
  | none =>
    rw [hn] at hf
    cases hf
  | some id =>
    obtain ⟨j', i', hr⟩ := hg id rfl
    have ha := (Lookup.runOn_resolve c network j').1
    rw [hr] at ha
    obtain ⟨hfails, n, hm, rfl⟩ := Lookup.answer_eq_ok_iff.1 ha.symm
    exact ⟨n, hfails, hm, hc⟩

theorem filter_eq_singleton_iff {n : Network} (hm : c.matching network = [n]) {m : Network} :
    c.networks.filter (·.name = network) = [m] ↔ m = n ∧ n.name = network := by
  unfold NetworkClient.matching at hm
  split at hm
  · have hmem : n ∈ c.networks.filter (·.name = network) := hm ▸ List.mem_cons_self
    have hname : n.name = network := by simpa using (List.mem_filter.1 hmem).2
    rw [hm]
    simp [hname, eq_comm]
  · rw [hm]
    by_cases hname : n.name = network
    · simp [hname, eq_comm]
    · simp [hname]

theorem floatsOnNamed_iff {n : Network} {id : String} (hm : c.matching network = [n])
    (hid : n.id = some id) :
    FloatsOnNamed c network (configOf p (some n.id)) ↔ n.name = network ∧ '\n' ∉ id.toList ∧
      ∀ line ∈ strayLines p.regionName, ¬ floatingPrefix.toList <+: line := by
  have hread : floatingIds (configOf p (some n.id)) = [id.toList] ↔ '\n' ∉ id.toList ∧
      ∀ line ∈ strayLines p.regionName, ¬ floatingPrefix.toList <+: line := by
    rw [hid]
    exact floatingIds_eq_singleton_iff
  rw [← hread]
  constructor
  · rintro ⟨m, id', hf, hid', hids⟩
    obtain ⟨rfl, hname⟩ := (filter_eq_singleton_iff hm).1 hf
    obtain rfl : id = id' := Option.some.inj (hid.symm.trans hid')
    exact ⟨hname, hids⟩
  · rintro ⟨hname, hids⟩
    exact ⟨n, id, (filter_eq_singleton_iff hm).2 ⟨rfl, hname⟩, hid, hids⟩

/-- A run that looks a network up and succeeds has been listed a single one. Of a client that
filters, this is the one network that bears the name; of any other, it is the only network. If it
has an id, the configuration ends in the id; and the load balancer is given this id alone, as that
of the one network that bears the name, exactly if the network does, the id has no line break, and
the region begins no line like that of an id. -/
theorem generate_floats_on_listed (hn : network.isEmpty = false)
    (h : (generate p network (Lookup.resolve c) read).runOn j = (.ok artifact, i)) :
    ∃ n, c.listing network = ([n], none) ∧
      (c.filters → n.name = network ∧ c.networks.filter (·.name = network) = [n]) ∧
      (c.filters = false → c.networks = [n]) ∧
      ∀ id, n.id = some id →
        (∃ front, artifact.config =
          front ++ "\n[LoadBalancer]\nfloating-network-id = " ++ id ++ "\n") ∧
        (FloatsOnNamed c network artifact.config ↔ n.name = network ∧ '\n' ∉ id.toList ∧
          ∀ line ∈ strayLines p.regionName, ¬ floatingPrefix.toList <+: line) := by
  obtain ⟨n, hfails, hm, hc⟩ := generate_resolve_eq_ok hn h
  have hlisting : c.listing network = ([n], none) := by
    rw [NetworkClient.listing_of_none hfails, hm]
  refine ⟨n, hlisting, ?_, ?_, ?_⟩
  · intro hf
    have hfilter : c.networks.filter (·.name = network) = [n] := by
      rwa [NetworkClient.matching, if_pos hf] at hm
    exact ⟨((filter_eq_singleton_iff hm).1 hfilter).2, hfilter⟩
  · intro hf
    rwa [NetworkClient.matching, hf] at hm
  · intro id hid
    rw [hc]
    refine ⟨⟨configOf p none, ?_⟩, floatsOnNamed_iff hm hid⟩
    rw [hid]
    exact render_some p.regionName _ (some id)

/-- A network is found by its name, not by its id. -/
theorem generate_floats_on_listed_net1 :
    let client : NetworkClient :=
      { networks := [⟨some "net1", .ofString "other"⟩, ⟨some "id-1", .ofString "net1"⟩]
        filters := true
        failure := none
        yields := 0 }
    ∃ artifact i, (generate { regionName := "RegionOne" } (.ofString "net1")
        (Lookup.resolve client) fun _ => pure ByteArray.empty).runOn ⟨[], []⟩ = (.ok artifact, i) ∧
      FloatsOnNamed client (.ofString "net1") artifact.config := by
  intro client
  refine ⟨_, _, rfl, ?_⟩
  have hrun : (generate { regionName := "RegionOne" } (.ofString "net1") (Lookup.resolve client)
      fun _ => pure ByteArray.empty).runOn ⟨[], []⟩ = (.ok _, _) := rfl
  obtain ⟨n, hlisting, hfilters, -, hid⟩ := generate_floats_on_listed (by decide) hrun
  have hlisted : client.listing (.ofString "net1") =
      ([⟨some "id-1", .ofString "net1"⟩], none) := by decide +kernel
  rw [hlisted] at hlisting
  cases hlisting
  exact (hid "id-1" rfl).2.2 ⟨(hfilters rfl).1, by decide, by decide⟩

/-- A client that does not filter lists a network of another name, one that does a network without
an id; an id and a region may break their lines. -/
theorem generate_not_floatsOnNamed :
    let run (p : Profile) (c : NetworkClient) : Except Failure Artifact × Journal :=
      (generate p (.ofString "net1") (Lookup.resolve c)
        fun _ => pure ByteArray.empty).runOn ⟨[], []⟩
    let client (id : Option String) (name : String) (filters : Bool) : NetworkClient :=
      { networks := [⟨id, .ofString name⟩], filters, failure := none, yields := 0 }
    let fails (p : Profile) (c : NetworkClient) : Prop :=
      ∃ artifact i, run p c = (.ok artifact, i) ∧
        ¬ FloatsOnNamed c (.ofString "net1") artifact.config
    fails {} (client (some "id-9") "other" false) ∧
      fails {} (client none "net1" true) ∧
      fails {} (client (some "a\nb") "net1" true) ∧
      fails { regionName := "a\nfloating-network-id = b" } (client (some "id-1") "net1" true) := by
  intro run client fails
  have hmatching : ∀ id : Option String, (client id "net1" true).matching (.ofString "net1") =
      [⟨id, .ofString "net1"⟩] := by
    intro id
    simp [client, NetworkClient.matching]
  refine ⟨⟨_, _, rfl, ?_⟩, ⟨_, _, rfl, ?_⟩, ⟨_, _, rfl, ?_⟩, ⟨_, _, rfl, ?_⟩⟩
  · rintro ⟨n, id, hn, -, -⟩
    have hnone : (client (some "id-9") "other" false).networks.filter
        (·.name = .ofString "net1") = [] := by decide +kernel
    rw [hnone] at hn
    cases hn
  · rintro ⟨n, id, hn, hid, -⟩
    obtain ⟨rfl, -⟩ := (filter_eq_singleton_iff (hmatching none)).1 hn
    cases hid
  · intro h
    obtain ⟨-, hbreak, -⟩ := (floatsOnNamed_iff (p := {}) (hmatching (some "a\nb")) rfl).1 h
    exact hbreak (by decide)
  · intro h
    obtain ⟨-, -, hline⟩ := (floatsOnNamed_iff
      (p := { regionName := "a\nfloating-network-id = b" }) (hmatching (some "id-1")) rfl).1 h
    exact hline "floating-network-id = b".toList (by decide) (by decide)

end Provider
end CloudConf
