import CloudConf.Install
import CloudConf.Proofs.StepRuns

/-! # The steps of an installation -/
namespace CloudConf

theorem NetworkClient.runOn_ids (client : NetworkClient) (name : WideText) (j : Journal) :
    (client.ids name).runOn j =
      (match client.listing name with
        | (found, none) => .ok (found.map (·.id))
        | (_, some f) => .error f,
      { j with demands := j.demands ++ [.call (.networks name)] }) := by
  rw [ids, Action.runOn_bind_ok (Action.runOn_call _ j)]
  obtain ⟨found, failed⟩ := client.listing name
  cases failed <;> rfl

namespace Lookup

def answer (client : NetworkClient) (name : WideText) : Except Failure (Option String) :=
  match client.listing name with
  | (_, some f) => .error f
  | (found, none) =>
    match found.map (·.id) with
    | [] => .error (notFound name)
    | [id] => .ok id
    | ids => .error (ambiguous name ids)

theorem runOn_resolve (client : NetworkClient) (name : WideText) (j : Journal) :
    ((resolve client name).runOn j).1 = answer client name ∧
      ((resolve client name).runOn j).2.demands = j.demands ++ [.call (.networks name)] := by
  rw [resolve, Action.runOn_bind, NetworkClient.runOn_ids, answer]
  obtain ⟨found, failed⟩ := client.listing name
  cases failed with
  | some f => exact ⟨rfl, rfl⟩
  | none =>
    match found with
    | [] => exact ⟨rfl, rfl⟩
    | [_] => exact ⟨rfl, rfl⟩
    | _ :: _ :: _ => exact ⟨rfl, rfl⟩

def collaborator (client : NetworkClient) : Collaborator WideText (Option String) where
  ask := resolve client
  demands name := [.call (.networks name)]
  answer := answer client
  answers name j := (runOn_resolve client name j).1
  asks name j := (runOn_resolve client name j).2

end Lookup

namespace World

variable (w : World) (j : Journal)

theorem runOn_loadClouds (files : Option (List String)) :
    (w.loadClouds files).runOn j = (resultOf () w.loaderFailure,
      { j with demands := j.demands ++ [.call (.loader files)] }) := by
  obtain ⟨_, failed, _, _, _, _⟩ := w
  cases failed <;> rfl

def cloudAnswer (name : WideText) : Except Failure Region :=
  match w.cloudFailure, findCloud name w.clouds with
  | some f, _ => .error f
  | none, some region => .ok region
  | none, none => .error (.alone (.cloud .configuration) s!"Cloud {name} was not found.")

theorem runOn_cloud (name : WideText) :
    (w.cloud name).runOn j = (w.cloudAnswer name,
      { j with demands := j.demands ++ [.call (.cloud name)] }) := by
  obtain ⟨clouds, _, failed, _, _, _⟩ := w
  cases failed with
  | some f => rfl
  | none =>
    simp only [cloud, cloudAnswer]
    cases findCloud name clouds <;> rfl

theorem runOn_connect (region : Region) :
    (w.connect region).runOn j = (resultOf () w.connectionFailure,
      { j with demands := j.demands ++ [.call (.connection region.name)] }) := by
  obtain ⟨_, _, _, failed, _, _⟩ := w
  cases failed <;> rfl

theorem runOn_networkClient :
    w.networkClient.runOn j = (resultOf w.client w.networkFailure,
      { j with demands := j.demands ++ [.service] }) := by
  obtain ⟨_, _, _, _, failed, _⟩ := w
  cases failed <;> rfl

end World

/-- All that an installation depends on. -/
structure Installation where
  world : World
  loaded : Bool
  settings : Settings
  resolver : Option (Collaborator WideText (Option String))
  read : Collaborator WideText ByteArray

namespace Installation

inductive Step where
  | loader | cloud | profile | connection | service | caFile | network
  deriving DecidableEq, Repr

def Step.inOrder : List Step := [loader, cloud, profile, connection, service, caFile, network]

/-- The stage, and its words, that report a kind of failure of a step; the others are not
reported. -/
def reportedAs (network : WideText) : Step → FailureKind → Option (Stage × String)
  | .loader, .cloud _ | .loader, .identity _ | .cloud, .cloud _ | .cloud, .identity _ =>
    some (.session, "failed to get cloud config for openstack")
  | .connection, .cloud _ | .connection, .identity _ | .service, .cloud _ | .service, .identity _ =>
    some (.client, "failed to create a network client")
  | .caFile, .system _ | .caFile, .cloud .http | .caFile, .cloud .notFound =>
    some (.caBundle, "failed to read clouds.yaml ca-cert from disk")
  | .network, .signal _ => none
  | .network, _ => some (.lookup, s!"failed to fetch external network {network}")
  | _, _ => none

/-- A failure of a step as it leaves the installation. -/
def report (network : WideText) (s : Step) (f : Failure) : Failure :=
  match reportedAs network s f.kind with
  | some (stage, text) => .because (.stage stage) text f
  | none => f

variable (c : Installation)

def run : Action Artifact :=
  Install.generate c.world c.loaded c.settings (c.resolver.map (·.ask)) c.read.ask

def region : Region := valueOf (c.world.cloudAnswer c.settings.cloud)

def profile : Profile := valueOf (Profile.ofRegion c.region)

def lookup : Collaborator WideText (Option String) :=
  c.resolver.getD (Lookup.collaborator c.world.client)

/-- The clouds are loaded unless the caller has done so, the CA file is read if the profile names
one, and the network is looked up if the settings name one. -/
def isTaken : Step → Bool
  | .loader => !c.loaded
  | .caFile => c.profile.caCertFile ≠ ""
  | .network => !c.settings.externalNetwork.isEmpty
  | _ => true

def steps : List Step := Step.inOrder.filter c.isTaken

def demands : Step → List Demand
  | .loader => [.call (.loader none)]
  | .cloud => [.call (.cloud c.settings.cloud)]
  | .profile => []
  | .connection => [.call (.connection c.region.name)]
  | .service => [.service]
  | .caFile => c.read.demands c.profile.caCertFile
  | .network => c.lookup.demands c.settings.externalNetwork

def failure : Step → Option Failure
  | .loader => c.world.loaderFailure
  | .cloud => failureOf (c.world.cloudAnswer c.settings.cloud)
  | .profile => failureOf (Profile.ofRegion c.region)
  | .connection => c.world.connectionFailure
  | .service => c.world.networkFailure
  | .caFile => failureOf (c.read.answer c.profile.caCertFile)
  | .network => failureOf (c.lookup.answer c.settings.externalNetwork)

def reported (s : Step) : Option Failure :=
  (c.failure s).map (report c.settings.externalNetwork s)

def bundle : Option ByteArray :=
  if c.profile.caCertFile = "" then none else some (valueOf (c.read.answer c.profile.caCertFile))

def floating : Option (Option String) :=
  if c.settings.externalNetwork.isEmpty then none
  else some (valueOf (c.lookup.answer c.settings.externalNetwork))

def artifact : Artifact :=
  ⟨Provider.render c.profile.regionName c.bundle.isSome c.floating, c.bundle⟩

theorem report_session (network : WideText) {s : Step} (hs : s = .loader ∨ s = .cloud)
    (f : Failure) :
    report network s f =
      if f.isRemote then .because (.stage .session) "failed to get cloud config for openstack" f
      else f := by
  rw [report, Failure.isRemote]
  rcases hs with rfl | rfl
  · cases f.kind <;> rfl
  · cases f.kind <;> rfl

theorem report_client (network : WideText) {s : Step} (hs : s = .connection ∨ s = .service)
    (f : Failure) :
    report network s f =
      if f.isRemote then .because (.stage .client) "failed to create a network client" f
      else f := by
  rw [report, Failure.isRemote]
  rcases hs with rfl | rfl
  · cases f.kind <;> rfl
  · cases f.kind <;> rfl

theorem report_caFile (network : WideText) (f : Failure) :
    report network .caFile f =
      if f.isSystem then
        .because (.stage .caBundle) "failed to read clouds.yaml ca-cert from disk" f
      else f := by
  rw [report, Failure.isSystem]
  cases f.kind with
  | cloud fault => cases fault <;> rfl
  | _ => rfl

theorem report_network (network : WideText) (f : Failure) :
    report network .network f =
      if !f.isSignal then
        .because (.stage .lookup) s!"failed to fetch external network {network}" f
      else f := by
  rw [report, Failure.isSignal]
  cases f.kind <;> rfl

theorem reported_eq_map {s : Step} {g : Failure → Failure}
    (h : ∀ f, report c.settings.externalNetwork s f = g f) :
    c.reported s = (c.failure s).map g :=
  congrArg (Option.map · (c.failure s)) (funext h)

theorem steps_eq :
    c.steps = ([Step.loader].filter c.isTaken ++ [.cloud]) ++ ([] ++ ([.profile] ++ [])) ++
      (([.connection] ++ [.service]) ++ ([Step.caFile].filter c.isTaken ++
        ([Step.network].filter c.isTaken ++ []))) := by
  have ho : Step.inOrder =
      [.loader] ++ [.cloud, .profile, .connection, .service] ++ [.caFile] ++ [.network] := rfl
  rw [steps, ho, List.filter_append, List.filter_append, List.filter_append]
  simp only [List.append_assoc, List.append_nil, List.nil_append]
  rfl

theorem findCloud_follows :
    Action.Follows c.demands c.failure (do
      unless c.loaded do c.world.loadClouds none
      c.world.cloud c.settings.cloud) ([Step.loader].filter c.isTaken ++ [.cloud]) c.region := by
  have hcloud : Action.Follows c.demands c.failure (c.world.cloud c.settings.cloud) [.cloud]
      c.region := by
    refine .single fun j => ?_
    rw [World.runOn_cloud]
    exact ⟨(resultOf_failureOf _).symm, rfl⟩
  cases hl : c.loaded with
  | true =>
    have hs : [Step.loader].filter c.isTaken = [] := by
      simp [isTaken, hl]
    rw [hs]
    exact hcloud
  | false =>
    have hs : [Step.loader].filter c.isTaken = [.loader] := by
      simp [isTaken, hl]
    have hloader : Action.Follows c.demands c.failure (c.world.loadClouds none) [.loader] () := by
      refine .single fun j => ?_
      rw [World.runOn_loadClouds]
      exact ⟨rfl, rfl⟩
    rw [hs]
    exact hloader.bind hcloud

theorem load_follows :
    Action.Follows c.demands c.reported (CloudAccess.load c.world c.loaded c.settings.cloud)
      (([Step.loader].filter c.isTaken ++ [.cloud]) ++ ([] ++ ([.profile] ++ [])))
      ⟨c.region, c.profile⟩ := by
  have hreport : ∀ s ∈ [Step.loader].filter c.isTaken ++ [.cloud],
      c.reported s = (c.failure s).map fun f => if f.isRemote then
        .because (.stage .session) "failed to get cloud config for openstack" f else f := by
    intro s hs
    have hstep : s = .loader ∨ s = .cloud := by
      rcases List.mem_append.1 hs with hs | hs
      · exact .inl (List.mem_singleton.1 (List.mem_filter.1 hs).1)
      · exact .inr (List.mem_singleton.1 hs)
    exact c.reported_eq_map (report_session _ hstep)
  have hprofile : Action.Follows c.demands c.reported
      (Action.ofExcept (Profile.ofRegion c.region)) [.profile] c.profile := by
    refine .single fun j => ?_
    have hf : c.reported .profile = failureOf (Profile.ofRegion c.region) := by
      rw [reported, failure]
      cases Profile.ofRegion c.region <;> rfl
    rw [Action.runOn_ofExcept, hf]
    exact ⟨(resultOf_failureOf _).symm, (List.append_nil _).symm⟩
  exact (c.findCloud_follows.within hreport).bind <| (Action.Follows.log _ _ _).bind <|
    hprofile.bind <| Action.Follows.pure _

theorem networkClient_follows :
    Action.Follows c.demands c.reported (CloudAccess.networkClient c.world c.region)
      ([.connection] ++ [.service]) c.world.client := by
  have hconnection : Action.Follows c.demands c.failure (c.world.connect c.region) [.connection]
      () := by
    refine .single fun j => ?_
    rw [World.runOn_connect]
    exact ⟨rfl, rfl⟩
  have hservice : Action.Follows c.demands c.failure c.world.networkClient [.service]
      c.world.client := by
    refine .single fun j => ?_
    rw [World.runOn_networkClient]
    exact ⟨rfl, rfl⟩
  refine (hconnection.bind hservice).within ?_
  intro s hs
  have hstep : s = .connection ∨ s = .service := by
    simpa only [List.cons_append, List.nil_append, List.mem_cons, List.not_mem_nil, or_false]
      using hs
  exact c.reported_eq_map (report_client _ hstep)

theorem readCaBundle_follows :
    Action.Follows c.demands c.reported (Provider.readCaBundle c.read.ask c.profile.caCertFile)
      ([Step.caFile].filter c.isTaken) c.bundle := by
  by_cases hp : c.profile.caCertFile = ""
  · have hs : [Step.caFile].filter c.isTaken = [] := by
      simp [isTaken, hp]
    rw [hs, bundle, Provider.readCaBundle, if_pos hp, if_pos hp]
    exact Action.Follows.pure none
  · have hs : [Step.caFile].filter c.isTaken = [.caFile] ++ ([] ++ []) := by
      simp [isTaken, hp]
    rw [hs, bundle, Provider.readCaBundle, if_neg hp, if_neg hp]
    have hread : Action.Follows c.demands c.failure (c.read.ask c.profile.caCertFile) [.caFile]
        (valueOf (c.read.answer c.profile.caCertFile)) := c.read.follows _ rfl rfl
    refine (hread.within ?_).bind <| (Action.Follows.log _ _ _).bind <| Action.Follows.pure _
    intro s hs
    obtain rfl := List.mem_singleton.1 hs
    exact c.reported_eq_map (report_caFile _)

theorem findFloating_follows :
    Action.Follows c.demands c.reported
      (Provider.findFloating c.lookup.ask c.settings.externalNetwork)
      ([Step.network].filter c.isTaken) c.floating := by
  by_cases hn : c.settings.externalNetwork.isEmpty
  · have hs : [Step.network].filter c.isTaken = [] := by
      simp [isTaken, hn]
    rw [hs, floating, Provider.findFloating, if_pos hn, if_pos hn]
    exact Action.Follows.pure none
  · have hs : [Step.network].filter c.isTaken = [.network] ++ ([] ++ []) := by
      simp [isTaken, hn]
    rw [hs, floating, Provider.findFloating, if_neg hn, if_neg hn]
    have hlookup : Action.Follows c.demands c.failure
        (c.lookup.ask c.settings.externalNetwork) [.network]
        (valueOf (c.lookup.answer c.settings.externalNetwork)) := c.lookup.follows _ rfl rfl
    refine (hlookup.within ?_).bind <| (Action.Follows.log _ _ _).bind <| Action.Follows.pure _
    intro s hs
    obtain rfl := List.mem_singleton.1 hs
    exact c.reported_eq_map (report_network _)

theorem generate_follows :
    Action.Follows c.demands c.reported
      (Provider.generate c.profile c.settings.externalNetwork c.lookup.ask c.read.ask)
      ([Step.caFile].filter c.isTaken ++ ([Step.network].filter c.isTaken ++ [])) c.artifact :=
  c.readCaBundle_follows.bind <| c.findFloating_follows.bind <| Action.Follows.pure _

theorem run_follows : Action.Follows c.demands c.reported c.run c.steps c.artifact := by
  have hlookup : c.lookup.ask =
      (c.resolver.map (·.ask)).getD (Lookup.resolve c.world.client) := by
    rw [lookup]
    cases c.resolver <;> rfl
  have hgenerate := c.generate_follows
  rw [hlookup] at hgenerate
  rw [steps_eq]
  exact c.load_follows.bind <| c.networkClient_follows.bind hgenerate

/-- An installation takes some of its steps, each at most once and in the fixed order. Either no
step fails and it yields its artifact, or it asks for nothing after the first that fails, and fails
as that step is reported to. -/
theorem run_stops_at_first_failure (j : Journal) :
    c.steps.Sublist Step.inOrder ∧ c.steps.Nodup ∧
    ((∀ s ∈ c.steps, c.failure s = none) ∧ (c.run.runOn j).1 = .ok c.artifact ∧
        (c.run.runOn j).2.demands = j.demands ++ c.steps.flatMap c.demands ∨
      ∃ before s after f, c.steps = before ++ s :: after ∧ (∀ t ∈ before, c.failure t = none) ∧
        c.failure s = some f ∧
        (c.run.runOn j).1 = .error (report c.settings.externalNetwork s f) ∧
        (c.run.runOn j).2.demands = j.demands ++ (before ++ [s]).flatMap c.demands) := by
  have hnodup : Step.inOrder.Nodup := by decide
  refine ⟨List.filter_sublist, hnodup.sublist List.filter_sublist, ?_⟩
  rcases c.run_follows.none_fails_or_first j with ⟨hf, hr, hd⟩ | ⟨before, s, after, e, hs, hb, hf,
    hr, hd⟩
  · exact .inl ⟨fun s hs => Option.map_eq_none_iff.1 (hf s hs), hr, hd⟩
  · obtain ⟨f, hraw, rfl⟩ := Option.map_eq_some_iff.1 hf
    exact .inr ⟨before, s, after, f, hs, fun t ht => Option.map_eq_none_iff.1 (hb t ht), hraw,
      hr, hd⟩

/-- A CA file that a failed request keeps from being read: the network is not looked up. -/
example :
    let c : Installation :=
      { world :=
          { clouds := [(.ofString "c", ⟨.mapping [("cacert", .text "/ca")], .text "R"⟩)]
            loaderFailure := none
            cloudFailure := none
            connectionFailure := none
            networkFailure := none
            client := default }
        loaded := true
        settings := ⟨.ofString "c", .ofString "net"⟩
        resolver := none
        read := .answering (fun path => [.call (.read path)]) fun _ =>
          .error (.alone (.cloud .http) "gone") }
    (c.run.runOn ⟨[], []⟩).1 = .error (.because (.stage .caBundle)
        "failed to read clouds.yaml ca-cert from disk" (.alone (.cloud .http) "gone")) ∧
      (c.run.runOn ⟨[], []⟩).2.demands = [.call (.cloud (.ofString "c")),
        .call (.connection (.text "R")), .service, .call (.read "/ca")] :=
  ⟨rfl, rfl⟩

end Installation

end CloudConf
