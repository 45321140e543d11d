import CloudConf.Proofs.InstallSteps
import CloudConf.Proofs.Publishing
import CloudConf.Proofs.SettingsReading

/-! # Actions only add to the journal -/
namespace CloudConf

instance : Append Journal := ⟨fun j i => ⟨j.demands ++ i.demands, j.log ++ i.log⟩⟩

namespace Journal

variable (j i : Journal)

@[simp] theorem append_demands : (j ++ i).demands = j.demands ++ i.demands := rfl

@[simp] theorem append_log : (j ++ i).log = j.log ++ i.log := rfl

@[simp] theorem append_nil : j ++ (⟨[], []⟩ : Journal) = j := by
  change (⟨_, _⟩ : Journal) = j
  simp

theorem append_assoc (k : Journal) : j ++ i ++ k = j ++ (i ++ k) := by
  change (⟨_, _⟩ : Journal) = ⟨_, _⟩
  simp

theorem asked (ds : List Demand) :
    { j with demands := j.demands ++ ds } = j ++ (⟨ds, []⟩ : Journal) := by
  change _ = (⟨_, _⟩ : Journal)
  simp

theorem logged (es : List LogEntry) : { j with log := j.log ++ es } = j ++ (⟨[], es⟩ : Journal) := by
  change _ = (⟨_, _⟩ : Journal)
  simp

end Journal

namespace Action

variable {α β : Type} {a : Action α} {k : α → Action β}

/-- What comes of an action, and what it adds to the journal, does not depend on what is there
already. -/
def Adds (a : Action α) : Prop := ∀ j, a.runOn j = (a.outcome.1, j ++ a.outcome.2)

theorem Adds.of_runOn {r : Except Failure α} {i : Journal} (h : ∀ j, a.runOn j = (r, j ++ i)) :
    Adds a := by
  intro j
  rw [outcome, h, h]
  rfl

theorem Adds.pure (v : α) : Adds (pure v) := .of_runOn fun j => by rw [runOn_pure, j.append_nil]

theorem Adds.throw (f : Failure) : Adds (throw f : Action α) :=
  .of_runOn fun j => by rw [runOn_throw, j.append_nil]

theorem Adds.ofExcept (r : Except Failure α) : Adds (ofExcept r) :=
  .of_runOn fun j => by rw [runOn_ofExcept, j.append_nil]

theorem Adds.log (level : Level) (speaker : Speaker) (message : String) :
    Adds (log level speaker message) :=
  .of_runOn fun j => by rw [runOn_log, j.logged]

theorem Adds.runOn_bind (ha : Adds a) (j : Journal) :
    (a >>= k).runOn j =
      match a.outcome with
      | (.ok v, i) => (k v).runOn (j ++ i)
      | (.error f, i) => (.error f, j ++ i) := by
  rw [Action.runOn_bind, ha j]
  obtain ⟨r, i⟩ := a.outcome
  cases r <;> rfl

theorem Adds.bind (ha : Adds a) (hk : ∀ v, Adds (k v)) : Adds (a >>= k) := by
  cases h : a.outcome with
  | mk r i =>
    cases r with
    | ok v =>
      refine .of_runOn (r := (k v).outcome.1) (i := i ++ (k v).outcome.2) fun j => ?_
      rw [ha.runOn_bind, h]
      dsimp only
      rw [hk v (j ++ i), Journal.append_assoc]
    | error f =>
      refine .of_runOn (r := .error f) (i := i) fun j => ?_
      rw [ha.runOn_bind, h]

theorem Adds.within (stage : Stage) (speaker : Speaker) (report text : String)
    (handles : Failure → Bool) (ha : Adds a) : Adds (within stage speaker report text handles a) := by
  cases h : a.outcome with
  | mk r i =>
    cases r with
    | ok v =>
      refine .of_runOn (r := .ok v) (i := i) fun j => ?_
      rw [runOn_within, ha j, h]
    | error f =>
      by_cases hf : handles f
      · refine .of_runOn (r := .error (.because (.stage stage) text f))
          (i := i ++ (⟨[], [⟨.error, speaker, report⟩]⟩ : Journal)) fun j => ?_
        rw [runOn_within, ha j, h]
        simp only [hf, if_true]
        rw [Journal.logged, Journal.append_assoc]
      · refine .of_runOn (r := .error f) (i := i) fun j => ?_
        rw [runOn_within, ha j, h]
        simp only [hf, if_false, Bool.false_eq_true]

end Action

open CloudConf.Action

namespace World

variable (w : World)

theorem adds_loadClouds (files : Option (List String)) : Adds (w.loadClouds files) :=
  .of_runOn fun j => by rw [runOn_loadClouds, j.asked]

theorem adds_cloud (name : WideText) : Adds (w.cloud name) :=
  .of_runOn fun j => by rw [runOn_cloud, j.asked]

theorem adds_connect (region : Region) : Adds (w.connect region) :=
  .of_runOn fun j => by rw [runOn_connect, j.asked]

theorem adds_networkClient : Adds w.networkClient :=
  .of_runOn fun j => by rw [runOn_networkClient, j.asked]

end World

theorem NetworkClient.adds_ids (client : NetworkClient) (name : WideText) :
    Adds (client.ids name) :=
  .of_runOn fun j => by rw [runOn_ids, j.asked]

theorem Lookup.adds_resolve (client : NetworkClient) (name : WideText) :
    Adds (resolve client name) := by
  refine (client.adds_ids name).bind fun ids => ?_
  split
  · exact .throw _
  · exact (Adds.log _ _ _).bind fun _ => .pure _
  · exact .throw _

namespace CloudAccess

variable (w : World)

theorem adds_load (loaded : Bool) (cloud : WideText) : Adds (load w loaded cloud) := by
  have hrest (region : Region) : Adds (do
      Action.log .debug .session s!"Loaded cloud {cloud}"
      let profile ← Action.ofExcept (Profile.ofRegion region)
      return (⟨region, profile⟩ : CloudAccess)) :=
    (Adds.log _ _ _).bind fun _ => (Adds.ofExcept _).bind fun _ => .pure _
  unfold load
  cases loaded with
  | true => exact (Adds.within _ _ _ _ _ (w.adds_cloud cloud)).bind hrest
  | false =>
    exact (Adds.within _ _ _ _ _ ((w.adds_loadClouds none).bind fun _ => w.adds_cloud cloud)).bind
      hrest

def noClouds (f : Failure) : Failure :=
  .because (.stage .session) "failed to get cloud config for openstack" f

theorem runOn_load_unloaded (cloud : WideText) (j : Journal) :
    ∃ e, (load w false cloud).runOn j =
      match w.loaderFailure with
      | none => (load w true cloud).runOn (j ++ (⟨[.call (.loader none)], []⟩ : Journal))
      | some f =>
        if f.isRemote then (.error (noClouds f), j ++ (⟨[.call (.loader none)], [e]⟩ : Journal))
        else (.error f, j ++ (⟨[.call (.loader none)], []⟩ : Journal)) := by
  refine ⟨⟨.error, .session, s!"Unable to load cloud {cloud} from clouds.yaml"⟩, ?_⟩
  unfold load
  rw [Action.runOn_bind, runOn_within]
  simp only [Bool.false_eq_true, if_false, if_true]
  rw [Action.runOn_bind, w.runOn_loadClouds, j.asked]
  cases w.loaderFailure with
  | none =>
    rw [Action.runOn_bind, runOn_within]
    rfl
  | some f =>
    simp only [resultOf]
    by_cases hr : f.isRemote
    · simp only [hr, if_true]
      rw [Journal.logged, Journal.append_assoc]
      rfl
    · simp only [hr, if_false, Bool.false_eq_true]

theorem adds_networkClient (region : Region) : Adds (networkClient w region) :=
  .within _ _ _ _ _ ((w.adds_connect region).bind fun _ => w.adds_networkClient)

end CloudAccess

namespace Provider

variable {resolve : Resolver} {read : FileReader}

theorem adds_readCaBundle (hread : ∀ path, Adds (read path)) (path : WideText) :
    Adds (readCaBundle read path) := by
  unfold readCaBundle
  split
  · exact .pure _
  · exact (Adds.within _ _ _ _ _ (hread path)).bind fun _ => (Adds.log _ _ _).bind fun _ => .pure _

theorem adds_findFloating (hresolve : ∀ name, Adds (resolve name)) (network : WideText) :
    Adds (findFloating resolve network) := by
  unfold findFloating
  split
  · exact .pure _
  · exact (Adds.within _ _ _ _ _ (hresolve network)).bind fun _ =>
      (Adds.log _ _ _).bind fun _ => .pure _

theorem adds_generate (hresolve : ∀ name, Adds (resolve name)) (hread : ∀ path, Adds (read path))
    (profile : Profile) (network : WideText) : Adds (generate profile network resolve read) :=
  (adds_readCaBundle hread _).bind fun _ => (adds_findFloating hresolve network).bind fun _ =>
    .pure _

end Provider

theorem InstallConfig.adds_load (reader : ConfigReader) (s : Yaml.Stream) :
    Adds (load reader s) :=
  (Adds.ofExcept _).bind fun _ => (Adds.ofExcept _).bind fun _ => (Adds.log _ _ _).bind
    fun _ => .pure _

namespace Command

theorem adds_publish (d : Disk) (dir : Path) (p : Product) (limits : Disk.Limits) :
    Adds (publish d dir p limits) :=
  .of_runOn fun j => by rw [runOn_publish, j.logged]

end Command

end CloudConf
