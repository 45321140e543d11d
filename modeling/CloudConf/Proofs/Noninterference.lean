import CloudConf.Disk.Listing
import CloudConf.Proofs.AlikeTrees
import CloudConf.Proofs.CommandRuns
import CloudConf.Proofs.InstallSteps
import CloudConf.Proofs.ProfileSettings

/-! # Credentials reach nothing but the secret -/
namespace CloudConf

namespace Action

variable {α β α' β' : Type} {R : α → β → Prop} {S : α' → β' → Prop}

/-- Two results: the same failure, or values that are related. -/
inductive ResultsAgree (R : α → β → Prop) : Except Failure α → Except Failure β → Prop
  | ok {v : α} {w : β} (h : R v w) : ResultsAgree R (.ok v) (.ok w)
  | error (f : Failure) : ResultsAgree R (.error f) (.error f)

theorem ResultsAgree.cases {x : Except Failure α} {y : Except Failure β}
    (h : ResultsAgree R x y) :
    (∃ v w, x = .ok v ∧ y = .ok w ∧ R v w) ∨ ∃ f, x = .error f ∧ y = .error f := by
  cases h with
  | ok h => exact .inl ⟨_, _, rfl, rfl, h⟩
  | error f => exact .inr ⟨f, rfl, rfl⟩

/-- Two actions that ask for the same, log the same, and fail alike or yield related values. -/
def Agree (R : α → β → Prop) (a : Action α) (b : Action β) : Prop :=
  ∀ j, ResultsAgree R (a.runOn j).1 (b.runOn j).1 ∧ (b.runOn j).2 = (a.runOn j).2

theorem Agree.cases {a : Action α} {b : Action β} (h : Agree R a b) (j : Journal) :
    (∃ v w i, a.runOn j = (.ok v, i) ∧ b.runOn j = (.ok w, i) ∧ R v w) ∨
      ∃ f i, a.runOn j = (.error f, i) ∧ b.runOn j = (.error f, i) := by
  obtain ⟨hr, hj⟩ := h j
  cases ha : a.runOn j with
  | mk r i =>
    cases hb : b.runOn j with
    | mk r' i' =>
      rw [ha, hb] at hr hj
      obtain rfl : i' = i := hj
      rcases hr.cases with ⟨v, w, rfl, rfl, hvw⟩ | ⟨f, rfl, rfl⟩
      · exact .inl ⟨v, w, _, rfl, rfl, hvw⟩
      · exact .inr ⟨f, _, rfl, rfl⟩

theorem Agree.of_eq {R : α → α → Prop} (hR : ∀ v, R v v) (a : Action α) : Agree R a a := by
  intro j
  refine ⟨?_, rfl⟩
  cases (a.runOn j).1 with
  | ok v => exact .ok (hR v)
  | error f => exact .error f

theorem Agree.pure {v : α} {w : β} (h : R v w) : Agree R (pure v) (pure w) :=
  fun _ => ⟨.ok h, rfl⟩

theorem Agree.ofExcept {r : Except Failure α} {r' : Except Failure β} (h : ResultsAgree R r r') :
    Agree R (ofExcept r) (ofExcept r') := by
  intro j
  rw [runOn_ofExcept, runOn_ofExcept]
  exact ⟨h, rfl⟩

theorem Agree.bind {a : Action α} {b : Action β} {k : α → Action α'} {l : β → Action β'}
    (hab : Agree R a b) (hkl : ∀ v w, R v w → Agree S (k v) (l w)) :
    Agree S (a >>= k) (b >>= l) := by
  intro j
  rw [runOn_bind, runOn_bind]
  rcases hab.cases j with ⟨v, w, i, ha, hb, hvw⟩ | ⟨f, i, ha, hb⟩
  · rw [ha, hb]
    exact hkl v w hvw i
  · rw [ha, hb]
    exact ⟨.error f, rfl⟩

theorem Agree.within {stage : Stage} {speaker : Speaker} {report text : String}
    {handles : Failure → Bool} {a : Action α} {b : Action β} (hab : Agree R a b) :
    Agree R (within stage speaker report text handles a)
      (within stage speaker report text handles b) := by
  intro j
  rw [runOn_within, runOn_within]
  rcases hab.cases j with ⟨v, w, i, ha, hb, hvw⟩ | ⟨f, i, ha, hb⟩
  · rw [ha, hb]
    exact ⟨.ok hvw, rfl⟩
  · rw [ha, hb]
    simp only
    split
    · exact ⟨.error _, rfl⟩
    · exact ⟨.error f, rfl⟩

end Action

/-- The settings of a secret that are credentials. The region is none. -/
def Profile.credentials (p : Profile) : List String :=
  [p.authUrl, p.username, p.password, p.projectId, p.projectName, p.resolvedDomainId,
    p.resolvedDomainName]

/-- Two profiles for the same region and CA file, with the same credentials present. -/
structure Profile.Alike (p p' : Profile) : Prop where
  regionName : p'.regionName = p.regionName
  caCertFile : p'.caCertFile = p.caCertFile
  present : List.Forall₂ (fun v v' => v' = "" ↔ v = "") p.credentials p'.credentials

/-- Two configurations of a cloud that differ in nothing but the values of credentials. Both have
profiles, with the same ones present, or neither has one for the same reason. -/
structure Region.Alike (r r' : Region) : Prop where
  name : r'.name = r.name
  config : ∃ config config' auth auth', r.config = .mapping config ∧ r'.config = .mapping config' ∧
    Datum.find? "auth" config = some (.mapping auth) ∧
    Datum.find? "auth" config' = some (.mapping auth') ∧
    (∀ key, key ≠ "auth" → Datum.find? key config' = Datum.find? key config) ∧
    ∀ key, key ∉ credentialKeys → Datum.find? key auth' = Datum.find? key auth
  present : Action.ResultsAgree (fun p p' => List.Forall₂ (fun v v' => v' = "" ↔ v = "")
    p.credentials p'.credentials) (Profile.ofRegion r) (Profile.ofRegion r')

/-- Two worlds that differ in nothing but the credentials of some clouds. -/
structure World.Alike (w w' : World) : Prop where
  rest : w' = { w with clouds := w'.clouds }
  clouds : List.Forall₂ (fun c c' => c'.1 = c.1 ∧ (c'.2 = c.2 ∨ c.2.Alike c'.2)) w.clouds w'.clouds

open CloudConf.Action

theorem Profile.Alike.refl (p : Profile) : p.Alike p :=
  ⟨rfl, rfl, List.forall₂_same.2 fun _ _ => .rfl⟩

theorem Profile.ofRegion_agree {r r' : Region} (h : r.Alike r') :
    ResultsAgree Profile.Alike (ofRegion r) (ofRegion r') := by
  obtain ⟨config, config', -, -, hc, hc', -, -, hconfig, -⟩ := h.config
  rcases h.present.cases with ⟨p, p', hp, hp', hpresent⟩ | ⟨f, hf, hf'⟩
  · rw [hp, hp']
    obtain ⟨-, -, rfl⟩ := ofRegion_eq_ok_iff.1 hp
    obtain ⟨-, -, rfl⟩ := ofRegion_eq_ok_iff.1 hp'
    have hcacert : Datum.find? "cacert" r'.entries = Datum.find? "cacert" r.entries := by
      simp only [Region.entries, hc, hc']
      exact hconfig "cacert" (by decide)
    refine .ok ⟨?_, ?_, hpresent⟩
    · simp only [Region.profile, told, h.name]
    · simp only [Region.profile, told, hcacert]
  · rw [hf, hf']
    exact .error f

namespace World

variable {w w' : World}

theorem Alike.findCloud (name : WideText) {cs cs' : List (WideText × Region)}
    (h : List.Forall₂ (fun c c' => c'.1 = c.1 ∧ (c'.2 = c.2 ∨ c.2.Alike c'.2)) cs cs') :
    (findCloud name cs = none ∧ findCloud name cs' = none) ∨
      ∃ r r', findCloud name cs = some r ∧ findCloud name cs' = some r' ∧
        (r' = r ∨ r.Alike r') := by
  induction h with
  | nil => exact .inl ⟨rfl, rfl⟩
  | @cons c c' cs cs' hhead htail ih =>
    obtain ⟨hname, hr⟩ := hhead
    by_cases hn : c.1 = name
    · exact .inr ⟨c.2, c'.2, if_pos hn, if_pos (hname.trans hn), hr⟩
    · have hn' : c'.1 ≠ name := fun he => hn (hname.symm.trans he)
      rw [World.findCloud, World.findCloud, if_neg hn, if_neg hn']
      exact ih

theorem Alike.cloud (h : w.Alike w') (name : WideText) :
    Agree (fun r r' => r' = r ∨ r.Alike r') (w.cloud name) (w'.cloud name) := by
  intro j
  rw [runOn_cloud, runOn_cloud]
  refine ⟨?_, rfl⟩
  have hfails : w'.cloudFailure = w.cloudFailure := by rw [h.rest]
  rw [cloudAnswer, cloudAnswer, hfails]
  cases w.cloudFailure with
  | some f => exact .error f
  | none =>
    rcases Alike.findCloud name h.clouds with ⟨hn, hn'⟩ | ⟨r, r', hr, hr', halike⟩
    · rw [hn, hn']
      exact .error _
    · rw [hr, hr']
      exact .ok halike

theorem Alike.loadClouds (h : w.Alike w') (files : Option (List String)) :
    w'.loadClouds files = w.loadClouds files := by
  rw [h.rest]
  rfl

theorem Alike.connect (h : w.Alike w') {r r' : Region} (hname : r'.name = r.name) :
    w'.connect r' = w.connect r := by
  rw [h.rest, World.connect, World.connect, hname]

theorem Alike.networkClient (h : w.Alike w') : w'.networkClient = w.networkClient := by
  rw [h.rest]
  rfl

end World

structure CloudAccess.Alike (a a' : CloudAccess) : Prop where
  name : a'.region.name = a.region.name
  profile : a.profile.Alike a'.profile

variable {w w' : World} {d : Disk} {args : List String} {input : ByteArray}

theorem CloudAccess.load_agree (h : w.Alike w') (loaded : Bool) (cloud : WideText) :
    Agree CloudAccess.Alike (load w loaded cloud) (load w' loaded cloud) := by
  have hfound : Agree (fun r r' => r' = r ∨ r.Alike r')
      (do
        unless loaded do w.loadClouds none
        w.cloud cloud)
      (do
        unless loaded do w'.loadClouds none
        w'.cloud cloud) := by
    have hcloud := h.cloud cloud
    cases loaded with
    | true => exact hcloud
    | false =>
      have hloader : Agree (fun _ _ => True) (w.loadClouds none) (w'.loadClouds none) := by
        rw [h.loadClouds]
        exact .of_eq (fun _ => trivial) _
      exact hloader.bind fun _ _ _ => hcloud
  refine hfound.within.bind fun r r' hr => ?_
  have hlogged : Agree (fun _ _ : Unit => True) (log .debug .session s!"Loaded cloud {cloud}")
      (log .debug .session s!"Loaded cloud {cloud}") := .of_eq (fun _ => trivial) _
  refine hlogged.bind fun _ _ _ => ?_
  have hprofile : ResultsAgree Profile.Alike (Profile.ofRegion r) (Profile.ofRegion r') := by
    rcases hr with rfl | hr
    · cases Profile.ofRegion r' with
      | ok p => exact .ok (.refl p)
      | error f => exact .error f
    · exact Profile.ofRegion_agree hr
  have hname : r'.name = r.name := by
    rcases hr with rfl | hr
    · rfl
    · exact hr.name
  exact (Agree.ofExcept hprofile).bind fun p p' hp => .pure ⟨hname, hp⟩

theorem CloudAccess.networkClient_agree (h : w.Alike w') {r r' : Region}
    (hname : r'.name = r.name) : networkClient w' r' = networkClient w r := by
  unfold networkClient
  rw [h.connect hname, h.networkClient]

namespace Command

/-- Two products that differ in nothing but credentials, of which the same ones are present. -/
structure Product.Alike (p p' : Product) : Prop where
  settings : p'.settings = p.settings
  artifact : p'.artifact = p.artifact
  profile : p.profile.Alike p'.profile

theorem produce_agree (h : w.Alike w') (d : Disk) (r : Request) :
    Agree Product.Alike (produce w d r) (produce w' d r) := by
  have hreader : w'.reader = w.reader := by rw [h.rest]
  unfold produce
  rw [hreader]
  refine (Agree.of_eq (R := Eq) (fun _ => rfl) _).bind fun settings _ he => ?_
  subst he
  have hclouds : loadClouds w' r.cloudsFile = loadClouds w r.cloudsFile := by
    unfold loadClouds
    simp only [h.loadClouds]
  rw [hclouds]
  refine (Agree.of_eq (R := fun _ _ : Unit => True) (fun _ => trivial) _).bind fun _ _ _ => ?_
  refine (CloudAccess.load_agree h r.cloudsFile.isSome settings.cloud).bind fun a a' ha => ?_
  rw [CloudAccess.networkClient_agree h ha.name]
  refine (Agree.of_eq (R := Eq) (fun _ => rfl) _).bind fun client _ he => ?_
  subst he
  have hartifact : Provider.generate a'.profile settings.externalNetwork (Lookup.resolve client)
        (fun path => Action.ofExcept (d.readNormal path)) =
      Provider.generate a.profile settings.externalNetwork (Lookup.resolve client)
        (fun path => Action.ofExcept (d.readNormal path)) := by
    unfold Provider.generate
    rw [ha.profile.regionName, ha.profile.caCertFile]
  rw [hartifact]
  refine (Agree.of_eq (R := Eq) (fun _ => rfl) _).bind fun artifact _ he => ?_
  subst he
  exact .pure ⟨rfl, rfl, ha.profile⟩

variable {p p' : Product} {dir : Path}

theorem map_filter_eq_of_forall₂ {fs fs' : List (String × String)}
    (h : List.Forall₂ (fun f f' => f'.1 = f.1 ∧ (f'.2 = "" ↔ f.2 = "")) fs fs') :
    (fs'.filter (·.2 ≠ "")).map (·.1) = (fs.filter (·.2 ≠ "")).map (·.1) := by
  induction h with
  | nil => rfl
  | @cons f f' fs fs' hhead htail ih =>
    obtain ⟨hkey, hempty⟩ := hhead
    by_cases he : f.2 = ""
    · have he' : f'.2 = "" := hempty.2 he
      simp only [List.filter_cons, he, he', ne_eq, not_true_eq_false, decide_false]
      exact ih
    · have he' : f'.2 ≠ "" := fun h => he (hempty.1 h)
      simp only [List.filter_cons, he, he', ne_eq, not_false_eq_true, decide_true, if_true,
        List.map_cons, hkey]
      exact congrArg (f.1 :: ·) ih

theorem keys_of_alike {q q' : Profile} (h : q.Alike q') :
    (Credentials.fields q').map (·.1) = (Credentials.fields q).map (·.1) := by
  apply map_filter_eq_of_forall₂
  have hpresent := h.present
  have hregion : q'.regionName = "" ↔ q.regionName = "" := by rw [h.regionName]
  simp only [Profile.credentials, List.forall₂_cons, List.Forall₂.nil, and_true] at hpresent
  simp only [Credentials.allFields, List.forall₂_cons, true_and, List.Forall₂.nil, and_true]
  obtain ⟨h₁, h₂, h₃, h₄, h₅, h₆, h₇⟩ := hpresent
  exact ⟨h₁, h₂, h₃, h₄, h₅, h₆, h₇, hregion⟩

theorem keysEntry_of_alike {q q' : Profile} (h : q.Alike q') : keysEntry q' = keysEntry q := by
  rw [keysEntry, keysEntry, keys_of_alike h]

theorem contents_alike (dir : Path) (secret secret' : String) (artifact : Artifact) :
    List.Forall₂ (Disk.Step.Alike (dir.child secretFile).render) (contents dir secret artifact)
      (contents dir secret' artifact) := by
  refine .cons (.same _) (.cons (.fills _ _ _ rfl) ?_)
  exact List.forall₂_same.2 fun s _ => .same s

theorem publication_alike (dir : Path) (h : p.Alike p') :
    List.Forall₂ (Disk.Step.Alike (dir.child secretFile).render) (publication dir p)
      (publication dir p') := by
  rw [publication_eq_append, publication_eq_append, h.artifact]
  have hsame : List.Forall₂ (Disk.Step.Alike (dir.child secretFile).render) (preparation dir)
      (preparation dir) := List.forall₂_same.2 fun s _ => .same s
  exact List.rel_append hsame (contents_alike dir _ _ _)

theorem publicationLog_of_alike (d : Disk) (dir : Path) (h : p.Alike p') :
    publicationLog d dir p' Disk.unlimited = publicationLog d dir p Disk.unlimited := by
  unfold publicationLog
  cases d.perform (preparation dir) with
  | mk between failed =>
    cases failed with
    | some f => rfl
    | none =>
      have hends := (Disk.AlikeBut.refl (fun _ => True) between).perform
        (contents_alike dir (Credentials.render p.profile) (Credentials.render p'.profile)
          p.artifact) fun _ _ => trivial
      simp only [keysEntry_of_alike h.profile, h.settings, h.artifact]
      cases hc : between.perform (contents dir (Credentials.render p.profile) p.artifact) with
      | mk after failed =>
        cases hc' : between.perform (contents dir (Credentials.render p'.profile) p.artifact) with
        | mk after' failed' =>
          rw [hc, hc'] at hends
          obtain rfl : failed' = failed := hends.failed
          cases failed' <;> rfl

/-- On worlds that differ in nothing but credentials, of which the same ones are present, a command
line ends alike, with the same calls, messages and failure, and leaves the same tree but for the
content of the secret in its directory. -/
theorem run_of_alike_worlds (h : w.Alike w') (args : List String) (input : ByteArray) (d : Disk) :
    let report := run args input w d
    let report' := run args input w' d
    report'.ending = report.ending ∧ report'.journal = report.journal ∧
      report'.level = report.level ∧ report'.errorText = report.errorText ∧
      Disk.AlikeBut (fun place => place.getLast? = some secretFile ∧
        ∃ r, request? args input d = some r ∧
          report.disk.locate (r.outputDir.child secretFile).render = .ok place)
        report.disk report'.disk := by
  intro report report'
  suffices hrun : report'.ending = report.ending ∧ report'.journal = report.journal ∧
      report'.level = report.level ∧ Disk.AlikeBut _ report.disk report'.disk by
    obtain ⟨hending, hjournal, hlevel, hdisk⟩ := hrun
    have htext : report'.errorText = report.errorText := by
      rw [Report.errorText, Report.errorText, hending, hjournal, hlevel]
    exact ⟨hending, hjournal, hlevel, htext, hdisk⟩
  cases hr : request? args input d with
  | none =>
    obtain ⟨ending, -, hends⟩ := run_of_no_request hr
    have hreport : report = ⟨ending, ⟨[], []⟩, .info, d⟩ := hends w Disk.unlimited
    have hreport' : report' = ⟨ending, ⟨[], []⟩, .info, d⟩ := hends w' Disk.unlimited
    rw [hreport, hreport']
    exact ⟨rfl, rfl, rfl, .refl _ d⟩
  | some r =>
    have hreport : report = fulfil w d r := run_of_request hr w Disk.unlimited
    have hreport' : report' = fulfil w' d r := run_of_request hr w' Disk.unlimited
    -- The products differ in their credentials, so only the step that writes the secret does.
    rcases (produce_agree h d r).cases ⟨[], []⟩ with ⟨p, p', j, hp, hp', halike⟩ | ⟨f, j, hf, hf'⟩
    · rw [fulfil_of_ok hp] at hreport
      rw [fulfil_of_ok hp', publicationLog_of_alike d r.outputDir halike] at hreport'
      rw [hreport, hreport']
      let differs (place : Place) : Prop := place.getLast? = some secretFile ∧
        ∃ q, some r = some q ∧ (d.perform (publication r.outputDir p)).1.locate
          (q.outputDir.child secretFile).render = .ok place
      have hends := (Disk.AlikeBut.refl differs d).perform (publication_alike r.outputDir halike)
        fun place hl => ⟨Disk.getLast?_of_locate_child isName_secretFile hl, r, rfl, hl⟩
      exact ⟨congrArg Ending.ofOutcome hends.failed, rfl, rfl, hends.trees⟩
    · rw [fulfil_of_error hf] at hreport
      rw [fulfil_of_error hf'] at hreport'
      rw [hreport, hreport']
      exact ⟨rfl, rfl, rfl, .refl _ d⟩

/-- Nothing but the secret tells one password from another, whatever is logged. -/
theorem run_of_alike_worlds_passwords :
    let world (password : String) : World :=
      { clouds := [(.ofString "c",
          ⟨.mapping [("auth", .mapping [("password", .text password)])], .text "R"⟩)]
        loaderFailure := none
        cloudFailure := none
        connectionFailure := none
        networkFailure := none
        client := default }
    let report (password : String) : Report :=
      run ["--install-config", "-", "--output-dir", "out", "--log-level", "DEBUG"]
        "platform: \x7bopenstack: \x7bcloud: c\x7d\x7d".toUTF8 (world password) .fresh
    World.Alike (world "one") (world "two") ∧
      (report "two").ending = (report "one").ending ∧
      (report "two").errorText = (report "one").errorText ∧
      (report "two").disk.node? ["work", "out", "cloud.conf"] =
        (report "one").disk.node? ["work", "out", "cloud.conf"] ∧
      (report "two").disk.node? ["work", "out", "clouds.conf"] ≠
        (report "one").disk.node? ["work", "out", "clouds.conf"] := by
  intro world report
  have hregion : Region.Alike
      ⟨.mapping [("auth", .mapping [("password", .text "one")])], .text "R"⟩
      ⟨.mapping [("auth", .mapping [("password", .text "two")])], .text "R"⟩ := by
    refine ⟨rfl, ⟨_, _, _, _, rfl, rfl, rfl, rfl, fun key hk => ?_, fun key hk => ?_⟩, ?_⟩
    · simp [Datum.find?, Ne.symm hk]
    · have hpassword : "password" ≠ key := fun he => hk (he ▸ by decide)
      simp [Datum.find?, hpassword]
    · exact .ok (by decide)
  have hworld : World.Alike (world "one") (world "two") :=
    ⟨rfl, .cons ⟨rfl, .inr hregion⟩ .nil⟩
  obtain ⟨hending, -, -, htext, hdisk⟩ := run_of_alike_worlds hworld
    ["--install-config", "-", "--output-dir", "out", "--log-level", "DEBUG"]
    "platform: \x7bopenstack: \x7bcloud: c\x7d\x7d".toUTF8 .fresh
  refine ⟨hworld, hending, htext, ?_, by decide +kernel⟩
  apply (hdisk.nodes _).eq
  rintro ⟨hname, -⟩
  exact absurd hname (by decide)

end Command
end CloudConf
