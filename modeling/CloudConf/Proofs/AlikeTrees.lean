import CloudConf.Proofs.TreeChanges
import Mathlib.Data.List.Forall2

/-! # Trees that agree but for the content of some files -/
namespace CloudConf.Disk

/-- What is at one place of two trees: the same, or files that differ at most in their content. -/
inductive NodesAlike (differs : Prop) : Option Node → Option Node → Prop
  | same (n : Option Node) : NodesAlike differs n n
  | files (content content' : ByteArray) (mode : Nat) (h : differs) :
      NodesAlike differs (some (.file content mode)) (some (.file content' mode))

/-- Two trees that agree but for the content of the files at some places. -/
structure AlikeBut (differs : Place → Prop) (d d' : Disk) : Prop where
  workPlace : d'.workPlace = d.workPlace
  nodes : ∀ place, NodesAlike (differs place) (d.node? place) (d'.node? place)

/-- An operation on two trees: it fails alike, or leads to trees that agree again. -/
inductive ResultsAlike (differs : Place → Prop) :
    Except DiskFault Disk → Except DiskFault Disk → Prop
  | ok {d d' : Disk} (h : AlikeBut differs d d') : ResultsAlike differs (.ok d) (.ok d')
  | error (e : DiskFault) : ResultsAlike differs (.error e) (.error e)

/-- Steps on two trees that fail alike if they do, and lead to trees that agree again. -/
structure EndsAlike (differs : Place → Prop) (o o' : Disk × Option Failure) : Prop where
  failed : o'.2 = o.2
  trees : AlikeBut differs o.1 o'.1

variable {differs : Place → Prop} {d d' : Disk} {place : Place} {path : String}

theorem NodesAlike.cases {b : Prop} {n n' : Option Node} (h : NodesAlike b n n') :
    (n = none ∧ n' = none) ∨ (n = some .directory ∧ n' = some .directory) ∨
      ∃ content content' mode, n = some (.file content mode) ∧ n' = some (.file content' mode) ∧
        (b ∨ content' = content) := by
  cases h with
  | files content content' mode hb => exact .inr (.inr ⟨content, content', mode, rfl, rfl, .inl hb⟩)
  | same n =>
    cases n with
    | none => exact .inl ⟨rfl, rfl⟩
    | some n =>
      cases n with
      | directory => exact .inr (.inl ⟨rfl, rfl⟩)
      | file content mode => exact .inr (.inr ⟨content, content, mode, rfl, rfl, .inr rfl⟩)

theorem NodesAlike.file {b : Prop} {content content' : ByteArray} {mode : Nat}
    (h : b ∨ content' = content) :
    NodesAlike b (some (.file content mode)) (some (.file content' mode)) := by
  rcases h with hb | rfl
  · exact .files _ _ _ hb
  · exact .same _

theorem NodesAlike.eq {b : Prop} {n n' : Option Node} (h : NodesAlike b n n') (hb : ¬ b) :
    n' = n := by
  cases h with
  | same n => rfl
  | files content content' mode h => exact absurd h hb

theorem ResultsAlike.cases {r r' : Except DiskFault Disk} (h : ResultsAlike differs r r') :
    (∃ d d', r = .ok d ∧ r' = .ok d' ∧ AlikeBut differs d d') ∨
      ∃ e, r = .error e ∧ r' = .error e := by
  cases h with
  | ok h => exact .inl ⟨_, _, rfl, rfl, h⟩
  | error e => exact .inr ⟨e, rfl, rfl⟩

namespace AlikeBut

theorem refl (differs : Place → Prop) (d : Disk) : AlikeBut differs d d :=
  ⟨rfl, fun _ => .same _⟩

theorem follow (h : AlikeBut differs d d') (place : Place) (names : List String) :
    d'.follow place names = d.follow place names := by
  induction names generalizing place with
  | nil => rfl
  | cons name rest ih =>
    rw [Disk.follow, Disk.follow]
    rcases (h.nodes place).cases with ⟨hn, hn'⟩ | ⟨hn, hn'⟩ | ⟨_, _, _, hn, hn', -⟩
    · rw [hn, hn']
    · rw [hn, hn']
      simp only [ih]
    · rw [hn, hn']

theorem locate (h : AlikeBut differs d d') (path : String) : d'.locate path = d.locate path := by
  unfold Disk.locate
  rw [h.workPlace, h.follow]

theorem isDirectory (h : AlikeBut differs d d') (path : String) :
    d'.isDirectory path = d.isDirectory path := by
  have hnode : ∀ place, d'.node? place = some .directory ↔ d.node? place = some .directory := by
    intro place
    rcases (h.nodes place).cases with ⟨hn, hn'⟩ | ⟨hn, hn'⟩ | ⟨_, _, _, hn, hn', -⟩
    · simp [hn, hn']
    · simp [hn, hn']
    · simp [hn, hn']
  rw [Bool.eq_iff_iff, isDirectory_eq_true_iff, isDirectory_eq_true_iff, h.locate]
  simp only [hnode]

theorem put (h : AlikeBut differs d d') {n n' : Node}
    (hn : NodesAlike (differs place) (some n) (some n')) :
    AlikeBut differs (d.put place n) (d'.put place n') := by
  refine ⟨h.workPlace, fun other => ?_⟩
  by_cases ho : other = place
  · subst ho
    by_cases htop : other = []
    · subst htop
      exact .same _
    · rw [node?_put_self htop, node?_put_self htop]
      exact hn
  · rw [node?_put_of_ne ho, node?_put_of_ne ho]
    exact h.nodes other

theorem locate_bind (h : AlikeBut differs d d') {k k' : Place → Except DiskFault Disk}
    (hk : ∀ place, d.locate path = .ok place → ResultsAlike differs (k place) (k' place)) :
    ResultsAlike differs (d.locate path >>= k) (d'.locate path >>= k') := by
  rw [h.locate]
  cases hl : d.locate path with
  | error e => exact .error e
  | ok place => exact hk place hl

theorem makeDirectory (h : AlikeBut differs d d') (path : String) :
    ResultsAlike differs (d.makeDirectory path) (d'.makeDirectory path) := by
  refine h.locate_bind fun place _ => ?_
  rcases (h.nodes place).cases with ⟨hn, hn'⟩ | ⟨hn, hn'⟩ | ⟨_, _, _, hn, hn', -⟩
  · rw [hn, hn']
    exact .ok (h.put (.same _))
  · rw [hn, hn']
    exact .error _
  · rw [hn, hn']
    exact .error _

theorem touch (h : AlikeBut differs d d') (path : String) (mode : Nat) :
    ResultsAlike differs (d.touch path mode) (d'.touch path mode) := by
  refine h.locate_bind fun place _ => ?_
  rcases (h.nodes place).cases with ⟨hn, hn'⟩ | ⟨hn, hn'⟩ | ⟨_, _, _, hn, hn', -⟩
  · rw [hn, hn']
    exact .ok (h.put (.same _))
  · rw [hn, hn']
    exact .ok h
  · rw [hn, hn']
    exact .ok h

theorem setMode (h : AlikeBut differs d d') (path : String) (mode : Nat) :
    ResultsAlike differs (d.setMode path mode) (d'.setMode path mode) := by
  refine h.locate_bind fun place _ => ?_
  rcases (h.nodes place).cases with ⟨hn, hn'⟩ | ⟨hn, hn'⟩ | ⟨_, _, _, hn, hn', hc⟩
  · rw [hn, hn']
    exact .error _
  · rw [hn, hn']
    exact .ok h
  · rw [hn, hn']
    exact .ok (h.put (.file hc))

theorem truncate (h : AlikeBut differs d d') (path : String) :
    ResultsAlike differs (d.truncate path) (d'.truncate path) := by
  refine h.locate_bind fun place _ => ?_
  rcases (h.nodes place).cases with ⟨hn, hn'⟩ | ⟨hn, hn'⟩ | ⟨_, _, _, hn, hn', -⟩
  · rw [hn, hn']
    exact .ok (h.put (.same _))
  · rw [hn, hn']
    exact .error _
  · rw [hn, hn']
    exact .ok (h.put (.same _))

theorem fill (h : AlikeBut differs d d') {content content' : ByteArray}
    (hw : ∀ place, d.locate path = .ok place → differs place ∨ content' = content) :
    ResultsAlike differs (d.fill path content) (d'.fill path content') := by
  refine h.locate_bind fun place hl => ?_
  rcases (h.nodes place).cases with ⟨hn, hn'⟩ | ⟨hn, hn'⟩ | ⟨_, _, _, hn, hn', -⟩
  · rw [hn, hn']
    exact .error _
  · rw [hn, hn']
    exact .error _
  · rw [hn, hn']
    exact .ok (h.put (.file (hw place hl)))

theorem makeDirectories (h : AlikeBut differs d d') (root : PathRoot) (names : List String) :
    EndsAlike differs (makeDirectories unlimited root names d)
      (makeDirectories unlimited root names d') := by
  induction names generalizing d d' with
  | nil =>
    let path := (Path.mk root [].reverse).render
    rw [Disk.makeDirectories.eq_def, Disk.makeDirectories.eq_def]
    simp only [unlimited, permit]
    rcases (h.makeDirectory path).cases with ⟨made, made', hm, hm', ha⟩ | ⟨e, he, he'⟩
    · rw [hm, hm']
      exact ⟨rfl, ha⟩
    · rw [he, he', h.isDirectory]
      cases e <;> exact ⟨rfl, h⟩
  | cons name above ih =>
    let path := (Path.mk root (name :: above).reverse).render
    rw [Disk.makeDirectories.eq_def, Disk.makeDirectories.eq_def]
    simp only [unlimited, permit]
    rcases (h.makeDirectory path).cases with ⟨made, made', hm, hm', ha⟩ | ⟨e, he, he'⟩
    · rw [hm, hm']
      exact ⟨rfl, ha⟩
    · rw [he, he', h.isDirectory]
      cases e with
      | notFound =>
        obtain ⟨hfailed, ha⟩ := ih h
        simp only
        cases hu : Disk.makeDirectories unlimited root above d with
        | mk between failed =>
          cases hu' : Disk.makeDirectories unlimited root above d' with
          | mk between' failed' =>
            rw [hu, hu'] at hfailed ha
            obtain rfl : failed' = failed := hfailed
            cases failed' with
            | some f => exact ⟨rfl, ha⟩
            | none =>
              rcases (ha.makeDirectory path).cases with ⟨made, made', hm, hm', hb⟩ | ⟨e, he, he'⟩
              · simp only [path] at hm hm'
                simp only [hm, hm']
                exact ⟨rfl, hb⟩
              · simp only [path] at he he'
                simp only [he, he', ha.isDirectory]
                exact ⟨rfl, ha⟩
      | _ => exact ⟨rfl, h⟩

theorem settle (h : AlikeBut differs d d') {r r' : Except DiskFault Disk}
    (hr : ResultsAlike differs r r') (p : Path) :
    EndsAlike differs (settle d p r) (settle d' p r') := by
  rcases hr.cases with ⟨after, after', rfl, rfl, ha⟩ | ⟨e, rfl, rfl⟩
  · exact ⟨rfl, ha⟩
  · exact ⟨rfl, h⟩

theorem apply (h : AlikeBut differs d d') (s : Step) :
    EndsAlike differs (s.apply d) (s.apply d') := by
  cases s with
  | makeDirectories p => exact h.makeDirectories p.root p.parts.reverse
  | touch p mode => exact h.settle (h.touch p.render mode) p
  | setMode p mode => exact h.settle (h.setMode p.render mode) p
  | truncate p => exact h.settle (h.truncate p.render) p
  | fill p content => exact h.settle (h.fill fun _ _ => .inr rfl) p

end AlikeBut

/-- Two steps that differ at most in what they fill the file at the end of a path with. -/
inductive Step.Alike (path : String) : Step → Step → Prop
  | same (s : Step) : Alike path s s
  | fills (p : Path) (content content' : ByteArray) (h : p.render = path) :
      Alike path (.fill p content) (.fill p content')

theorem AlikeBut.apply_alike {s s' : Step} (h : AlikeBut differs d d') (hs : Step.Alike path s s')
    (hp : ∀ place, d.locate path = .ok place → differs place) :
    EndsAlike differs (s.apply d) (s'.apply d') := by
  cases hs with
  | same s => exact h.apply s
  | fills p content content' hpath =>
    have hfill : ResultsAlike differs (d.fill p.render content) (d'.fill p.render content') :=
      h.fill fun place hl => .inl (hp place (hpath ▸ hl))
    exact h.settle hfill p

/-- Steps that differ at most in what they write to one file end alike, and leave trees that agree
but for the content of that file. -/
theorem AlikeBut.perform {steps steps' : List Step} (h : AlikeBut differs d d')
    (hs : List.Forall₂ (Step.Alike path) steps steps')
    (hp : ∀ place, (d.perform steps).1.locate path = .ok place → differs place) :
    EndsAlike differs (d.perform steps) (d'.perform steps') := by
  induction hs generalizing d d' with
  | nil => exact ⟨rfl, h⟩
  | @cons s s' rest rest' hhead htail ih =>
    -- What the path leads to now is what it leads to behind all steps, of which `hp` tells.
    have hext := perform_extends d (s :: rest) unlimited
    have hstep := h.apply_alike hhead fun place hl => hp place (hext.locate hl)
    cases ho : s.apply d with
    | mk after failed =>
      cases ho' : s'.apply d' with
      | mk after' failed' =>
        rw [ho, ho'] at hstep
        obtain ⟨hf, ha⟩ := hstep
        obtain rfl : failed' = failed := hf
        cases failed' with
        | some f =>
          rw [perform_cons_of_eq_some ho, perform_cons_of_eq_some ho']
          exact ⟨rfl, ha⟩
        | none =>
          rw [perform_cons_of_eq_none ho] at hp ⊢
          rw [perform_cons_of_eq_none ho']
          exact ih ha hp

end CloudConf.Disk
