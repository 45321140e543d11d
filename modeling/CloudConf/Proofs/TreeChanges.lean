import CloudConf.Proofs.ActionRuns
import CloudConf.Proofs.Places
import Mathlib.Data.List.Infix

/-! # What the steps on a tree change -/
namespace CloudConf

namespace Path

/-- A path and those above it, the outermost first. -/
def withAbove (p : Path) : List Path := p.parts.inits.map (Path.mk p.root)

theorem mk_reverse_cons (root : PathRoot) (name : String) (above : List String) :
    Path.mk root (name :: above).reverse = (Path.mk root above.reverse).child name := by
  rw [List.reverse_cons]
  rfl

theorem withAbove_child (p : Path) (name : String) :
    (p.child name).withAbove = p.withAbove ++ [p.child name] := by
  simp [withAbove, child, List.inits_append]

theorem self_mem_withAbove (p : Path) : p ∈ p.withAbove :=
  List.mem_map.2 ⟨p.parts, (List.mem_inits _ _).2 List.prefix_rfl, rfl⟩

end Path

namespace Disk

variable {d d' : Disk} {place other : Place} {path : String} {s : Step} {steps more : List Step}
  {limits : Limits}

theorem extends_put (n : Node) (h : d.node? place ≠ some .directory) :
    Extends d (d.put place n) := by
  refine ⟨rfl, fun other ho => ?_⟩
  by_cases he : other = place
  · exact absurd (he ▸ ho) h
  · rw [node?_put_of_ne he, ho]

theorem node?_put_of_node? (n : Node) (h : d.node? place ≠ some .directory) :
    (d.put place n).node? place = some n :=
  node?_put_self fun he => h (by simp [he, node?])

/-- A change of a tree at the end of a path, where there is no directory, if it is one at all. -/
def ChangesAt (path : String) (d d' : Disk) : Prop :=
  d' = d ∨ ∃ place n, d.locate path = .ok place ∧ d.node? place ≠ some .directory ∧
    d' = d.put place n

theorem ChangesAt.extends (h : ChangesAt path d d') : Extends d d' := by
  rcases h with rfl | ⟨place, n, -, hd, rfl⟩
  · exact .refl _
  · exact extends_put n hd

theorem ChangesAt.frame (h : ChangesAt path d d') (place : Place) :
    d'.node? place = d.node? place ∨ d'.locate path = .ok place := by
  rcases h with rfl | ⟨other, n, hl, hd, rfl⟩
  · exact .inl rfl
  · by_cases he : place = other
    · exact .inr (he ▸ (extends_put n hd).locate hl)
    · exact .inl (node?_put_of_ne he)

theorem makeDirectory_eq_ok (h : d.makeDirectory path = .ok d') :
    ∃ place, d.locate path = .ok place ∧ d.node? place = none ∧ d' = d.put place .directory := by
  obtain ⟨place, hl, h⟩ := except_bind_eq_ok_iff.1 h
  refine ⟨place, hl, ?_⟩
  split at h
  · cases h
  · cases h
    exact ⟨‹_›, rfl⟩

theorem touch_eq_ok {mode : Nat} (h : d.touch path mode = .ok d') :
    ∃ place, d.locate path = .ok place ∧
      (d.node? place = none ∧ d' = d.put place (.file .empty mode) ∨
        d.node? place ≠ none ∧ d' = d) := by
  obtain ⟨place, hl, h⟩ := except_bind_eq_ok_iff.1 h
  refine ⟨place, hl, ?_⟩
  split at h
  · rename_i hn
    cases h
    exact .inr ⟨by simp [hn], rfl⟩
  · cases h
    exact .inl ⟨‹_›, rfl⟩

theorem setMode_eq_ok {mode : Nat} (h : d.setMode path mode = .ok d') :
    ∃ place, d.locate path = .ok place ∧
      ((∃ content old, d.node? place = some (.file content old) ∧
          d' = d.put place (.file content mode)) ∨
        d.node? place = some .directory ∧ d' = d) := by
  obtain ⟨place, hl, h⟩ := except_bind_eq_ok_iff.1 h
  refine ⟨place, hl, ?_⟩
  split at h
  · cases h
    exact .inl ⟨_, _, ‹_›, rfl⟩
  · cases h
    exact .inr ⟨‹_›, rfl⟩
  · cases h

theorem truncate_eq_ok (h : d.truncate path = .ok d') :
    ∃ place, d.locate path = .ok place ∧
      ((∃ old mode, d.node? place = some (.file old mode) ∧
          d' = d.put place (.file .empty mode)) ∨
        d.node? place = none ∧ d' = d.put place (.file .empty defaultMode)) := by
  obtain ⟨place, hl, h⟩ := except_bind_eq_ok_iff.1 h
  refine ⟨place, hl, ?_⟩
  split at h
  · cases h
    exact .inl ⟨_, _, ‹_›, rfl⟩
  · cases h
  · cases h
    exact .inr ⟨‹_›, rfl⟩

theorem fill_eq_ok {content : ByteArray} (h : d.fill path content = .ok d') :
    ∃ place old mode, d.locate path = .ok place ∧ d.node? place = some (.file old mode) ∧
      d' = d.put place (.file content mode) := by
  obtain ⟨place, hl, h⟩ := except_bind_eq_ok_iff.1 h
  split at h
  · cases h
    exact ⟨place, _, _, hl, ‹_›, rfl⟩
  · cases h
  · cases h

/-- What is not refused is done as if nothing could be. -/
theorem permit_eq_ok {limit : Option Limit} {r : Except DiskFault Disk}
    (h : permit limit r = .ok d') : r = .ok d' := by
  cases limit with
  | none => exact h
  | some l =>
    cases r with
    | error e => cases h
    | ok after => cases h

theorem ChangesAt.settle {p : Path} {r : Except DiskFault Disk}
    (h : ∀ d', r = .ok d' → ChangesAt path d d') : ChangesAt path d (settle d p r).1 := by
  rcases settle_cases d p r with ⟨d', hr, hs⟩ | ⟨f, hs⟩
  · rw [hs]
    exact h d' hr
  · rw [hs]
    exact .inl rfl

theorem changesAt_touch (d : Disk) (p : Path) (mode : Nat) (limits : Limits) :
    ChangesAt p.render d ((Step.touch p mode).apply d limits).1 := by
  refine ChangesAt.settle fun d' h => ?_
  obtain ⟨place, hl, ⟨hn, rfl⟩ | ⟨-, rfl⟩⟩ := touch_eq_ok (permit_eq_ok h)
  · exact .inr ⟨place, _, hl, by simp [hn], rfl⟩
  · exact .inl rfl

theorem changesAt_setMode (d : Disk) (p : Path) (mode : Nat) (limits : Limits) :
    ChangesAt p.render d ((Step.setMode p mode).apply d limits).1 := by
  refine ChangesAt.settle fun d' h => ?_
  obtain ⟨place, hl, ⟨content, old, hn, rfl⟩ | ⟨-, rfl⟩⟩ := setMode_eq_ok (permit_eq_ok h)
  · exact .inr ⟨place, _, hl, by simp [hn], rfl⟩
  · exact .inl rfl

theorem changesAt_truncate (d : Disk) (p : Path) (limits : Limits) :
    ChangesAt p.render d ((Step.truncate p).apply d limits).1 := by
  refine ChangesAt.settle fun d' h => ?_
  obtain ⟨place, hl, ⟨old, mode, hn, rfl⟩ | ⟨hn, rfl⟩⟩ := truncate_eq_ok (permit_eq_ok h)
  · exact .inr ⟨place, _, hl, by simp [hn], rfl⟩
  · exact .inr ⟨place, _, hl, by simp [hn], rfl⟩

/-- A file is filled with all of a content, or the step fails behind a part of it. -/
theorem apply_fill_cases (d : Disk) (p : Path) (content : ByteArray) (limits : Limits) :
    (Step.fill p content).apply d limits = (Step.fill p content).apply d ∨
      ∃ n f, (Step.fill p content).apply d limits =
        (((Step.fill p (content.extract 0 n)).apply d).1, some f) := by
  cases hlimit : limits (.fill p content) with
  | none =>
    left
    simp only [Step.apply, hlimit, unlimited]
  | some l =>
    refine .inr ⟨l.kept, ?_⟩
    simp only [Step.apply, hlimit, unlimited]
    cases settle d p (d.fill p.render (content.extract 0 l.kept)) with
    | mk after failed => cases failed <;> exact ⟨_, rfl⟩

theorem changesAt_fill (d : Disk) (p : Path) (content : ByteArray) (limits : Limits) :
    ChangesAt p.render d ((Step.fill p content).apply d limits).1 := by
  have hall (part : ByteArray) : ChangesAt p.render d ((Step.fill p part).apply d).1 := by
    refine ChangesAt.settle fun d' h => ?_
    obtain ⟨place, old, mode, hl, hn, rfl⟩ := fill_eq_ok h
    exact .inr ⟨place, _, hl, by simp [hn], rfl⟩
  rcases apply_fill_cases d p content limits with h | ⟨n, f, h⟩
  · rw [h]
    exact hall content
  · rw [h]
    exact hall _

/-- Directories that were made at some of the paths, where there was nothing. -/
structure MadeAt (paths : List Path) (d d' : Disk) : Prop where
  grown : Extends d d'
  frame : ∀ place, d'.node? place = d.node? place ∨
    d.node? place = none ∧ d'.node? place = some .directory ∧
      ∃ p ∈ paths, d'.locate p.render = .ok place

theorem MadeAt.refl (paths : List Path) (d : Disk) : MadeAt paths d d :=
  ⟨.refl d, fun _ => .inl rfl⟩

theorem MadeAt.mono {paths wider : List Path} (h : MadeAt paths d d')
    (hs : ∀ p ∈ paths, p ∈ wider) : MadeAt wider d d' := by
  refine ⟨h.grown, fun place => (h.frame place).imp_right ?_⟩
  rintro ⟨hn, hd, p, hp, hl⟩
  exact ⟨hn, hd, p, hs p hp, hl⟩

theorem MadeAt.trans {paths : List Path} {d'' : Disk} (h : MadeAt paths d d')
    (h' : MadeAt paths d' d'') : MadeAt paths d d'' := by
  refine ⟨h.grown.trans h'.grown, fun place => ?_⟩
  rcases h.frame place with he | ⟨hn, hd, p, hp, hl⟩
  · rw [← he]
    exact h'.frame place
  · exact .inr ⟨hn, h'.grown.directories place hd, p, hp, h'.grown.locate hl⟩

theorem madeAt_makeDirectory {p : Path} (h : d.makeDirectory p.render = .ok d') :
    MadeAt p.withAbove d d' := by
  obtain ⟨place, hl, hn, rfl⟩ := makeDirectory_eq_ok h
  have hd : d.node? place ≠ some .directory := by simp [hn]
  refine ⟨extends_put _ hd, fun other => ?_⟩
  by_cases he : other = place
  · subst he
    exact .inr ⟨hn, node?_put_of_node? _ hd, p, p.self_mem_withAbove, (extends_put _ hd).locate hl⟩
  · exact .inl (node?_put_of_ne he)

theorem madeAt_makeDirectories (limits : Limits) (root : PathRoot) (names : List String)
    (d : Disk) :
    MadeAt (Path.mk root names.reverse).withAbove d (makeDirectories limits root names d).1 := by
  have hup : ∀ (name : String) (above : List String), ∀ p ∈ (Path.mk root above.reverse).withAbove,
      p ∈ (Path.mk root (name :: above).reverse).withAbove := by
    intro name above p hp
    rw [List.reverse_cons]
    exact Path.withAbove_child ⟨root, above.reverse⟩ name ▸ List.mem_append_left _ hp
  fun_induction makeDirectories limits root names d with
  | case1 names d path make d' h => exact madeAt_makeDirectory (permit_eq_ok h)
  | case2 d path make h => exact .refl _ _
  | case3 d name above d' f habove path make h ih => exact (habove ▸ ih).mono (hup name above)
  | case4 d name above d' habove d'' path make h h' ih =>
    exact ((habove ▸ ih).mono (hup name above)).trans (madeAt_makeDirectory (permit_eq_ok h'))
  | case5 d name above d' habove e path make h h' ih => exact (habove ▸ ih).mono (hup name above)
  | case6 names d path make e he h => exact .refl _ _

def Step.directories : Step → List Path
  | .makeDirectories p => p.withAbove
  | .touch _ _ | .setMode _ _ | .truncate _ | .fill _ _ => []

def Step.files : Step → List Path
  | .makeDirectories _ => []
  | .touch p _ | .setMode p _ | .truncate p | .fill p _ => [p]

theorem Step.extends (d : Disk) (s : Step) (limits : Limits) : Extends d (s.apply d limits).1 := by
  cases s with
  | makeDirectories p => exact (madeAt_makeDirectories _ _ _ _).grown
  | touch p mode => exact (changesAt_touch d p mode limits).extends
  | setMode p mode => exact (changesAt_setMode d p mode limits).extends
  | truncate p => exact (changesAt_truncate d p limits).extends
  | fill p content => exact (changesAt_fill d p content limits).extends

/-- The places of a tree that differ from an earlier one: directories that were made where there was
nothing, and whatever the paths of files lead to. -/
def Framed (directories files : List Path) (d d' : Disk) (place : Place) : Prop :=
  d'.node? place = d.node? place ∨
    (d.node? place = none ∧ d'.node? place = some .directory ∧
      ∃ p ∈ directories, d'.locate p.render = .ok place) ∨
    ∃ p ∈ files, d'.locate p.render = .ok place

theorem Framed.mono {directories files wider more : List Path}
    (h : Framed directories files d d' place) (hd : ∀ p ∈ directories, p ∈ wider)
    (hf : ∀ p ∈ files, p ∈ more) : Framed wider more d d' place := by
  rcases h with he | ⟨hn, hdir, p, hp, hl⟩ | ⟨p, hp, hl⟩
  · exact .inl he
  · exact .inr (.inl ⟨hn, hdir, p, hd p hp, hl⟩)
  · exact .inr (.inr ⟨p, hf p hp, hl⟩)

theorem Step.framed (d : Disk) (s : Step) (limits : Limits) (place : Place) :
    Framed s.directories s.files d (s.apply d limits).1 place := by
  have hfile {p : Path} {d' : Disk} (h : ChangesAt p.render d d') : Framed [] [p] d d' place :=
    (h.frame place).imp_right fun hl => .inr ⟨p, List.mem_singleton_self p, hl⟩
  cases s with
  | makeDirectories p =>
    have hm := madeAt_makeDirectories limits p.root p.parts.reverse d
    rw [List.reverse_reverse] at hm
    exact (hm.frame place).imp_right .inl
  | touch p mode => exact hfile (changesAt_touch d p mode limits)
  | setMode p mode => exact hfile (changesAt_setMode d p mode limits)
  | truncate p => exact hfile (changesAt_truncate d p limits)
  | fill p content => exact hfile (changesAt_fill d p content limits)

theorem perform_cons_of_eq_none (h : s.apply d limits = (d', none)) (steps : List Step) :
    d.perform (s :: steps) limits = d'.perform steps limits := by
  rw [perform, h]

theorem perform_cons_of_eq_some {f : Failure} (h : s.apply d limits = (d', some f))
    (steps : List Step) : d.perform (s :: steps) limits = (d', some f) := by
  rw [perform, h]

theorem perform_extends (d : Disk) (steps : List Step) (limits : Limits) :
    Extends d (d.perform steps limits).1 := by
  induction steps generalizing d with
  | nil => exact .refl d
  | cons s rest ih =>
    have hs := s.extends d limits
    cases h : s.apply d limits with
    | mk d' failed =>
      rw [h] at hs
      cases failed with
      | none => exact perform_cons_of_eq_none h rest ▸ hs.trans (ih d')
      | some f => exact perform_cons_of_eq_some h rest ▸ hs

theorem Framed.trans {directories directories' files files' : List Path} {d'' : Disk}
    (h : Framed directories files d d' place) (h' : Framed directories' files' d' d'' place)
    (hext : Extends d' d'') :
    Framed (directories ++ directories') (files ++ files') d d'' place := by
  rcases h with he | ⟨hn, hd, p, hp, hl⟩ | ⟨p, hp, hl⟩
  · rcases h' with he' | ⟨hn, hd, p, hp, hl⟩ | ⟨p, hp, hl⟩
    · exact .inl (he'.trans he)
    · exact .inr (.inl ⟨he ▸ hn, hd, p, List.mem_append_right _ hp, hl⟩)
    · exact .inr (.inr ⟨p, List.mem_append_right _ hp, hl⟩)
  · exact .inr (.inl ⟨hn, hext.directories place hd, p, List.mem_append_left _ hp, hext.locate hl⟩)
  · exact .inr (.inr ⟨p, List.mem_append_left _ hp, hext.locate hl⟩)

theorem perform_framed (d : Disk) (steps : List Step) (limits : Limits) (place : Place) :
    Framed (steps.flatMap Step.directories) (steps.flatMap Step.files) d
      (d.perform steps limits).1 place := by
  induction steps generalizing d with
  | nil => exact .inl rfl
  | cons s rest ih =>
    have hs := s.framed d limits place
    rw [List.flatMap_cons, List.flatMap_cons]
    cases h : s.apply d limits with
    | mk d' failed =>
      rw [h] at hs
      cases failed with
      | none =>
        rw [perform_cons_of_eq_none h]
        exact hs.trans (ih d') (perform_extends d' rest limits)
      | some f =>
        rw [perform_cons_of_eq_some h]
        exact hs.trans (.inl rfl) (.refl d')

theorem perform_append_of_eq_none (h : d.perform steps limits = (d', none)) (more : List Step) :
    d.perform (steps ++ more) limits = d'.perform more limits := by
  rw [perform_append, h]

theorem perform_append_eq_none (h : d.perform (steps ++ more) limits = (d', none)) :
    ∃ between, d.perform steps limits = (between, none) ∧
      between.perform more limits = (d', none) := by
  rw [perform_append] at h
  split at h
  · exact ⟨_, ‹_›, h⟩
  · rename_i hne
    exact absurd h (hne d')

theorem perform_cons_eq_none (h : d.perform (s :: steps) limits = (d', none)) :
    ∃ between, s.apply d limits = (between, none) ∧
      between.perform steps limits = (d', none) := by
  cases hs : s.apply d limits with
  | mk between failed =>
    cases failed with
    | none => exact ⟨between, rfl, perform_cons_of_eq_none hs steps ▸ h⟩
    | some f => cases (perform_cons_of_eq_some hs steps).symm.trans h

theorem apply_makeDirectories (d : Disk) (p : Path) (limits : Limits) :
    (Step.makeDirectories p).apply d limits =
      makeDirectories limits p.root p.parts.reverse d := rfl

theorem apply_makeDirectories_of_eq_ok {p : Path} (h : d.makeDirectory p.render = .ok d') :
    (Step.makeDirectories p).apply d = (d', none) := by
  rw [apply_makeDirectories, makeDirectories.eq_def]
  simp only [List.reverse_reverse, unlimited, permit, h]

theorem makeDirectory_of_isDirectory (h : d.isDirectory path = true) :
    d.makeDirectory path = .error .exists := by
  obtain ⟨place, hl, hn⟩ := isDirectory_eq_true_iff.1 h
  rw [makeDirectory, hl]
  simp only [bind, Except.bind, hn]
  rfl

theorem apply_makeDirectories_of_isDirectory {p : Path} (h : d.isDirectory p.render = true) :
    (Step.makeDirectories p).apply d = (d, none) := by
  rw [apply_makeDirectories, makeDirectories.eq_def]
  simp only [List.reverse_reverse, unlimited, permit, makeDirectory_of_isDirectory h, h, if_true]

theorem perform_singleton (h : s.apply d limits = (d', none)) :
    d.perform [s] limits = (d', none) :=
  perform_cons_of_eq_none h []

/-- Takes the steps to a directory and then the one that makes an entry of it. -/
theorem perform_withAbove_child {p : Path} {name : String} {d'' : Disk}
    (habove : d.perform (p.withAbove.map .makeDirectories) = (d', none))
    (h : (Step.makeDirectories (p.child name)).apply d' = (d'', none)) :
    d.perform ((p.child name).withAbove.map .makeDirectories) = (d'', none) := by
  rw [Path.withAbove_child, List.map_append, perform_append_of_eq_none habove]
  exact perform_singleton h

theorem perform_withAbove_of_isDirectory {root : PathRoot} {names : List String}
    (hp : (Path.mk root names.reverse).WellFormed)
    (h : d.isDirectory (Path.mk root names.reverse).render = true) :
    d.perform ((Path.mk root names.reverse).withAbove.map .makeDirectories) = (d, none) := by
  induction names with
  | nil => exact perform_singleton (apply_makeDirectories_of_isDirectory h)
  | cons name above ih =>
    rw [Path.mk_reverse_cons] at hp h ⊢
    exact perform_withAbove_child (ih hp.above (isDirectory_of_isDirectory_child hp h))
      (apply_makeDirectories_of_isDirectory h)

/-- Making a directory and what is missing above it is to make the first of them one by one. -/
theorem makeDirectories_eq_perform (limits : Limits) (root : PathRoot) (names : List String)
    (d : Disk) (hp : (Path.mk root names.reverse).WellFormed) :
    ∃ taken, taken <+: (Path.mk root names.reverse).withAbove ∧
      d.perform (taken.map .makeDirectories) = ((makeDirectories limits root names d).1, none) ∧
      ((makeDirectories limits root names d).2 = none →
        taken = (Path.mk root names.reverse).withAbove) := by
  fun_induction makeDirectories limits root names d with
  | case1 names d path make d' h =>
    have h := permit_eq_ok h
    refine ⟨_, List.prefix_rfl, ?_, fun _ => rfl⟩
    cases names with
    | nil => exact perform_singleton (apply_makeDirectories_of_eq_ok h)
    | cons name above =>
      obtain ⟨place, hl, -, -⟩ := makeDirectory_eq_ok h
      simp only [path, Path.mk_reverse_cons] at hp h hl ⊢
      exact perform_withAbove_child
        (perform_withAbove_of_isDirectory hp.above (isDirectory_of_locate_child hp hl))
        (apply_makeDirectories_of_eq_ok h)
  | case2 d path make h => exact ⟨[], List.nil_prefix, rfl, nofun⟩
  | case3 d name above d' f habove path make h ih =>
    rw [Path.mk_reverse_cons] at hp ⊢
    obtain ⟨taken, ht, hr, -⟩ := ih hp.above
    rw [habove] at hr
    rw [Path.withAbove_child]
    exact ⟨taken, ht.trans (List.prefix_append _ _), hr, nofun⟩
  | case4 d name above d' habove d'' path make h h' ih =>
    have h' := permit_eq_ok h'
    simp only [path, Path.mk_reverse_cons] at hp h' ⊢
    obtain ⟨taken, -, hr, hall⟩ := ih hp.above
    rw [hall (by rw [habove]), habove] at hr
    exact ⟨_, List.prefix_rfl, perform_withAbove_child hr (apply_makeDirectories_of_eq_ok h'),
      fun _ => rfl⟩
  | case5 d name above d' habove e path make h h' ih =>
    simp only [path, Path.mk_reverse_cons] at hp ⊢
    obtain ⟨taken, -, hr, hall⟩ := ih hp.above
    rw [hall (by rw [habove]), habove] at hr
    by_cases hd : e ≠ .notFound ∧ d'.isDirectory ((Path.mk root above.reverse).child name).render
    · exact ⟨_, List.prefix_rfl,
        perform_withAbove_child hr (apply_makeDirectories_of_isDirectory hd.2), fun _ => rfl⟩
    · refine ⟨_, ?_, hr, fun hnone => ?_⟩
      · rw [Path.withAbove_child]
        exact List.prefix_append _ _
      · rw [if_neg hd] at hnone
        cases hnone
  | case6 names d path make e he h =>
    by_cases hd : d.isDirectory (Path.mk root names.reverse).render
    · exact ⟨_, List.prefix_rfl, perform_withAbove_of_isDirectory hp hd, fun _ => rfl⟩
    · refine ⟨[], List.nil_prefix, rfl, fun hnone => ?_⟩
      rw [if_neg hd] at hnone
      cases hnone

theorem settle_eq_none {p : Path} {r : Except DiskFault Disk} (h : settle d p r = (d', none)) :
    r = .ok d' := by
  rcases settle_cases d p r with ⟨after, hr, hs⟩ | ⟨f, hs⟩
  · have hd : after = d' := congrArg Prod.fst (hs.symm.trans h)
    exact hd ▸ hr
  · cases hs.symm.trans h

theorem settle_eq_some {p : Path} {r : Except DiskFault Disk} {f : Failure}
    (h : settle d p r = (d', some f)) : d' = d := by
  rcases settle_cases d p r with ⟨_, -, hs⟩ | ⟨_, hs⟩
  · cases hs.symm.trans h
  · exact (congrArg Prod.fst (hs.symm.trans h)).symm

/-- A step on a file that succeeds does what it does where nothing is refused. -/
theorem Step.apply_eq_none (hs : ∀ p, s ≠ .makeDirectories p)
    (h : s.apply d limits = (d', none)) : s.apply d = (d', none) := by
  have hsettle {p : Path} {l : Option Limit} {r : Except DiskFault Disk}
      (h : settle d p (permit l r) = (d', none)) : settle d p (permit none r) = (d', none) := by
    rw [permit, permit_eq_ok (settle_eq_none h)]
    rfl
  cases s with
  | makeDirectories p => exact absurd rfl (hs p)
  | touch p mode => exact hsettle h
  | setMode p mode => exact hsettle h
  | truncate p => exact hsettle h
  | fill p content =>
    rcases apply_fill_cases d p content limits with hall | ⟨n, f, hpart⟩
    · exact hall ▸ h
    · cases h.symm.trans hpart

/-- A step on a file that fails leaves all as it was, unless it has filled the file with a part of
its content. -/
theorem Step.apply_eq_some (hs : ∀ p, s ≠ .makeDirectories p) {f : Failure}
    (h : s.apply d limits = (d', some f)) :
    d' = d ∨ ∃ p content n, s = .fill p content ∧
      (Step.fill p (content.extract 0 n)).apply d = (d', none) := by
  cases s with
  | makeDirectories p => exact absurd rfl (hs p)
  | touch p mode => exact .inl (settle_eq_some h)
  | setMode p mode => exact .inl (settle_eq_some h)
  | truncate p => exact .inl (settle_eq_some h)
  | fill p content =>
    rcases apply_fill_cases d p content limits with hall | ⟨n, g, hpart⟩
    · exact .inl (settle_eq_some (hall ▸ h))
    · obtain rfl : d' = _ := congrArg Prod.fst (h.symm.trans hpart)
      cases hfill : (Step.fill p (content.extract 0 n)).apply d with
      | mk after failed =>
        cases failed with
        | none => exact .inr ⟨p, content, n, rfl, hfill⟩
        | some _ => exact .inl (settle_eq_some hfill)

/-- What is taken of steps that may end early: the first of them, and maybe a part of the next. -/
inductive Begins : List Step → List Step → Prop
  | none (steps : List Step) : Begins [] steps
  | part (p : Path) (content : ByteArray) (n : Nat) (rest : List Step) :
      Begins [.fill p (content.extract 0 n)] (.fill p content :: rest)
  | step (s : Step) {taken rest : List Step} (h : Begins taken rest) :
      Begins (s :: taken) (s :: rest)

section Begins

variable {taken : List Step}

theorem Begins.append (front : List Step) (h : Begins taken steps) :
    Begins (front ++ taken) (front ++ steps) := by
  induction front with
  | nil => exact h
  | cons s rest ih => exact .step s ih

theorem begins_of_prefix (h : taken <+: steps) : Begins taken steps := by
  obtain ⟨rest, rfl⟩ := h
  simpa using (Begins.none rest).append taken

theorem Begins.mem_cases (h : Begins taken steps) (hs : s ∈ taken) :
    s ∈ steps ∨ ∃ p content n, s = .fill p (content.extract 0 n) ∧ .fill p content ∈ steps := by
  induction h with
  | none steps => cases hs
  | part p content n rest =>
    exact .inr ⟨p, content, n, List.mem_singleton.1 hs, List.mem_cons_self⟩
  | @step t taken rest h ih =>
    rcases List.mem_cons.1 hs with rfl | hs
    · exact .inl List.mem_cons_self
    · rcases ih hs with hm | ⟨p, content, n, he, hm⟩
      · exact .inl (List.mem_cons_of_mem t hm)
      · exact .inr ⟨p, content, n, he, List.mem_cons_of_mem t hm⟩

/-- Whatever is taken is at the paths of one of the steps. -/
theorem Begins.mem (h : Begins taken steps) (hs : s ∈ taken) :
    ∃ t ∈ steps, s.files = t.files ∧ s.directories = t.directories := by
  rcases h.mem_cases hs with hm | ⟨p, content, n, rfl, hm⟩
  · exact ⟨s, hm, rfl, rfl⟩
  · exact ⟨_, hm, rfl, rfl⟩

/-- A relation that does not depend on the contents of later steps holds of what is taken. -/
theorem Begins.pairwise {R : Step → Step → Prop} (h : Begins taken steps)
    (hpart : ∀ s p content n, R s (.fill p content) → R s (.fill p (content.extract 0 n)))
    (hp : steps.Pairwise R) : taken.Pairwise R := by
  induction h with
  | none steps => exact .nil
  | part p content n rest => exact List.pairwise_singleton _ _
  | @step s taken rest h ih =>
    obtain ⟨hlater, hrest⟩ := List.pairwise_cons.1 hp
    refine List.pairwise_cons.2 ⟨fun t ht => ?_, ih hrest⟩
    rcases h.mem_cases ht with hm | ⟨p, content, n, rfl, hm⟩
    · exact hlater t hm
    · exact hpart s p content n (hlater _ hm)

end Begins

/-- Steps on files that are taken until one fails leave what the first of them lead to. -/
theorem perform_eq_perform_begins (d : Disk) (limits : Limits)
    (hs : ∀ s ∈ steps, ∀ p, s ≠ .makeDirectories p) :
    ∃ taken, Begins taken steps ∧ d.perform taken = ((d.perform steps limits).1, none) ∧
      ((d.perform steps limits).2 = none → taken = steps) := by
  induction steps generalizing d with
  | nil => exact ⟨[], .none _, rfl, fun _ => rfl⟩
  | cons s rest ih =>
    obtain ⟨hhead, hrest⟩ := List.forall_mem_cons.1 hs
    cases h : s.apply d limits with
    | mk d' failed =>
      cases failed with
      | none =>
        rw [perform_cons_of_eq_none h]
        obtain ⟨taken, ht, hr, hall⟩ := ih d' hrest
        refine ⟨s :: taken, .step s ht, ?_, fun hn => by rw [hall hn]⟩
        rw [perform_cons_of_eq_none (Step.apply_eq_none hhead h), hr]
      | some f =>
        rw [perform_cons_of_eq_some h]
        rcases Step.apply_eq_some hhead h with rfl | ⟨p, content, n, rfl, hpart⟩
        · exact ⟨[], .none _, rfl, nofun⟩
        · exact ⟨_, .part p content n rest, perform_singleton hpart, nofun⟩

theorem read_eq_ok {content : ByteArray} {mode : Nat} (hl : d.locate path = .ok place)
    (hn : d.node? place = some (.file content mode)) : d.read path = .ok content := by
  rw [read, hl]
  simp only [bind, Except.bind, contentOf, hn]

/-- A file that was filled holds its content, at the place that the path leads to, and keeps its
permission bits. -/
theorem apply_fill_eq_none {p : Path} {content : ByteArray}
    (h : (Step.fill p content).apply d = (d', none)) :
    ∃ place old mode, d.locate p.render = .ok place ∧ d.node? place = some (.file old mode) ∧
      d'.locate p.render = .ok place ∧ d'.node? place = some (.file content mode) := by
  have hext := Step.extends d (.fill p content) unlimited
  rw [h] at hext
  obtain ⟨place, old, mode, hl, hn, rfl⟩ := fill_eq_ok (settle_eq_none h)
  exact ⟨place, old, mode, hl, hn, hext.locate hl, node?_put_of_node? _ (by simp [hn])⟩

/-- A step whose file, if it has one, is an entry of another name. -/
def Step.Spares (name : String) (s : Step) : Prop :=
  ∀ p ∈ s.files, ∃ (q : Path) (other : String), Path.IsName other ∧ other ≠ name ∧
    p = q.child other

/-- What is at a place stays under steps that spare the name of the place. -/
theorem node?_perform_of_spares {name : String} {n : Node} (hname : place.getLast? = some name)
    (hn : d.node? place = some n) (hs : ∀ s ∈ steps, s.Spares name) :
    (d.perform steps).1.node? place = some n := by
  rcases perform_framed d steps unlimited place with he | ⟨hnone, -⟩ | ⟨p, hp, hl⟩
  · rw [he, hn]
  · cases hn.symm.trans hnone
  · obtain ⟨s, hm, hf⟩ := List.mem_flatMap.1 hp
    obtain ⟨q, other, ho, hne, rfl⟩ := hs s hm p hf
    have hlast := getLast?_of_locate_child ho hl
    exact absurd (Option.some.inj (hlast.symm.trans hname)) hne

theorem read_perform_of_spares {p : Path} {name : String} {content : ByteArray}
    (hname : Path.IsName name) (h : (Step.fill (p.child name) content).apply d = (d', none))
    (hs : ∀ s ∈ steps, s.Spares name) :
    (d'.perform steps).1.read (p.child name).render = .ok content := by
  obtain ⟨place, _, mode, -, -, hl, hn⟩ := apply_fill_eq_none h
  exact read_eq_ok ((perform_extends d' steps unlimited).locate hl)
    (node?_perform_of_spares (getLast?_of_locate_child hname hl) hn hs)

end Disk
end CloudConf
