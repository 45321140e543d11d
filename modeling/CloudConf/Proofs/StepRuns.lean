import CloudConf.Proofs.ActionRuns

/-! # Actions that take one step after the other until one fails -/
namespace CloudConf

variable {σ α β : Type}

/-- The steps up to the first that fails. -/
def passed (failure : σ → Option Failure) : List σ → List σ
  | [] => []
  | s :: rest =>
    match failure s with
    | none => s :: passed failure rest
    | some _ => [s]

/-- What comes of something that leads to a value unless it fails. -/
def resultOf (v : α) : Option Failure → Except Failure α
  | none => .ok v
  | some f => .error f

def failureOf : Except Failure α → Option Failure
  | .ok _ => none
  | .error f => some f

/-- The value of a result; where there is none it does not matter. -/
def valueOf [Inhabited α] : Except Failure α → α
  | .ok v => v
  | .error _ => default

theorem resultOf_failureOf [Inhabited α] (r : Except Failure α) :
    resultOf (valueOf r) (failureOf r) = r := by
  cases r <;> rfl

variable {demands : σ → List Demand} {failure reported : σ → Option Failure} {steps more : List σ}

theorem passed_append_of_eq_none (more : List σ) (h : steps.findSome? failure = none) :
    passed failure (steps ++ more) = steps ++ passed failure more := by
  induction steps with
  | nil => rfl
  | cons s rest ih =>
    cases hs : failure s with
    | none =>
      rw [List.findSome?_cons, hs] at h
      rw [List.cons_append, passed, hs, ih h, List.cons_append]
    | some f => simp [hs] at h

theorem passed_eq_self (h : steps.findSome? failure = none) : passed failure steps = steps := by
  have happend := passed_append_of_eq_none [] h
  rwa [List.append_nil, passed, List.append_nil] at happend

theorem passed_append_of_eq_some {f : Failure} (more : List σ) (h : steps.findSome? failure = some f) :
    passed failure (steps ++ more) = passed failure steps := by
  induction steps with
  | nil => cases h
  | cons s rest ih =>
    cases hs : failure s with
    | none =>
      rw [List.findSome?_cons, hs] at h
      rw [List.cons_append, passed, passed, hs, ih h]
    | some e => rw [List.cons_append, passed, passed, hs]

theorem passed_map (report : Failure → Failure)
    (h : ∀ s ∈ steps, reported s = (failure s).map report) :
    passed reported steps = passed failure steps := by
  induction steps with
  | nil => rfl
  | cons s rest ih =>
    rw [passed, passed, h s List.mem_cons_self, ih fun t ht => h t (List.mem_cons_of_mem s ht)]
    cases failure s <;> rfl

theorem findSome?_map (report : Failure → Failure)
    (h : ∀ s ∈ steps, reported s = (failure s).map report) :
    steps.findSome? reported = (steps.findSome? failure).map report := by
  induction steps with
  | nil => rfl
  | cons s rest ih =>
    rw [List.findSome?_cons, List.findSome?_cons, h s List.mem_cons_self,
      ih fun t ht => h t (List.mem_cons_of_mem s ht)]
    cases failure s <;> rfl

namespace Action

/-- An action makes the demands of its steps up to the first that fails, and fails like that one. -/
def Follows (demands : σ → List Demand) (failure : σ → Option Failure) (a : Action α)
    (steps : List σ) (v : α) : Prop :=
  ∀ j, (a.runOn j).1 = resultOf v (steps.findSome? failure) ∧
    (a.runOn j).2.demands = j.demands ++ (passed failure steps).flatMap demands

variable {a : Action α} {k : α → Action β} {v : α} {w : β}

theorem Follows.pure (v : α) : Follows demands failure (pure v) [] v :=
  fun _ => ⟨rfl, (List.append_nil _).symm⟩

theorem Follows.bind (ha : Follows demands failure a steps v)
    (hk : Follows demands failure (k v) more w) :
    Follows demands failure (a >>= k) (steps ++ more) w := by
  intro j
  obtain ⟨hr, hd⟩ := ha j
  rw [runOn_bind]
  cases hrun : a.runOn j with
  | mk r i =>
    rw [hrun] at hr hd
    cases hf : steps.findSome? failure with
    | none =>
      rw [hf] at hr
      obtain rfl : r = .ok v := hr
      obtain ⟨hr', hd'⟩ := hk i
      refine ⟨?_, ?_⟩
      · rw [List.findSome?_append, hf, Option.none_or]
        exact hr'
      · rw [passed_append_of_eq_none more hf, List.flatMap_append, ← List.append_assoc]
        rw [passed_eq_self hf] at hd
        exact hd'.trans (congrArg (· ++ _) hd)
    | some f =>
      rw [hf] at hr
      obtain rfl : r = .error f := hr
      refine ⟨?_, ?_⟩
      · rw [List.findSome?_append, hf, Option.some_or]
        rfl
      · rw [passed_append_of_eq_some more hf]
        exact hd

theorem Follows.of_quiet (h : ∀ j, (a.runOn j).1 = .ok v ∧ (a.runOn j).2.demands = j.demands) :
    Follows demands failure a [] v :=
  fun j => ⟨(h j).1, (h j).2.trans (List.append_nil _).symm⟩

theorem Follows.log (level : Level) (speaker : Speaker) (message : String) :
    Follows demands failure (log level speaker message) [] () :=
  Follows.of_quiet fun _ => ⟨rfl, rfl⟩

theorem Follows.single {s : σ} (h : ∀ j, (a.runOn j).1 = resultOf v (failure s) ∧
    (a.runOn j).2.demands = j.demands ++ demands s) : Follows demands failure a [s] v := by
  intro j
  obtain ⟨hr, hd⟩ := h j
  have hp : passed failure [s] = [s] := by
    cases hs : failure s <;> simp [passed, hs]
  refine ⟨?_, ?_⟩
  · rw [hr, List.findSome?_singleton]
  · rw [hd, hp, List.flatMap_singleton]

/-- A stage follows its body, whose failures it reports in its own way. -/
theorem Follows.within {stage : Stage} {speaker : Speaker} {report text : String}
    {handles : Failure → Bool} (ha : Follows demands failure a steps v)
    (h : ∀ s ∈ steps, reported s = (failure s).map fun f =>
      if handles f then .because (.stage stage) text f else f) :
    Follows demands reported (within stage speaker report text handles a) steps v := by
  intro j
  obtain ⟨hr, hd⟩ := ha j
  rw [passed_map _ h, findSome?_map _ h, runOn_within]
  cases hrun : a.runOn j with
  | mk r i =>
    rw [hrun] at hr hd
    cases hf : steps.findSome? failure with
    | none =>
      rw [hf] at hr
      obtain rfl : r = .ok v := hr
      exact ⟨rfl, hd⟩
    | some f =>
      rw [hf] at hr
      obtain rfl : r = .error f := hr
      simp only [Option.map_some]
      split
      · exact ⟨rfl, hd⟩
      · exact ⟨rfl, hd⟩

theorem Follows.none_fails_or_first (ha : Follows demands failure a steps v) (j : Journal) :
    (∀ s ∈ steps, failure s = none) ∧ (a.runOn j).1 = .ok v ∧
        (a.runOn j).2.demands = j.demands ++ steps.flatMap demands ∨
      ∃ before s after f, steps = before ++ s :: after ∧ (∀ t ∈ before, failure t = none) ∧
        failure s = some f ∧ (a.runOn j).1 = .error f ∧
        (a.runOn j).2.demands = j.demands ++ (before ++ [s]).flatMap demands := by
  obtain ⟨hr, hd⟩ := ha j
  cases hf : steps.findSome? failure with
  | none =>
    rw [hf] at hr
    rw [passed_eq_self hf] at hd
    exact .inl ⟨List.findSome?_eq_none_iff.1 hf, hr, hd⟩
  | some f =>
    rw [hf] at hr
    obtain ⟨before, s, after, rfl, hs, hb⟩ := List.findSome?_eq_some_iff.1 hf
    rw [passed_append_of_eq_none _ (List.findSome?_eq_none_iff.2 hb), passed, hs] at hd
    exact .inr ⟨before, s, after, f, rfl, hb, hs, hr, hd⟩

end Action

/-- A collaborator from outside. It may log and make demands of its own, and its answer hangs on what
it is asked for; on nothing else, as no run asks it twice. -/
structure Collaborator (κ α : Type) where
  ask : κ → Action α
  demands : κ → List Demand
  answer : κ → Except Failure α
  answers : ∀ x j, ((ask x).runOn j).1 = answer x
  asks : ∀ x j, ((ask x).runOn j).2.demands = j.demands ++ demands x

namespace Collaborator

variable {κ : Type}

theorem follows [Inhabited α] (r : Collaborator κ α) (x : κ) {s : σ}
    (hd : demands s = r.demands x) (hf : failure s = failureOf (r.answer x)) :
    Action.Follows demands failure (r.ask x) [s] (valueOf (r.answer x)) := by
  refine .single fun j => ⟨?_, ?_⟩
  · rw [r.answers, hf, resultOf_failureOf]
  · rw [r.asks, hd]

theorem runOn_forM_demand (ds : List Demand) (j : Journal) :
    (forM ds Action.demand).runOn j = (.ok (), { j with demands := j.demands ++ ds }) := by
  induction ds generalizing j with
  | nil => simp
  | cons d ds ih =>
    rw [List.forM_cons, Action.runOn_bind_ok (Action.runOn_demand d j)]
    simp [ih]

def answering (demands : κ → List Demand) (answer : κ → Except Failure α) :
    Collaborator κ α where
  ask x := do
    forM (demands x) Action.demand
    Action.ofExcept (answer x)
  demands := demands
  answer := answer
  answers x j := by
    rw [Action.runOn_bind_ok (runOn_forM_demand _ j), Action.runOn_ofExcept]
  asks x j := by
    rw [Action.runOn_bind_ok (runOn_forM_demand _ j), Action.runOn_ofExcept]

end Collaborator

end CloudConf
