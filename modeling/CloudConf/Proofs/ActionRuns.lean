import CloudConf.Journal

/-! # Running actions on a journal -/
namespace CloudConf

theorem except_bind_eq_ok_iff {ε α β : Type} {x : Except ε α} {k : α → Except ε β} {w : β} :
    (x >>= k) = .ok w ↔ ∃ v, x = .ok v ∧ k v = .ok w := by
  cases x with
  | error e => exact ⟨nofun, fun ⟨_, h, _⟩ => nomatch h⟩
  | ok v => exact ⟨fun h => ⟨v, rfl, h⟩, fun ⟨_, h, hk⟩ => Except.ok.inj h ▸ hk⟩

theorem except_pure_eq_ok_iff {ε α : Type} {v w : α} :
    (pure v : Except ε α) = .ok w ↔ v = w :=
  ⟨Except.ok.inj, fun h => h ▸ rfl⟩

namespace Action

variable {α β : Type} {a : Action α} {k : α → Action β} {j i : Journal}

@[simp] theorem runOn_pure (v : α) (j : Journal) : (pure v : Action α).runOn j = (.ok v, j) := rfl

@[simp] theorem runOn_throw (f : Failure) (j : Journal) :
    (throw f : Action α).runOn j = (.error f, j) := rfl

@[simp] theorem runOn_ofExcept (r : Except Failure α) (j : Journal) :
    (ofExcept r).runOn j = (r, j) := by
  cases r <;> rfl

@[simp] theorem runOn_demand (d : Demand) (j : Journal) :
    (demand d).runOn j = (.ok (), { j with demands := j.demands ++ [d] }) := rfl

@[simp] theorem runOn_call (c : Call) (j : Journal) :
    (call c).runOn j = (.ok (), { j with demands := j.demands ++ [.call c] }) := rfl

@[simp] theorem runOn_log (level : Level) (speaker : Speaker) (message : String) (j : Journal) :
    (log level speaker message).runOn j =
      (.ok (), { j with log := j.log ++ [⟨level, speaker, message⟩] }) := rfl

theorem runOn_bind (a : Action α) (k : α → Action β) (j : Journal) :
    (a >>= k).runOn j =
      match a.runOn j with
      | (.ok v, i) => (k v).runOn i
      | (.error f, i) => (.error f, i) := by
  change (match a.runOn j with | (r, i) => (ExceptT.bindCont k r).run i) = _
  cases h : a.runOn j with
  | mk r i => cases r <;> rfl

theorem runOn_bind_ok {v : α} (h : a.runOn j = (.ok v, i)) :
    (a >>= k).runOn j = (k v).runOn i := by
  rw [runOn_bind, h]

theorem runOn_bind_eq_ok {w : β} {j' : Journal} (h : (a >>= k).runOn j = (.ok w, j')) :
    ∃ v i, a.runOn j = (.ok v, i) ∧ (k v).runOn i = (.ok w, j') := by
  rw [runOn_bind] at h
  cases ha : a.runOn j with
  | mk r i =>
    rw [ha] at h
    cases r with
    | error f => cases h
    | ok v => exact ⟨v, i, rfl, h⟩

theorem runOn_tryCatch (body : Action α) (handler : Failure → Action α) (j : Journal) :
    (tryCatch body handler).runOn j =
      match body.runOn j with
      | (.ok v, i) => (.ok v, i)
      | (.error f, i) => (handler f).runOn i := by
  simp only [runOn, tryCatch, tryCatchThe, MonadExceptOf.tryCatch, ExceptT.tryCatch, ExceptT.run,
    ExceptT.mk, StateT.run, bind, StateT.bind]
  cases h : body j with
  | mk r i => cases r <;> rfl

theorem runOn_within (stage : Stage) (speaker : Speaker) (report text : String)
    (handles : Failure → Bool) (body : Action α) (j : Journal) :
    (within stage speaker report text handles body).runOn j =
      match body.runOn j with
      | (.ok v, i) => (.ok v, i)
      | (.error f, i) =>
        if handles f then
          (.error (.because (.stage stage) text f),
            { i with log := i.log ++ [⟨.error, speaker, report⟩] })
        else (.error f, i) := by
  rw [within, runOn_tryCatch]
  cases h : body.runOn j with
  | mk r i =>
    cases r with
    | ok v => rfl
    | error f =>
      simp only
      split
      · rw [runOn_bind_ok (runOn_log _ _ _ _), runOn_throw]
      · rfl

theorem runOn_within_eq_ok {stage : Stage} {speaker : Speaker} {report text : String}
    {handles : Failure → Bool} {v : α}
    (h : (within stage speaker report text handles a).runOn j = (.ok v, i)) :
    a.runOn j = (.ok v, i) := by
  rw [runOn_within] at h
  cases ha : a.runOn j with
  | mk r i' =>
    rw [ha] at h
    cases r with
    | ok w => exact h
    | error f =>
      simp only at h
      split at h <;> cases h

end Action

end CloudConf
