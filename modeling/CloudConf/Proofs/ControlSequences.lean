import CloudConf.Text.ControlSequence
import Mathlib.Data.List.TakeWhile

/-! # Which tails of a text keep their characters

A text loses each of its control sequences, wherever it stands: none begins within another, as only
the first character of one is an escape.
-/
namespace CloudConf.Text

open ControlSequence

/-- An escape and a bracket, then parameters, intermediates and a final. -/
def IsControlSequence (q : List Char) : Prop :=
  ∃ parameters intermediates final,
    q = '\x1b' :: '[' :: (parameters ++ (intermediates ++ [final])) ∧
    (∀ c ∈ parameters, isParameter c) ∧ (∀ c ∈ intermediates, isIntermediate c) ∧ isFinal final

def behind? : List Char → Option (List Char)
  | c :: d :: rest => if c = '\x1b' ∧ d = '[' then after? rest else none
  | _ => none

/-- Behind each control sequence of a text there are at least so many characters. -/
def Leaves (n : Nat) (s : List Char) : Prop :=
  ∀ a q b, IsControlSequence q → s = a ++ q ++ b → n ≤ b.length

namespace ControlSequence

theorem isParameter_iff {c : Char} : isParameter c ↔ 48 ≤ c.toNat ∧ c.toNat ≤ 63 := by
  simp [isParameter, Char.le_def, UInt32.le_iff_toNat_le]

theorem isIntermediate_iff {c : Char} : isIntermediate c ↔ 32 ≤ c.toNat ∧ c.toNat ≤ 47 := by
  simp [isIntermediate, Char.le_def, UInt32.le_iff_toNat_le]

theorem isFinal_iff {c : Char} : isFinal c ↔ 64 ≤ c.toNat ∧ c.toNat ≤ 126 := by
  simp [isFinal, Char.le_def, UInt32.le_iff_toNat_le]

theorem isIntermediate_eq_false_of_isFinal {c : Char} (h : isFinal c) : isIntermediate c = false := by
  rw [← Bool.not_eq_true, isIntermediate_iff]
  rw [isFinal_iff] at h
  omega

/-- Behind parameters there stand intermediates or the final, none of which is a parameter. -/
theorem isParameter_eq_false_of_mem {c final : Char} {intermediates : List Char}
    (hi : ∀ d ∈ intermediates, isIntermediate d) (hf : isFinal final)
    (h : c ∈ intermediates ++ [final]) : isParameter c = false := by
  rw [← Bool.not_eq_true, isParameter_iff]
  rcases List.mem_append.1 h with hc | hc
  · have := isIntermediate_iff.1 (hi c hc)
    omega
  · obtain rfl := List.mem_singleton.1 hc
    rw [isFinal_iff] at hf
    omega

/-- What follows a sequence is what is left behind its parameters, intermediates and final. -/
theorem after?_eq_some_iff {s t : List Char} :
    after? s = some t ↔ ∃ parameters intermediates final,
      s = parameters ++ (intermediates ++ [final]) ++ t ∧ (∀ c ∈ parameters, isParameter c) ∧
      (∀ c ∈ intermediates, isIntermediate c) ∧ isFinal final := by
  constructor
  · intro h
    unfold after? at h
    split at h
    · rename_i c rest hs
      split at h
      · rename_i hc
        obtain rfl := Option.some.inj h
        refine ⟨s.takeWhile isParameter, (s.dropWhile isParameter).takeWhile isIntermediate, c, ?_,
          fun d => List.mem_takeWhile_imp, fun d => List.mem_takeWhile_imp, hc⟩
        calc
          s = s.takeWhile isParameter ++
              ((s.dropWhile isParameter).takeWhile isIntermediate ++ c :: rest) := by
            rw [← hs, List.takeWhile_append_dropWhile, List.takeWhile_append_dropWhile]
          _ = _ := by simp
      · cases h
    · cases h
  · rintro ⟨parameters, intermediates, final, rfl, hp, hi, hf⟩
    obtain ⟨c, more, hmore⟩ := List.exists_cons_of_ne_nil
      (List.append_ne_nil_of_right_ne_nil intermediates (List.cons_ne_nil final []))
    have hc : isParameter c = false := isParameter_eq_false_of_mem hi hf (hmore ▸ List.mem_cons_self)
    have hparameters : (parameters ++ (intermediates ++ [final]) ++ t).dropWhile isParameter =
        intermediates ++ final :: t := by
      rw [List.append_assoc, List.dropWhile_append_of_pos hp, hmore, List.cons_append,
        List.dropWhile_cons_of_neg (by simp [hc]), ← List.cons_append, ← hmore]
      simp
    have hintermediates : (intermediates ++ final :: t).dropWhile isIntermediate = final :: t := by
      rw [List.dropWhile_append_of_pos hi, List.dropWhile_cons_of_neg]
      simp [isIntermediate_eq_false_of_isFinal hf]
    rw [after?, hparameters, hintermediates]
    simp [hf]

end ControlSequence

variable {s t : List Char} {n : Nat}

theorem behind?_eq_some_iff : behind? s = some t ↔ ∃ q, IsControlSequence q ∧ s = q ++ t := by
  constructor
  · intro h
    unfold behind? at h
    split at h
    · split at h
      · rename_i hc
        obtain ⟨rfl, rfl⟩ := hc
        obtain ⟨parameters, intermediates, final, rfl, hparts⟩ := after?_eq_some_iff.1 h
        exact ⟨_, ⟨parameters, intermediates, final, rfl, hparts⟩, rfl⟩
      · cases h
    · cases h
  · rintro ⟨q, ⟨parameters, intermediates, final, rfl, hparts⟩, rfl⟩
    exact after?_eq_some_iff.2 ⟨parameters, intermediates, final, rfl, hparts⟩

theorem behind?_append (h : behind? s = some t) (more : List Char) :
    behind? (s ++ more) = some (t ++ more) := by
  obtain ⟨q, hq, rfl⟩ := behind?_eq_some_iff.1 h
  exact behind?_eq_some_iff.2 ⟨q, hq, List.append_assoc ..⟩

theorem withoutControls_of_behind (h : behind? s = some t) :
    withoutControls s = withoutControls t := by
  unfold behind? at h
  split at h
  · split at h
    · rename_i hc
      rw [withoutControls, if_pos hc]
      split
      · rename_i t' ht
        rw [Option.some.inj (ht.symm.trans h)]
      · rename_i hn
        cases hn.symm.trans h
    · cases h
  · cases h

theorem withoutControls_append {q : List Char} (hq : IsControlSequence q) (s : List Char) :
    withoutControls (q ++ s) = withoutControls s :=
  withoutControls_of_behind (behind?_eq_some_iff.2 ⟨q, hq, rfl⟩)

theorem withoutControls_cons {c : Char} (h : behind? (c :: s) = none) :
    withoutControls (c :: s) = c :: withoutControls s := by
  cases s with
  | nil => simp [withoutControls]
  | cons d rest =>
    rw [withoutControls]
    split
    · rename_i hc
      simp only [behind?, if_pos hc] at h
      split
      · rename_i t ht
        cases ht.symm.trans h
      · rfl
    · rfl

theorem IsControlSequence.ne_nil {q : List Char} (h : IsControlSequence q) : q ≠ [] := by
  obtain ⟨_, _, _, rfl, -⟩ := h
  exact List.cons_ne_nil _ _

/-- No control sequence begins within another. -/
theorem IsControlSequence.escape_notMem_tail {q : List Char} (h : IsControlSequence q) :
    '\x1b' ∉ q.tail := by
  obtain ⟨parameters, intermediates, final, rfl, hp, hi, hf⟩ := h
  intro hm
  simp only [List.tail_cons, List.mem_cons, List.mem_append, List.not_mem_nil, or_false] at hm
  rcases hm with hm | hm | hm | hm
  · cases hm
  · exact absurd (hp _ hm) (by decide)
  · exact absurd (hi _ hm) (by decide)
  · exact absurd (hm ▸ hf) (by decide)

/-- Of two control sequences in a text, the second begins behind the first. -/
theorem IsControlSequence.eq_or_behind {q q' a b : List Char} (h : IsControlSequence q)
    (h' : IsControlSequence q') (heq : q ++ t = a ++ q' ++ b) :
    a = [] ∧ q' = q ∨ ∃ a', a = q ++ a' ∧ t = a' ++ q' ++ b := by
  have hescape : ∃ more, q' = '\x1b' :: more := by
    obtain ⟨_, _, _, rfl, -⟩ := h'
    exact ⟨_, rfl⟩
  rw [List.append_assoc] at heq
  rcases List.append_eq_append_iff.1 heq with ⟨a', ha, ht⟩ | ⟨c, hq, hc⟩
  · exact .inr ⟨a', ha, by rw [ht, List.append_assoc]⟩
  · cases a with
    | nil =>
      -- Only one rest can be left behind a control sequence at the very front.
      obtain rfl : q = c := hq
      have ht : behind? (q ++ t) = some t := behind?_eq_some_iff.2 ⟨q, h, rfl⟩
      have hb : behind? (q ++ t) = some b := behind?_eq_some_iff.2 ⟨q', h', hc.symm⟩
      obtain rfl := Option.some.inj (ht.symm.trans hb)
      exact .inl ⟨rfl, List.append_cancel_right hc⟩
    | cons x a =>
      cases c with
      | nil => exact .inr ⟨[], by simpa using hq.symm, by simpa using hc.symm⟩
      | cons y c =>
        obtain ⟨more, rfl⟩ := hescape
        obtain ⟨rfl, -⟩ := List.cons.inj hc
        refine absurd ?_ h.escape_notMem_tail
        simp [hq]

theorem length_withoutControls_le (s : List Char) : (withoutControls s).length ≤ s.length := by
  fun_induction withoutControls s with
  | case1 => exact le_rfl
  | case2 => exact le_rfl
  | case3 c d rest hc t ht ih =>
    have := length_after? ht
    simp only [List.length_cons]
    omega
  | case4 c d rest hc hn ih => simpa using ih
  | case5 c d rest hc ih => simpa using ih

theorem length_of_behind (h : behind? s = some t) :
    (withoutControls s).length ≤ t.length ∧ t.length < s.length := by
  obtain ⟨q, hq, rfl⟩ := behind?_eq_some_iff.1 h
  refine ⟨withoutControls_of_behind h ▸ length_withoutControls_le t, ?_⟩
  have := List.length_pos_iff.2 hq.ne_nil
  rw [List.length_append]
  omega

theorem leaves_cons_iff {c : Char} (h : behind? (c :: s) = none) :
    Leaves n (c :: s) ↔ Leaves n s := by
  constructor
  · intro hleaves a q b hq heq
    exact hleaves (c :: a) q b hq (by rw [heq]; rfl)
  · intro hleaves a q b hq heq
    cases a with
    | nil =>
      have hsome : behind? (c :: s) = some b := behind?_eq_some_iff.2 ⟨q, hq, heq⟩
      cases h.symm.trans hsome
    | cons x a => exact hleaves a q b hq (List.cons.inj heq).2

theorem leaves_append_iff {q : List Char} (hq : IsControlSequence q) :
    Leaves n (q ++ t) ↔ n ≤ t.length ∧ Leaves n t := by
  constructor
  · intro hleaves
    refine ⟨hleaves [] q t hq rfl, fun a q' b hq' heq => ?_⟩
    exact hleaves (q ++ a) q' b hq' (by simp [heq])
  · rintro ⟨hn, hleaves⟩ a q' b hq' heq
    rcases hq.eq_or_behind hq' heq with ⟨rfl, rfl⟩ | ⟨a', -, ht⟩
    · rwa [← List.append_cancel_left heq]
    · exact hleaves a' q' b hq' ht

/-- A text that loses nothing has no control sequence: none leaves as much as the whole text. -/
theorem withoutControls_eq_self_iff (h : s.length ≤ n) : withoutControls s = s ↔ Leaves n s := by
  induction s with
  | nil =>
    refine iff_of_true (by rw [withoutControls]) fun a q b hq heq => ?_
    simp [hq.ne_nil] at heq
  | cons c s ih =>
    cases hb : behind? (c :: s) with
    | none =>
      rw [withoutControls_cons hb, leaves_cons_iff hb, List.cons_inj_right]
      exact ih (Nat.le_of_succ_le h)
    | some t =>
      obtain ⟨hle, hlt⟩ := length_of_behind hb
      obtain ⟨q, hq, hs⟩ := behind?_eq_some_iff.1 hb
      refine iff_of_false (fun he => ?_) fun hleaves => ?_
      · rw [he] at hle
        omega
      · have := hleaves [] q t hq hs
        omega

/-- The tail of a text stays as it is, behind what is left of the rest, exactly if behind each
control sequence there is as much as the tail. -/
theorem withoutControls_append_eq_iff (front back : List Char) :
    withoutControls (front ++ back) = withoutControls front ++ back ↔
      Leaves back.length (front ++ back) := by
  induction h : front.length using Nat.strong_induction_on generalizing front with
  | _ k ih =>
    subst h
    cases front with
    | nil =>
      rw [withoutControls]
      exact withoutControls_eq_self_iff le_rfl
    | cons c front =>
      cases hb : behind? (c :: front ++ back) with
      | none =>
        have hfront : behind? (c :: front) = none := by
          rw [Option.eq_none_iff_forall_ne_some]
          intro t ht
          cases hb.symm.trans (behind?_append ht back)
        rw [List.cons_append] at hb ⊢
        rw [withoutControls_cons hb, withoutControls_cons hfront, leaves_cons_iff hb,
          List.cons_append, List.cons_inj_right]
        exact ih front.length (Nat.lt_succ_self _) front rfl
      | some t =>
        obtain ⟨q, hq, hs⟩ := behind?_eq_some_iff.1 hb
        obtain ⟨hle, -⟩ := length_of_behind hb
        by_cases ht : back.length ≤ t.length
        · obtain ⟨front', rfl⟩ : back <:+ t :=
            List.suffix_of_suffix_length_le (List.suffix_append _ back) ⟨q, hs.symm⟩ ht
          have hfront : c :: front = q ++ front' := by
            rwa [← List.append_assoc, List.append_cancel_right_eq] at hs
          have hlt : front'.length < (c :: front).length := by
            have := List.length_pos_iff.2 hq.ne_nil
            rw [hfront, List.length_append]
            omega
          rw [hs, hfront, withoutControls_append hq, withoutControls_append hq,
            leaves_append_iff hq, ih _ hlt front' rfl]
          simp
        · -- The sequence reaches into the tail, which is then too long to be left.
          refine iff_of_false (fun he => ?_) fun hleaves => ht (hleaves [] q t hq hs)
          have := congrArg List.length he
          rw [List.length_append] at this
          omega

end CloudConf.Text
