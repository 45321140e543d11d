import CloudConf.Text.Literal
import Mathlib.Tactic.Common

/-! # Literals delimit themselves -/
namespace CloudConf.Text

theorem isPrintable_hexDigit : ∀ n < 16, isPrintable (hexDigit n) := by decide

theorem isPrintable_of_mem_hexFixed {width n : Nat} {c : Char} (h : c ∈ hexFixed width n) :
    isPrintable c := by
  induction width generalizing n with
  | zero => cases h
  | succ width ih =>
    rcases List.mem_append.1 h with h | h
    · exact ih h
    · obtain rfl := List.mem_singleton.1 h
      exact isPrintable_hexDigit _ (Nat.mod_lt _ (by decide))

theorem isPrintable_escapeName {c name : Char} (h : escapeName? c = some name) :
    isPrintable name := by
  unfold escapeName? at h
  split at h <;> cases h <;> decide

namespace Literal

private theorem isPrintable_of_mem_escape {letter d : Char} {digits : List Char}
    (hl : isPrintable letter) (hd : ∀ c ∈ digits, isPrintable c) (h : d ∈ '\\' :: letter :: digits) :
    isPrintable d := by
  rcases List.mem_cons.1 h with rfl | h
  · decide
  · rcases List.mem_cons.1 h with rfl | h
    · exact hl
    · exact hd d h

theorem isPrintable_of_mem_encodeChar {c d : Char} (h : d ∈ encodeChar c) : isPrintable d := by
  have hx : ∀ {width n : Nat}, ∀ e ∈ hexFixed width n, isPrintable e :=
    fun e he => isPrintable_of_mem_hexFixed he
  unfold encodeChar at h
  split at h
  · exact isPrintable_of_mem_escape (isPrintable_escapeName ‹_›) (by simp) h
  · split at h
    · obtain rfl := List.mem_singleton.1 h
      assumption
    · split at h
      · exact isPrintable_of_mem_escape (by decide) hx h
      · split at h
        · exact isPrintable_of_mem_escape (by decide) hx h
        · exact isPrintable_of_mem_escape (by decide) hx h

/-- Whatever a text holds, its literal is printable. -/
theorem isPrintable_of_mem_encode {s : List Char} {c : Char} (h : c ∈ encode s) :
    isPrintable c := by
  have hq : isPrintable '"' := by decide
  rcases List.mem_cons.1 h with rfl | h
  · exact hq
  · rcases List.mem_append.1 h with h | h
    · obtain ⟨d, -, hd⟩ := List.mem_flatMap.1 h
      exact isPrintable_of_mem_encodeChar hd
    · obtain rfl := List.mem_singleton.1 h
      exact hq

theorem read_encode_append (s rest : List Char) : read (encode s ++ rest) = some (s, rest) := by
  have h := readBody_flatMap_encodeChar s rest
  simpa [encode, read] using h

theorem encode_append_inj {s t rest rest' : List Char} (h : encode s ++ rest = encode t ++ rest') :
    s = t ∧ rest = rest' := by
  have hs := read_encode_append s rest
  rw [h, read_encode_append t rest'] at hs
  have hp := Option.some.inj hs
  exact ⟨(congrArg Prod.fst hp).symm, (congrArg Prod.snd hp).symm⟩

theorem readBody_escape {name c : Char} (t : List Char) (h : namedEscape? name = some c) :
    readBody ('\\' :: name :: t) = (readBody t).map (push c) := by
  unfold namedEscape? at h
  split at h <;> cases h <;> rfl

/-- What is read behind one character does not depend on what follows the literal. -/
private theorem bind_push_append {o : Option Char} {r t u v : List Char}
    (ih : ∀ {u v}, readBody r = some (u, v) → readBody (r ++ t) = some (u, v ++ t))
    (h : (o.bind fun c => (readBody r).map (push c)) = some (u, v)) :
    (o.bind fun c => (readBody (r ++ t)).map (push c)) = some (u, v ++ t) := by
  obtain ⟨c, rfl, hm⟩ := Option.bind_eq_some_iff.1 h
  obtain ⟨⟨u', v'⟩, hr, he⟩ := Option.map_eq_some_iff.1 hm
  cases he
  rw [Option.bind_some, ih hr]
  rfl

/-- A literal that has been closed is read alike whatever is appended. -/
theorem readBody_append {a u v : List Char} (t : List Char) (h : readBody a = some (u, v)) :
    readBody (a ++ t) = some (u, v ++ t) := by
  fun_induction readBody a generalizing u v with
  | case1 => contradiction
  | case2 rest =>
    cases h
    rfl
  | case3 a b rest ih => exact bind_push_append ih h
  | case4 a b c d rest ih => exact bind_push_append ih h
  | case5 a b c d e f g h rest ih => exact bind_push_append ih ‹_›
  | case6 name rest hx hu hU ih =>
    have hn := bind_push_append ih h
    obtain ⟨c, hc, -⟩ := Option.bind_eq_some_iff.1 h
    rw [hc, Option.bind_some] at hn
    rw [List.cons_append, List.cons_append, readBody_escape _ hc, hn]
  | case7 => contradiction
  | case8 c rest hq hx hu hU hname hend ih =>
    have hb : c ≠ '\\' := by
      rintro rfl
      cases rest with
      | nil => exact hend rfl rfl
      | cons name rest => exact hname name rest rfl rfl
    have hp := bind_push_append (o := some c) ih h
    rw [List.cons_append, readBody_plain _ hq hb]
    exact hp

theorem read_append {a u v : List Char} (t : List Char) (h : read a = some (u, v)) :
    read (a ++ t) = some (u, v ++ t) := by
  unfold read at h
  split at h
  · exact readBody_append t h
  · contradiction

theorem read_eq_none_of_append {s a t : List Char} (h : a ++ t = encode s) (ht : t ≠ []) :
    read a = none := by
  by_contra hn
  obtain ⟨⟨u, v⟩, hr⟩ := Option.ne_none_iff_exists'.1 hn
  have hs := read_append t hr
  have he := read_encode_append s []
  rw [List.append_nil, ← h, hs] at he
  have hv := congrArg Prod.snd (Option.some.inj he)
  exact ht (List.append_eq_nil_iff.1 hv).2

/-- A literal is read as soon as it is complete, and no sooner. -/
theorem isSome_read_take_iff (s : List Char) (n : Nat) :
    (read ((encode s).take n)).isSome ↔ (encode s).length ≤ n := by
  constructor
  · intro h
    by_contra hn
    have ht : (encode s).drop n ≠ [] := by
      simp only [ne_eq, List.drop_eq_nil_iff]
      exact hn
    rw [read_eq_none_of_append (List.take_append_drop n _) ht] at h
    contradiction
  · intro h
    have hr := read_encode_append s []
    rw [List.append_nil] at hr
    rw [List.take_of_length_le h, hr]
    rfl

end Literal

theorem toList_quote (s : String) : (quote s).toList = Literal.encode s.toList :=
  String.toList_ofList

theorem quote_append_inj {s t rest rest' : String} (h : quote s ++ rest = quote t ++ rest') :
    s = t ∧ rest = rest' := by
  have hl := congrArg String.toList h
  rw [String.toList_append, String.toList_append, toList_quote, toList_quote] at hl
  obtain ⟨hs, hr⟩ := Literal.encode_append_inj hl
  exact ⟨String.toList_inj.1 hs, String.toList_inj.1 hr⟩

/-- A quoted text is read back whatever follows it. So different texts have different literals, a
literal and what follows it determine each other's ends, and nothing short of the whole literal
is read. -/
theorem quote_selfDelimiting :
    (∀ s rest : String,
      Literal.read (quote s ++ rest).toList = some (s.toList, rest.toList)) ∧
    Function.Injective quote ∧
    (∀ s t rest rest' : String, quote s ++ rest = quote t ++ rest' ↔ s = t ∧ rest = rest') ∧
    ∀ (s : String) (n : Nat),
      (Literal.read ((quote s).toList.take n)).isSome ↔ (quote s).length ≤ n := by
  refine ⟨?_, ?_, ?_, ?_⟩
  · intro s rest
    rw [String.toList_append, toList_quote]
    exact Literal.read_encode_append _ _
  · intro s t h
    exact (quote_append_inj (congrArg (· ++ "") h)).1
  · intro s t rest rest'
    constructor
    · exact quote_append_inj
    · rintro ⟨rfl, rfl⟩
      rfl
  · intro s n
    rw [← String.length_toList, toList_quote]
    exact Literal.isSome_read_take_iff _ _

end CloudConf.Text
