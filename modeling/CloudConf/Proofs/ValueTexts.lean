import CloudConf.Datum
import CloudConf.Proofs.ActionRuns
import Mathlib.Tactic.Common

/-! # What stands for a value in a text -/
namespace CloudConf.Datum

mutual

/-- The text that stands for a value inside another one. -/
inductive Shows : Datum → String → Prop
  | null : Shows .null "None"
  | true : Shows (.bool true) "True"
  | false : Shows (.bool false) "False"
  | int (n : Int) (h : (toString n.natAbs).length ≤ 4300) : Shows (.int n) (toString n)
  | float (x : Floating) : Shows (.float x) x.text
  | text (s : String) : Shows (.text s) (Text.shown s)
  | list {items : List Datum} {texts : List String} (h : ShowsItems items texts) :
      Shows (.list items) ("[" ++ ", ".intercalate texts ++ "]")
  | mapping {entries : List (String × Datum)} {texts : List String}
      (h : ShowsEntries entries texts) :
      Shows (.mapping entries) ("\x7b" ++ ", ".intercalate texts ++ "\x7d")

inductive ShowsItems : List Datum → List String → Prop
  | nil : ShowsItems [] []
  | cons {item : Datum} {items : List Datum} {text : String} {texts : List String}
      (h : Shows item text) (hs : ShowsItems items texts) :
      ShowsItems (item :: items) (text :: texts)

inductive ShowsEntries : List (String × Datum) → List String → Prop
  | nil : ShowsEntries [] []
  | cons {value : Datum} {entries : List (String × Datum)} {text : String} {texts : List String}
      (key : String) (h : Shows value text) (hs : ShowsEntries entries texts) :
      ShowsEntries ((key, value) :: entries) ((Text.shown key ++ ": " ++ text) :: texts)

end

/-- The text that a value is converted to: that of a text is itself. -/
inductive Tells : Datum → String → Prop
  | text (s : String) : Tells (.text s) s
  | other {d : Datum} {text : String} (hd : ∀ s, d ≠ .text s) (h : Shows d text) : Tells d text

/-- Whether a value is set: everything is but nothing at all and the empty text. -/
def isSet : Datum → Bool
  | null => false
  | text s => s != ""
  | _ => true

/-- What is told of an entry: the text of its value if it is there and set. -/
inductive Told : Option Datum → Option String → Prop
  | unset {entry : Option Datum} (h : ∀ d ∈ entry, d.isSet = false) : Told entry none
  | set {d : Datum} {text : String} (hd : d.isSet) (h : Tells d text) : Told (some d) (some text)

/-- A whole number with more digits than are ever shown, or a value that holds one. -/
inductive Overlong : Datum → Prop
  | int (n : Int) (h : 4300 < (toString n.natAbs).length) : Overlong (.int n)
  | item {items : List Datum} {d : Datum} (hm : d ∈ items) (h : Overlong d) :
      Overlong (.list items)
  | value {entries : List (String × Datum)} {key : String} {d : Datum}
      (hm : (key, d) ∈ entries) (h : Overlong d) : Overlong (.mapping entries)

theorem ofInt_eq_ok_iff {n : Int} {t : String} :
    Text.ofInt n = .ok t ↔ (toString n.natAbs).length ≤ 4300 ∧ t = toString n := by
  unfold Text.ofInt Text.maxDecimalDigits
  split
  · exact ⟨nofun, fun ⟨h, _⟩ => absurd h (by omega)⟩
  · exact ⟨fun h => ⟨by omega, (Except.ok.inj h).symm⟩, fun ⟨_, h⟩ => h ▸ rfl⟩

mutual

theorem nested_eq_ok_iff (d : Datum) (t : String) : d.nested = .ok t ↔ Shows d t := by
  cases d with
  | null => exact ⟨fun h => Except.ok.inj h ▸ .null, fun h => by cases h; rfl⟩
  | bool b =>
    cases b with
    | true => exact ⟨fun h => Except.ok.inj h ▸ .true, fun h => by cases h; rfl⟩
    | false => exact ⟨fun h => Except.ok.inj h ▸ .false, fun h => by cases h; rfl⟩
  | int n =>
    rw [nested, ofInt_eq_ok_iff]
    exact ⟨fun ⟨h, ht⟩ => ht ▸ .int n h, fun h => by cases h with | int _ h => exact ⟨h, rfl⟩⟩
  | float x => exact ⟨fun h => Except.ok.inj h ▸ .float x, fun h => by cases h; rfl⟩
  | text s => exact ⟨fun h => Except.ok.inj h ▸ .text s, fun h => by cases h; rfl⟩
  | list items =>
    rw [nested, except_bind_eq_ok_iff]
    constructor
    · rintro ⟨texts, h, ht⟩
      exact except_pure_eq_ok_iff.1 ht ▸ .list ((nestedItems_eq_ok_iff items texts).1 h)
    · rintro (_ | _ | _ | _ | _ | _ | h)
      exact ⟨_, (nestedItems_eq_ok_iff items _).2 h, rfl⟩
  | mapping entries =>
    rw [nested, except_bind_eq_ok_iff]
    constructor
    · rintro ⟨texts, h, ht⟩
      exact except_pure_eq_ok_iff.1 ht ▸ .mapping ((nestedEntries_eq_ok_iff entries texts).1 h)
    · rintro (_ | _ | _ | _ | _ | _ | _ | h)
      exact ⟨_, (nestedEntries_eq_ok_iff entries _).2 h, rfl⟩

theorem nestedItems_eq_ok_iff (items : List Datum) (ts : List String) :
    nestedItems items = .ok ts ↔ ShowsItems items ts := by
  cases items with
  | nil => exact ⟨fun h => Except.ok.inj h ▸ .nil, fun h => by cases h; rfl⟩
  | cons item items =>
    simp only [nestedItems, except_bind_eq_ok_iff, except_pure_eq_ok_iff]
    constructor
    · rintro ⟨text, h, texts, hs, rfl⟩
      exact .cons ((nested_eq_ok_iff item text).1 h) ((nestedItems_eq_ok_iff items texts).1 hs)
    · rintro (_ | ⟨h, hs⟩)
      exact ⟨_, (nested_eq_ok_iff item _).2 h, _, (nestedItems_eq_ok_iff items _).2 hs, rfl⟩

theorem nestedEntries_eq_ok_iff (entries : List (String × Datum)) (ts : List String) :
    nestedEntries entries = .ok ts ↔ ShowsEntries entries ts := by
  cases entries with
  | nil => exact ⟨fun h => Except.ok.inj h ▸ .nil, fun h => by cases h; rfl⟩
  | cons entry entries =>
    obtain ⟨key, value⟩ := entry
    simp only [nestedEntries, except_bind_eq_ok_iff, except_pure_eq_ok_iff]
    constructor
    · rintro ⟨text, h, texts, hs, rfl⟩
      exact .cons key ((nested_eq_ok_iff value text).1 h)
        ((nestedEntries_eq_ok_iff entries texts).1 hs)
    · rintro (_ | ⟨_, h, hs⟩)
      exact ⟨_, (nested_eq_ok_iff value _).2 h, _, (nestedEntries_eq_ok_iff entries _).2 hs, rfl⟩

end

mutual

theorem exists_nested_eq_ok_iff (d : Datum) : (∃ t, d.nested = .ok t) ↔ ¬ d.Overlong := by
  cases d with
  | int n =>
    simp only [nested, ofInt_eq_ok_iff, exists_and_left, exists_eq, and_true]
    exact ⟨fun h ho => by cases ho with | int _ ho => omega, fun h => by
      by_contra hn
      exact h (.int n (by omega))⟩
  | list items =>
    simp only [nested, except_bind_eq_ok_iff, except_pure_eq_ok_iff]
    have hitems := exists_nestedItems_eq_ok_iff items
    constructor
    · rintro ⟨_, texts, h, -⟩ (_ | ⟨hm, ho⟩)
      exact hitems.1 ⟨texts, h⟩ _ hm ho
    · intro h
      obtain ⟨texts, ht⟩ := hitems.2 fun d hm ho => h (.item hm ho)
      exact ⟨_, texts, ht, rfl⟩
  | mapping entries =>
    simp only [nested, except_bind_eq_ok_iff, except_pure_eq_ok_iff]
    have hentries := exists_nestedEntries_eq_ok_iff entries
    constructor
    · rintro ⟨_, texts, h, -⟩ (_ | _ | ⟨hm, ho⟩)
      exact hentries.1 ⟨texts, h⟩ _ hm ho
    · intro h
      obtain ⟨texts, ht⟩ := hentries.2 fun e hm ho => h (.value hm ho)
      exact ⟨_, texts, ht, rfl⟩
  | bool b => cases b <;> exact ⟨fun _ => nofun, fun _ => ⟨_, rfl⟩⟩
  | _ => exact ⟨fun _ => nofun, fun _ => ⟨_, rfl⟩⟩

theorem exists_nestedItems_eq_ok_iff (items : List Datum) :
    (∃ ts, nestedItems items = .ok ts) ↔ ∀ d ∈ items, ¬ d.Overlong := by
  cases items with
  | nil => exact ⟨fun _ => nofun, fun _ => ⟨[], rfl⟩⟩
  | cons item items =>
    rw [List.forall_mem_cons, ← exists_nested_eq_ok_iff item,
      ← exists_nestedItems_eq_ok_iff items]
    simp only [nestedItems, except_bind_eq_ok_iff, except_pure_eq_ok_iff]
    constructor
    · rintro ⟨_, text, h, texts, hs, -⟩
      exact ⟨⟨text, h⟩, texts, hs⟩
    · rintro ⟨⟨text, h⟩, texts, hs⟩
      exact ⟨_, text, h, texts, hs, rfl⟩

theorem exists_nestedEntries_eq_ok_iff (entries : List (String × Datum)) :
    (∃ ts, nestedEntries entries = .ok ts) ↔ ∀ e ∈ entries, ¬ e.2.Overlong := by
  cases entries with
  | nil => exact ⟨fun _ => nofun, fun _ => ⟨[], rfl⟩⟩
  | cons entry entries =>
    obtain ⟨key, value⟩ := entry
    rw [List.forall_mem_cons, ← exists_nested_eq_ok_iff value,
      ← exists_nestedEntries_eq_ok_iff entries]
    simp only [nestedEntries, except_bind_eq_ok_iff, except_pure_eq_ok_iff]
    constructor
    · rintro ⟨_, text, h, texts, hs, -⟩
      exact ⟨⟨text, h⟩, texts, hs⟩
    · rintro ⟨⟨text, h⟩, texts, hs⟩
      exact ⟨_, text, h, texts, hs, rfl⟩

end

theorem exists_render_eq_ok_iff (d : Datum) : (∃ t, d.render = .ok t) ↔ ¬ d.Overlong := by
  cases d with
  | text s => exact ⟨fun _ => nofun, fun _ => ⟨s, rfl⟩⟩
  | _ => exact exists_nested_eq_ok_iff _

theorem Shows.ne_empty {d : Datum} {t : String} (h : Shows d t) : t ≠ "" := by
  cases h with
  | int n =>
    cases n with
    | ofNat n => exact Nat.repr_ne_empty
    | negSucc n => simp [toString, Int.repr]
  | float x => exact x.text_ne
  | text s => simp [Text.shown, Text.Display.showChars]
  | _ => simp

theorem Tells.ne_empty {d : Datum} {t : String} (h : Tells d t) (hd : d.isSet) : t ≠ "" := by
  cases h with
  | text s => simpa [isSet] using hd
  | other _ h => exact h.ne_empty

theorem Told.ne_empty {entry : Option Datum} {told : Option String} (h : Told entry told) :
    ∀ v ∈ told, v ≠ "" := by
  cases h with
  | unset => exact nofun
  | set hd h =>
    rintro v ⟨⟩
    exact h.ne_empty hd

theorem exists_setting_eq_ok_iff (entry : Option Datum) :
    (∃ t, setting entry = .ok t) ↔ ∀ d ∈ entry, ¬ d.Overlong := by
  cases entry with
  | none => exact ⟨fun _ => nofun, fun _ => ⟨"", rfl⟩⟩
  | some d =>
    have hsome : (∀ e ∈ some d, ¬ e.Overlong) ↔ ¬ d.Overlong := by simp
    rw [hsome, ← exists_render_eq_ok_iff]
    cases d with
    | null => exact ⟨fun _ => ⟨_, rfl⟩, fun _ => ⟨"", rfl⟩⟩
    | _ => rfl

end CloudConf.Datum
