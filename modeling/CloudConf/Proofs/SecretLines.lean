import CloudConf.Proofs.SecretReading
import CloudConf.Text.Comment

/-! # No value ends its line or begins a comment -/
namespace CloudConf

namespace Text

/-! ## Wherever a line may end, no printable character stands -/

theorem isPrintable_eq_false_of_isLineEnd {c : Char} (h : isLineEnd c = true) :
    isPrintable c = false := by
  have hends : ∀ n ∈ [0x0A, 0x0B, 0x0C, 0x0D, 0x1C, 0x1D, 0x1E, 0x85, 0x2028, 0x2029],
      inRanges unprintable n = true := by decide +kernel
  have hc : c.toNat ∈ [0x0A, 0x0B, 0x0C, 0x0D, 0x1C, 0x1D, 0x1E, 0x85, 0x2028, 0x2029] := by
    simp only [isLineEnd, Bool.or_eq_true, Bool.and_eq_true, decide_eq_true_eq, beq_iff_eq] at h
    simp only [List.mem_cons, List.not_mem_nil, or_false]
    omega
  rw [isPrintable, hends _ hc]
  rfl

theorem looseLines_append {line : List Char} (h : ∀ c ∈ line, isLineEnd c = false)
    (rest : List Char) : looseLines (line ++ '\n' :: rest) = line :: looseLines rest := by
  induction line with
  | nil =>
    rw [List.nil_append, looseLines, if_pos (by decide)]
    exact nofun
  | cons c line ih =>
    have hc : isLineEnd c = false := h c List.mem_cons_self
    have hr : c ≠ '\r' := by
      rintro rfl
      cases hc
    rw [List.cons_append, looseLines, if_neg (by simp [hc]),
      ih fun d hd => h d (List.mem_cons_of_mem c hd)]
    rintro _ rfl
    exact absurd rfl hr

theorem looseLines_unlines {ls : List (List Char)}
    (h : ∀ line ∈ ls, ∀ c ∈ line, isLineEnd c = false) : looseLines (unlines ls) = ls := by
  induction ls with
  | nil => rfl
  | cons line ls ih =>
    have hcons : unlines (line :: ls) = line ++ '\n' :: unlines ls := by
      rw [unlines, List.flatMap_cons, List.append_assoc]
      rfl
    rw [hcons, looseLines_append (h line List.mem_cons_self),
      ih fun l hl => h l (List.mem_cons_of_mem line hl)]

/-! ## Scanning for marks outside of quotes -/

/-- A scan gets from one state to another over a text in which no mark stands outside of quotes. -/
inductive Passes (mark : Char) : QuoteState → List Char → QuoteState → Prop
  | nil (s : QuoteState) : Passes mark s [] s
  | cons {s s' : QuoteState} {c : Char} {t : List Char} (hc : s = .outside → c ≠ mark)
      (ht : Passes mark (s.next c) t s') : Passes mark s (c :: t) s'

variable {mark : Char} {s s' s'' : QuoteState} {t u : List Char}

theorem Passes.append (h : Passes mark s t s') (h' : Passes mark s' u s'') :
    Passes mark s (t ++ u) s'' := by
  induction h with
  | nil => exact h'
  | cons hc _ ih => exact .cons hc (ih h')

theorem Passes.after (h : Passes mark s t s') : s.after t = s' := by
  induction h with
  | nil => rfl
  | cons _ _ ih => exact ih

theorem Passes.beforeMark? (h : Passes mark s t s') : beforeMark? mark s t = none := by
  induction h with
  | nil => rfl
  | cons hc _ ih => rw [Text.beforeMark?, if_neg fun h => hc h.1 h.2, ih, Option.map_none]

theorem Passes.uncommented (h : Passes mark .outside t s') : uncommented mark t = t := by
  rw [Text.uncommented, h.beforeMark?]

theorem passes_plain (hs : s = .inside ∨ s = .outside ∧ mark ∉ t) (hb : '\\' ∉ t)
    (hq : '"' ∉ t) : Passes mark s t s := by
  induction t with
  | nil => exact .nil s
  | cons c t ih =>
    simp only [List.mem_cons, not_or] at hb hq hs
    have hnext : s.next c = s := by
      rcases hs with rfl | ⟨rfl, -⟩
      · simp [QuoteState.next, Ne.symm hb.1, Ne.symm hq.1]
      · simp [QuoteState.next, Ne.symm hb.1, Ne.symm hq.1]
    refine .cons ?_ ?_
    · rcases hs with rfl | ⟨-, hm, -⟩
      · exact nofun
      · exact fun _ => Ne.symm hm
    · rw [hnext]
      exact ih (hs.imp_right fun h => ⟨h.1, h.2.2⟩) hb.2 hq.2

/-- Printable characters, at none of which a scan has anything to do. -/
def isPlain (t : List Char) : Bool :=
  t.all fun c => isPrintable c && c ∉ ['\\', '"', '#', ';']

theorem isPrintable_of_isPlain {c : Char} (h : isPlain t) (hc : c ∈ t) : isPrintable c :=
  (Bool.and_eq_true_iff.1 (List.all_eq_true.1 h c hc)).1

theorem notMem_of_isPlain {c : Char} (h : isPlain t) (hc : c ∈ ['\\', '"', '#', ';']) : c ∉ t := by
  intro hm
  exact of_decide_eq_true (Bool.and_eq_true_iff.1 (List.all_eq_true.1 h c hm)).2 hc

theorem passes_of_isPlain (h : isPlain t) (hm : mark ∈ ['#', ';']) :
    Passes mark .outside t .outside := by
  have hmark : mark ∈ ['\\', '"', '#', ';'] := List.mem_cons_of_mem _ (List.mem_cons_of_mem _ hm)
  exact passes_plain (.inr ⟨rfl, notMem_of_isPlain h hmark⟩) (notMem_of_isPlain h (by decide))
    (notMem_of_isPlain h (by decide))

/-- An escape leads back into the quotes, whatever its letter is. -/
theorem passes_escape (letter : Char) (hb : '\\' ∉ t) (hq : '"' ∉ t) :
    Passes mark .inside ('\\' :: letter :: t) .inside :=
  .cons nofun <| .cons nofun <| passes_plain (.inl rfl) hb hq

theorem notMem_hexFixed (width n : Nat) : '\\' ∉ hexFixed width n ∧ '"' ∉ hexFixed width n := by
  have hdigit : ∀ n < 16, hexDigit n ≠ '\\' ∧ hexDigit n ≠ '"' := by decide
  induction width generalizing n with
  | zero => exact ⟨List.not_mem_nil, List.not_mem_nil⟩
  | succ width ih =>
    obtain ⟨hb, hq⟩ := hdigit (n % 16) (Nat.mod_lt _ (by decide))
    obtain ⟨ihb, ihq⟩ := ih (n / 16)
    simp [hexFixed, ihb, ihq, Ne.symm hb, Ne.symm hq]

namespace Literal

/-- No character gets a scan out of the quotes. -/
theorem passes_encodeChar (mark c : Char) : Passes mark .inside (encodeChar c) .inside := by
  have hhex (letter : Char) (width : Nat) :
      Passes mark .inside ('\\' :: letter :: hexFixed width c.toNat) .inside :=
    passes_escape letter (notMem_hexFixed _ _).1 (notMem_hexFixed _ _).2
  unfold encodeChar
  split
  · exact passes_escape _ List.not_mem_nil List.not_mem_nil
  · rename_i hname
    split
    · refine passes_plain (.inl rfl) ?_ ?_
      · rw [List.mem_singleton]
        rintro rfl
        cases hname
      · rw [List.mem_singleton]
        rintro rfl
        cases hname
    · split
      · exact hhex 'x' 2
      · split
        · exact hhex 'u' 4
        · exact hhex 'U' 8

theorem passes_flatMap_encodeChar (mark : Char) (s : List Char) :
    Passes mark .inside (s.flatMap encodeChar) .inside := by
  induction s with
  | nil => exact .nil _
  | cons c s ih =>
    rw [List.flatMap_cons]
    exact (passes_encodeChar mark c).append ih

/-- A scan is behind the quotes when it is behind a literal, and not before. -/
theorem passes_encode (h : mark ≠ '"') (s : List Char) :
    Passes mark .outside (encode s) .outside :=
  .cons (fun _ => h.symm) <| (passes_flatMap_encodeChar mark s).append <| .cons nofun <| .nil _

end Literal

end Text

namespace Credentials

variable {p : Profile} {line : String}

/-- What a literal stands behind in its line. -/
def opening (key : String) : List Char := key.toList ++ [' ', '=', ' ']

theorem toList_fieldLine_eq_opening (field : String × String) :
    (fieldLine field).toList = opening field.1 ++ Text.Literal.encode field.2.toList := by
  rw [toList_fieldLine, opening, List.append_assoc]
  rfl

theorem isPlain_opening {field : String × String} (h : field ∈ fields p) :
    Text.isPlain (opening field.1) := by
  have hk : field.1 ∈ (allFields p).map (·.1) :=
    List.mem_map_of_mem (List.mem_filter.1 h).1
  rw [keys_allFields] at hk
  have hall : ∀ key ∈ ["auth-url", "username", "password", "tenant-id", "tenant-name",
      "domain-id", "domain-name", "region"], Text.isPlain (opening key) := by decide
  exact hall _ hk

theorem mem_lines_cases (h : line ∈ lines p) :
    Text.isPlain line.toList ∨ ∃ field ∈ fields p, line = fieldLine field := by
  have hfixed : ∀ line ∈ [globalHeader, caFileLine], Text.isPlain line.toList := by decide
  rcases List.mem_cons.1 h with rfl | h
  · exact .inl (hfixed _ List.mem_cons_self)
  · rcases List.mem_append.1 h with h | h
    · obtain ⟨field, hf, rfl⟩ := List.mem_map.1 h
      exact .inr ⟨field, hf, rfl⟩
    · split at h
      · cases h
      · exact .inl (hfixed _ (List.mem_cons_of_mem _ h))

theorem isPrintable_of_mem_lines (h : line ∈ lines p) : ∀ c ∈ line.toList, Text.isPrintable c := by
  intro c hc
  rcases mem_lines_cases h with h | ⟨field, hf, rfl⟩
  · exact Text.isPrintable_of_isPlain h hc
  · rw [toList_fieldLine_eq_opening] at hc
    rcases List.mem_append.1 hc with hc | hc
    · exact Text.isPrintable_of_isPlain (isPlain_opening hf) hc
    · exact Text.Literal.isPrintable_of_mem_encode hc

/-- A scan gets over every line, and is outside of quotes again at its end. -/
theorem passes_of_mem_lines {mark : Char} (hm : mark ∈ ['#', ';']) (h : line ∈ lines p) :
    Text.Passes mark .outside line.toList .outside := by
  rcases mem_lines_cases h with h | ⟨field, hf, rfl⟩
  · exact Text.passes_of_isPlain h hm
  · have hne : mark ≠ '"' := by
      rintro rfl
      revert hm
      decide
    rw [toList_fieldLine_eq_opening]
    exact (Text.passes_of_isPlain (isPlain_opening hf) hm).append (Text.Literal.passes_encode hne _)

theorem looseLines_render (p : Profile) :
    Text.looseLines (render p).toList = (lines p).map String.toList := by
  rw [render, String.toList_ofList]
  apply Text.looseLines_unlines
  intro line hl c hc
  obtain ⟨l, hm, rfl⟩ := List.mem_map.1 hl
  by_contra hend
  have hp := isPrintable_of_mem_lines hm c hc
  rw [Text.isPrintable_eq_false_of_isLineEnd (by simpa using hend)] at hp
  cases hp

/-- The bytes of a secret are read as the header, one line for each setting that is not empty, and
one for the file of a CA if there is any. All that stands in a line is printable, so whoever ends
lines wherever they may end finds the same ones. Neither of the marks that begin a comment stands
outside of quotes, and no line leaves its quotes open. -/
theorem secret_keepsLines (p : Profile) :
    let values := [("auth-url", p.authUrl), ("username", p.username), ("password", p.password),
      ("tenant-id", p.projectId), ("tenant-name", p.projectName),
      ("domain-id", if p.domainId = "" then p.userDomainId else p.domainId),
      ("domain-name", if p.domainName = "" then p.userDomainName else p.domainName),
      ("region", p.regionName)].filter (·.2 ≠ "")
    let written := ("[Global]" :: values.map (fun field => field.1 ++ " = " ++ Text.quote field.2) ++
      if p.caCertFile = "" then [] else ["ca-file = " ++ caBundleMount]).map String.toList
    ∃ secret : String, String.fromUTF8? (render p).toUTF8 = some secret ∧
      secret.toList = Text.unlines written ∧
      (∀ line ∈ written, ∀ c ∈ line, Text.isPrintable c) ∧
      Text.lines? secret.toList = some written ∧ Text.looseLines secret.toList = written ∧
      ∀ line ∈ written, ∀ mark ∈ ['#', ';'],
        Text.uncommented mark line = line ∧ Text.QuoteState.outside.after line = .outside := by
  intro values written
  have hwritten : written = (lines p).map String.toList := rfl
  rw [hwritten]
  refine ⟨render p, Text.Utf8.fromUTF8?_toUTF8 _, String.toList_ofList, ?_, lines?_render p,
    looseLines_render p, ?_⟩
  · intro line hl
    obtain ⟨l, hm, rfl⟩ := List.mem_map.1 hl
    exact isPrintable_of_mem_lines hm
  · intro line hl mark hm
    obtain ⟨l, hml, rfl⟩ := List.mem_map.1 hl
    have hpasses := passes_of_mem_lines hm hml
    exact ⟨hpasses.uncommented, hpasses.after⟩

end Credentials
end CloudConf
