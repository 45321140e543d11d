import CloudConf.Yaml.Document
import Mathlib.Tactic.SplitIfs

/-! # What keeps the tokens of a stream from being read -/
namespace CloudConf

/-- A result: a value of which something holds, or a failure of which something else does. -/
inductive Yields {α : Type} (P : Failure → Prop) (Q : α → Prop) : Except Failure α → Prop
  | ok {v : α} (h : Q v) : Yields P Q (.ok v)
  | error {f : Failure} (h : P f) : Yields P Q (.error f)

namespace Yields

variable {α β : Type} {P : Failure → Prop} {Q : α → Prop} {R : β → Prop} {x : Except Failure α}

theorem bind {k : α → Except Failure β} (hx : Yields P Q x) (hk : ∀ v, Q v → Yields P R (k v)) :
    Yields P R (x >>= k) := by
  cases hx with
  | ok h => exact hk _ h
  | error h => exact .error h

/-- What comes behind a test that may fail. -/
theorem check {c : Prop} [Decidable c] {f : Failure} {k : Unit → Except Failure α} (hf : P f)
    (hk : Yields P Q (k ())) : Yields P Q (if c then throw f >>= k else k ()) := by
  split
  · exact .error hf
  · exact hk

theorem of_error (h : ∀ f, x = .error f → P f) : Yields P (fun _ => True) x := by
  cases x with
  | ok v => exact .ok trivial
  | error f => exact .error (h f rfl)

theorem failure (hx : Yields P Q x) {f : Failure} (h : x = .error f) : P f := by
  cases hx with
  | ok _ => cases h
  | error hf =>
    cases h
    exact hf

theorem foldlM {f : β → α → Except Failure β}
    (h : ∀ b a, Yields P (fun _ => True) (f b a)) (l : List α) (b : β) :
    Yields P (fun _ => True) (l.foldlM f b) := by
  induction l generalizing b with
  | nil => exact .ok trivial
  | cons a l ih => exact (h b a).bind fun b _ => ih b

theorem forM {f : α → Except Failure Unit} (h : ∀ a, Yields P (fun _ => True) (f a))
    (l : List α) : Yields P (fun _ => True) (l.forM f) := by
  induction l with
  | nil => exact .ok trivial
  | cons a l ih => exact (h a).bind fun _ _ => ih

theorem mapM {f : α → Except Failure β} (h : ∀ a, Yields P (fun _ => True) (f a))
    (l : List α) : Yields P (fun _ => True) (l.mapM f) := by
  induction l with
  | nil => exact .ok trivial
  | cons a l ih =>
    rw [List.mapM_cons]
    exact (h a).bind fun _ _ => ih.bind fun _ _ => .ok trivial

theorem map {g : α → β} (hx : Yields P (fun _ => True) x) :
    Yields P (fun _ => True) (x.map g) := by
  cases hx with
  | ok _ => exact .ok trivial
  | error h => exact .error h

end Yields

namespace Yaml

/-- What keeps a stream from being read as a document. -/
inductive Fault (s : Stream) : Failure → Prop
  /-- It breaks the rules of YAML. -/
  | malformed : Fault s malformed
  /-- It breaks off. -/
  | stream {f : Failure} (h : s.fault = some f) : Fault s f
  /-- An escape stands for no character. -/
  | escape {n : Nat} {f : Failure} (h : Scalar.numbered n = .error f) : Fault s f
  /-- A number of a directive is too long. -/
  | number {digits : List Char} {f : Failure} (h : Text.decimal digits = .error f) : Fault s f
  /-- The text of a scalar is none of its tag. -/
  | scalar {tag : Tag} {text : WideText} {f : Failure} (h : Value.ofScalar tag text = .error f) :
      Fault s f
  /-- A mapping stands for a point in time. -/
  | noText : Fault s Document.noText
  /-- A mapping stands for itself. -/
  | endless : Fault s Document.endless

def Rest.Of (s : Stream) (r : Rest) : Prop := ∀ c ∈ r, ∀ f, c.fault = some f → Fault s f

/-- A reader of a stream leaves a part of it, or fails because of it. -/
abbrev Reads (s : Stream) {α : Type} (rest : α → Rest) : Except Failure α → Prop :=
  Yields (Fault s) fun v => (rest v).Of s

variable {s : Stream} {r r' : Rest} {c : Cell}

namespace Rest.Of

theorem mono (h : r.Of s) (hr : ∀ c ∈ r', c ∈ r) : r'.Of s := fun c hc => h c (hr c hc)

theorem nil : Rest.Of s [] := nofun

theorem tail (h : Rest.Of s (c :: r)) : r.Of s := h.mono fun _ => List.mem_cons_of_mem c

theorem drop (h : r.Of s) (n : Nat) : Rest.Of s (r.drop n) := h.mono fun _ => List.mem_of_mem_drop

theorem dropWhile (h : r.Of s) (p : Cell → Bool) : Rest.Of s (r.dropWhile p) :=
  h.mono (List.dropWhile_sublist p).subset

theorem fault (h : r.Of s) : Fault s r.fault := by
  unfold Rest.fault
  cases r with
  | nil => exact .malformed
  | cons c rest =>
    cases hf : c.fault with
    | none => simpa [fault?, hf] using Fault.malformed
    | some f => simpa [fault?, hf] using h c List.mem_cons_self f hf

theorem known (h : r.Of s) : Yields (Fault s) (fun _ => True) r.known := by
  unfold Rest.known
  cases r with
  | nil => exact .ok trivial
  | cons c rest =>
    cases hf : c.fault with
    | none => simpa [fault?, hf] using Yields.ok trivial
    | some f => simpa [fault?, hf] using Yields.error (h c List.mem_cons_self f hf)

theorem noDigit (h : r.Of s) : Fault s r.noDigit := (h.dropWhile _).fault

theorem spanChars (h : r.Of s) (p : Char → Bool) : (r.spanChars p).2.Of s := h.dropWhile _

theorem skipSpaces (h : r.Of s) : r.skipSpaces.Of s := h.dropWhile _

theorem skipComment (h : r.Of s) : r.skipComment.Of s := by
  unfold Rest.skipComment
  split
  · exact h.dropWhile _
  · exact h

theorem skipBreak (h : r.Of s) : r.skipBreak.Of s := by
  unfold Rest.skipBreak
  split
  · exact h
  · split
    · exact h.tail
    · exact h

theorem skipBlank (h : r.Of s) (inComment crossed : Bool) :
    (r.skipBlank inComment crossed).2.Of s := by
  fun_induction Rest.skipBlank inComment crossed r with
  | case1 => exact h
  | case2 _ _ _ _ _ ih => exact ih h.tail
  | case3 _ _ _ _ _ _ ih => exact ih h.tail
  | case4 _ _ _ _ _ _ _ ih => exact ih h.tail
  | case5 _ _ _ _ _ _ _ _ ih => exact ih h.tail
  | case6 => exact h

theorem finishLine (h : r.Of s) : Reads s id r.finishLine := by
  unfold Rest.finishLine
  have hline := h.skipSpaces.skipComment
  dsimp only
  split
  · exact .ok hline.skipBreak
  · exact .error hline.fault

end Rest.Of

theorem fault_of_limit? {n : Nat} {f : Failure} (h : s.limit? = some (n, f)) : Fault s f := by
  have hknown {v : Nat × Failure}
      (hv : (s.fault.map fun f => (Stream.pieceStart s.text.toList.length, f)) = some v) :
      Fault s v.2 := by
    obtain ⟨g, hg, rfl⟩ := Option.map_eq_some_iff.1 hv
    exact .stream hg
  have hclean {v : Nat × Failure} (hv : ((s.text.toList.findIdx? fun c => !isAllowed c).map
      fun n => (Stream.pieceStart n, malformed)) = some v) : Fault s v.2 := by
    obtain ⟨_, -, rfl⟩ := Option.map_eq_some_iff.1 hv
    exact .malformed
  unfold Stream.limit? at h
  dsimp only at h
  split at h
  · rename_i a b ha hb
    split at h
    · cases h
      exact hclean ha
    · cases h
      exact hknown hb
  · rename_i a ha hb
    cases h
    exact hclean ha
  · exact hknown h

theorem of_cellsFrom {fault : Option Failure} (hf : ∀ f, fault = some f → Fault s f)
    (cs : List Char) (index line column : Nat) : (cellsFrom fault index line column cs).Of s := by
  induction cs generalizing index line column with
  | nil =>
    intro c hc f h
    obtain rfl := List.mem_singleton.1 hc
    exact hf f h
  | cons c cs ih =>
    intro d hd f h
    rw [cellsFrom] at hd
    rcases List.mem_cons.1 hd with rfl | hd
    · cases h
    · split at hd
      · exact ih _ _ _ d hd f h
      · exact ih _ _ _ d hd f h

theorem of_cells (s : Stream) : (cells s).Of s := by
  unfold cells
  dsimp only
  split
  · refine of_cellsFrom ?_ _ _ _ _
    exact nofun
  · rename_i n f h
    refine of_cellsFrom (fun g hg => ?_) _ _ _ _
    cases hg
    exact fault_of_limit? h

namespace Token

/-- A token that breaks a stream off does so because of the stream. -/
def Of (s : Stream) (t : Token) : Prop := ∀ f, t = .broken f → Fault s f

theorem of_scalar (plain : Bool) (text : WideText) : (scalar plain text).Of s := nofun

theorem reads_name (h : r.Of s) : Reads s Prod.snd (name r) := by
  have hspan := h.spanChars isNameChar
  unfold name
  split
  · rename_i rest he
    rw [he] at hspan
    exact .error hspan.fault
  · rename_i cs rest _ he
    rw [he] at hspan
    exact .ok hspan

theorem reads_anchorName (h : r.Of s) : Reads s Prod.snd (anchorName r) := by
  unfold anchorName
  refine (reads_name h).bind fun ⟨n, rest⟩ hrest => ?_
  dsimp only
  split
  · exact .ok hrest
  · exact .error (Rest.Of.fault hrest)

theorem reads_percentBytes (h : r.Of s) : Reads s Prod.snd (percentBytes r) := by
  fun_induction percentBytes r with
  | case1 c a b rest hc => exact .ok h
  | case2 c a b rest hc n hn ih =>
    exact (ih h.tail.tail.tail).bind fun ⟨bytes, after⟩ hafter => .ok hafter
  | case3 c a b rest hc hn => exact .error h.tail.noDigit
  | case4 r _ hp => exact .error (h.drop 1).noDigit
  | case5 r _ hp => exact .ok h

theorem reads_uriFrom (fuel : Nat) (h : r.Of s) : Reads s Prod.snd (uriFrom fuel r) := by
  induction fuel generalizing r with
  | zero => exact .ok h
  | succ fuel ih =>
    rw [uriFrom]
    split
    · refine (reads_percentBytes h).bind fun ⟨bytes, rest⟩ hrest => ?_
      dsimp only
      split
      · exact (ih hrest).bind fun ⟨cs, after⟩ hafter => .ok hafter
      · exact .error (Rest.Of.fault hrest)
    · have hspan := h.spanChars isUriChar
      split
      · exact .ok h
      · rename_i cs rest _ he
        rw [he] at hspan
        exact (ih hspan).bind fun ⟨more, after⟩ hafter => .ok hafter

theorem reads_uri (h : r.Of s) : Reads s Prod.snd (uri r) := by
  unfold uri
  split
  · exact .error h.fault
  · exact (reads_uriFrom _ h).bind fun ⟨cs, rest⟩ hrest => .ok hrest

theorem reads_handle (h : r.Of s) : Reads s Prod.snd (handle r) := by
  unfold handle
  split
  · exact .error .malformed
  · rename_i first rest
    split
    · exact .error h.fault
    · split
      · exact .ok h.tail
      · have hspan := h.tail.spanChars isNameChar
        dsimp only
        split
        · exact .ok (hspan.drop 1)
        · exact .error hspan.fault

theorem reads_tagName (h : r.Of s) : Reads s Prod.snd (tagName r) := by
  unfold tagName
  extract_lets body finish
  have hbody : Rest.Of s body := h.drop 1
  have hfinish (found : TagName) {rest : Rest} (hrest : rest.Of s) :
      Reads s Prod.snd (pure (found, rest) >>= finish) := by
    change Reads s Prod.snd (if _ then _ else _)
    split
    · exact .ok hrest
    · exact .error hrest.fault
  split
  · refine (reads_uri (hbody.drop 1)).bind fun ⟨suffix, rest⟩ hrest => ?_
    exact .check (Rest.Of.fault hrest) (hfinish _ (Rest.Of.drop hrest 1))
  · split
    · exact hfinish _ hbody
    · have hspan := hbody.spanChars fun c => !isSpaceOrEnd c
      dsimp only
      split
      · refine (reads_handle h).bind fun ⟨handle, rest⟩ hrest => ?_
        exact (reads_uri hrest).bind fun ⟨suffix, rest⟩ hrest => hfinish _ hrest
      · refine hspan.known.bind fun _ _ => ?_
        exact (reads_uri hbody).bind fun ⟨suffix, rest⟩ hrest => hfinish _ hrest

theorem reads_number (h : r.Of s) : Reads s Prod.snd (number r) := by
  have hspan := h.spanChars Text.isDigit
  unfold number
  split
  · rename_i rest he
    rw [he] at hspan
    exact .error hspan.fault
  · rename_i digits rest _ he
    rw [he] at hspan
    refine hspan.known.bind fun _ _ => ?_
    exact (Yields.of_error fun f hf => Fault.number hf).bind fun _ _ => .ok hspan

theorem reads_directive (h : r.Of s) :
    Yields (Fault s) (fun v => v.1.Of s ∧ v.2.Of s) (directive r) := by
  unfold directive
  refine (reads_name h).bind fun ⟨n, rest⟩ hrest => ?_
  dsimp -zeta only
  extract_lets finish content
  have hfinish {t : Token} {rest : Rest} (ht : t.Of s) (hrest : rest.Of s) :
      Yields (Fault s) (fun v => v.1.Of s ∧ v.2.Of s) (pure (t, rest) >>= finish) :=
    hrest.finishLine.bind fun _ hafter => .ok ⟨ht, hafter⟩
  refine .check (Rest.Of.fault hrest) ?_
  dsimp only [content]
  split
  · refine (reads_number (Rest.Of.skipSpaces hrest)).bind fun ⟨major, rest⟩ hrest => ?_
    refine .check (Rest.Of.fault hrest) ?_
    refine (reads_number (Rest.Of.drop hrest 1)).bind fun ⟨_, rest⟩ hrest => ?_
    exact .check (Rest.Of.fault hrest) (hfinish (t := .version major) nofun hrest)
  · split
    · refine (reads_handle (Rest.Of.skipSpaces hrest)).bind fun ⟨handle, rest⟩ hrest => ?_
      refine .check (Rest.Of.fault hrest) ?_
      refine (reads_uri (Rest.Of.skipSpaces hrest)).bind fun ⟨expansion, rest⟩ hrest => ?_
      exact .check (Rest.Of.fault hrest) (hfinish (t := .tagHandle handle expansion) nofun hrest)
    · exact hfinish (t := .otherDirective) nofun (Rest.Of.spanChars hrest _)

end Token

namespace Scalar

theorem reads_numericEscape (width : Nat) (h : r.Of s) :
    Reads s Prod.snd (numericEscape width r) := by
  unfold numericEscape
  split
  · exact (Yields.of_error fun f hf => Fault.escape hf).bind fun _ _ => .ok (h.drop width)
  · exact .error h.noDigit

theorem reads_quotedLines (atLineStart : Bool) (h : r.Of s) :
    Reads s Prod.snd (quotedLines atLineStart r) := by
  fun_induction quotedLines atLineStart r with
  | case1 => exact .ok h
  | case2 _ c rest _ => exact .error (h.tail.drop 2).fault
  | case3 _ c rest _ _ ih => exact ih h.tail
  | case4 _ c rest _ _ _ ih => exact (ih h.tail).bind fun ⟨breaks, after⟩ hafter => .ok hafter
  | case5 _ c rest => exact .ok h

theorem reads_quotedGap (h : r.Of s) : Reads s Prod.snd (quotedGap r) := by
  have hspan := h.spanChars fun c => c == ' ' || c == '\t'
  unfold quotedGap
  split
  · exact .ok .nil
  · rename_i blanks c rest he
    rw [he] at hspan
    split
    · exact (reads_quotedLines true hspan.tail).bind fun ⟨breaks, after⟩ hafter => .ok hafter
    · exact .ok hspan

theorem reads_escaped (h : r.Of s) : Reads s Prod.snd (escaped r) := by
  unfold escaped
  split
  · exact .error .malformed
  · rename_i c rest
    split
    · exact .ok h.tail
    · exact (reads_numericEscape _ h.tail).bind fun ⟨p, after⟩ hafter => .ok hafter
    · split
      · exact (reads_quotedLines true h.tail).bind fun ⟨breaks, after⟩ hafter => .ok hafter
      · exact .error h.fault

theorem reads_prepended (first : List CodePoint) {x : Except Failure (List CodePoint × Rest)}
    (hx : Reads s Prod.snd x) :
    Reads s Prod.snd (do
      let (text, after) ← x
      return (first ++ text, after)) :=
  hx.bind fun _ hafter => .ok hafter

theorem reads_quoted (double : Bool) (fuel : Nat) (h : r.Of s) :
    Reads s Prod.snd (quoted double fuel r) := by
  induction fuel generalizing r with
  | zero =>
    rw [quoted]
    exact .error .malformed
  | succ fuel ih =>
    cases r with
    | nil =>
      rw [quoted]
      · exact .error .malformed
      · exact nofun
    | cons c rest =>
      rw [quoted]
      generalize (if double then '"' else '\x27') = mark
      split
      · exact .error h.fault
      · split
        · split
          · exact (ih (h.tail.drop 1)).bind fun _ hafter => .ok hafter
          · exact .ok h.tail
        · split
          · exact (reads_quotedGap h).bind fun _ hnext => reads_prepended _ (ih hnext)
          · split
            · exact (reads_escaped h.tail).bind fun _ hnext => reads_prepended _ (ih hnext)
            · exact (ih h.tail).bind fun _ hafter => .ok hafter

theorem reads_blockHeader (h : r.Of s) : Reads s BlockHeader.rest (blockHeader r) := by
  have hcheck (header : BlockHeader) (hrest : header.rest.Of s) :
      Reads s BlockHeader.rest (if header.increment = some 0 ∨ !isSpaceOrEnd header.rest.peek then
        .error header.rest.fault else .ok header) := by
    split
    · exact .error hrest.fault
    · exact .ok hrest
  refine hcheck _ ?_
  split
  · dsimp only
    split
    · exact (h.drop 1).drop 1
    · exact h.drop 1
  · split
    · dsimp only
      split
      · exact (h.drop 1).drop 1
      · exact h.drop 1
    · exact h

theorem of_leadingLines (reached : Nat) (h : r.Of s) : (leadingLines reached r).2.2.Of s := by
  fun_induction leadingLines reached r with
  | case1 => exact h
  | case2 _ c rest _ ih => exact ih h.tail
  | case3 _ c rest _ _ _ _ _ he ih =>
    rw [he] at ih
    exact ih h.tail
  | case4 => exact h

theorem of_blockGap (indent : Nat) (h : r.Of s) : (blockGap indent r).2.Of s := by
  fun_induction blockGap indent r with
  | case1 => exact h
  | case2 c rest _ ih => exact ih h.tail
  | case3 c rest _ _ _ _ he ih =>
    rw [he] at ih
    exact ih h.tail
  | case4 => exact h

theorem of_blockLines (folded : Bool) (indent fuel : Nat) (breaks : List Char) (h : r.Of s) :
    (blockLines folded indent fuel breaks r).rest.Of s := by
  induction fuel generalizing breaks r with
  | zero => exact h
  | succ fuel ih =>
    rw [blockLines]
    split
    · have hnext := of_blockGap indent (h.spanChars fun c => !isBreakOrEnd c).skipBreak
      dsimp only
      split
      · exact ih _ hnext
      · exact hnext
    · exact h

theorem reads_block (folded : Bool) (minIndent : Nat) (h : r.Of s) :
    Reads s Prod.snd (block folded minIndent r) := by
  unfold block
  refine (reads_blockHeader h).bind fun header hheader => ?_
  refine (Rest.Of.finishLine hheader).bind fun rest hrest => ?_
  refine .ok (of_blockLines _ _ _ _ ?_)
  split
  · exact of_leadingLines 0 hrest
  · exact of_blockGap _ hrest

theorem of_plainWord (inFlow : Bool) (h : r.Of s) : (plainWord inFlow r).2.Of s := by
  induction r with
  | nil => exact h
  | cons c rest ih =>
    rw [plainWord]
    split
    · exact h
    · exact ih h.tail

theorem of_emptyLines (h : r.Of s) : (emptyLines r).2.Of s := by
  fun_induction emptyLines r with
  | case1 => exact h
  | case2 c rest _ ih => exact ih h.tail
  | case3 c rest => exact h.tail
  | case4 c rest _ _ _ _ _ he ih =>
    rw [he] at ih
    exact ih h.tail
  | case5 => exact h

theorem of_plainGap (h : r.Of s) : (plainGap r).rest.Of s := by
  have hspan := h.spanChars (· == ' ')
  unfold plainGap
  split
  · exact .nil
  · rename_i spaces c rest he
    rw [he] at hspan
    split
    · split
      · exact hspan.tail
      · have hlines := of_emptyLines hspan.tail
        split
        · rename_i after he
          rw [he] at hlines
          exact hlines
        · rename_i breaks after he
          rw [he] at hlines
          exact hlines
    · exact hspan

theorem of_plainFrom (inFlow : Bool) (minColumn fuel : Nat) {gap : Gap} (h : gap.rest.Of s) :
    (plainFrom inFlow minColumn fuel gap).2.2.Of s := by
  induction fuel generalizing gap with
  | zero => exact h
  | succ fuel ih =>
    rw [plainFrom]
    have hword := of_plainWord inFlow h
    split
    · exact h
    · split
      · exact h
      · rename_i word after _ he
        rw [he] at hword
        have hnext := of_plainGap hword
        dsimp only
        split
        · exact hnext
        · exact ih hnext

end Scalar

namespace Scanner

/-- A scanner of a stream. -/
structure Of (s : Stream) (sc : Scanner) : Prop where
  rest : sc.rest.Of s
  tokens : ∀ t ∈ sc.tokens, t.Of s

variable {sc : Scanner} {t : Token}

/-- What only looks at the keys and the columns leaves all else as it is. -/
theorem Of.congr {sc' : Scanner} (h : sc.Of s) (hr : sc'.rest = sc.rest)
    (ht : sc'.tokens = sc.tokens) : sc'.Of s :=
  ⟨hr ▸ h.rest, ht ▸ h.tokens⟩

theorem Of.push (h : sc.Of s) (ht : t.Of s) : (sc.push t).Of s :=
  ⟨h.rest, List.forall_mem_cons.2 ⟨ht, h.tokens⟩⟩

theorem Of.insert (h : sc.Of s) (n : Nat) {ts : List Token} (ht : ∀ t ∈ ts, t.Of s) :
    (sc.insert n ts).Of s := by
  refine ⟨h.rest, fun t hm => ?_⟩
  rcases List.mem_append.1 hm with hm | hm
  · rcases List.mem_append.1 hm with hm | hm
    · exact h.tokens t (List.mem_of_mem_take hm)
    · exact ht t (List.mem_reverse.1 hm)
  · exact h.tokens t (List.mem_of_mem_drop hm)

theorem Of.emit (h : sc.Of s) (ht : t.Of s) (width : Nat) : (sc.emit t width).Of s :=
  ⟨h.rest.drop width, (h.push ht).tokens⟩

theorem Of.unwind (h : sc.Of s) (column : Option Nat) : (sc.unwind column).Of s := by
  unfold Scanner.unwind
  split
  · exact h
  · refine ⟨h.rest, fun t hm => ?_⟩
    rcases List.mem_append.1 hm with hm | hm
    · obtain ⟨_, -, rfl⟩ := List.mem_map.1 hm
      exact nofun
    · exact h.tokens t hm

theorem Of.dropKey (h : sc.Of s) : Yields (Fault s) (Of s) sc.dropKey := by
  unfold Scanner.dropKey
  split
  · split
    · exact .error .malformed
    · exact .ok (h.congr rfl rfl)
  · exact .ok h

theorem Of.saveKey (h : sc.Of s) : Yields (Fault s) (Of s) sc.saveKey := by
  unfold Scanner.saveKey
  split
  · exact h.dropKey.bind fun _ hd => .ok (hd.congr rfl rfl)
  · exact .ok h

theorem Of.dropStaleKeys (h : sc.Of s) : Yields (Fault s) (Of s) sc.dropStaleKeys := by
  unfold Scanner.dropStaleKeys
  split
  · exact .error .malformed
  · exact .ok (h.congr rfl rfl)

theorem Of.toNextToken (h : sc.Of s) : sc.toNextToken.Of s := by
  refine ⟨Rest.Of.skipBlank ?_ false false, h.tokens⟩
  split
  · exact h.rest.drop 1
  · exact h.rest

theorem Of.endStream (h : sc.Of s) : Yields (Fault s) (Of s) sc.endStream :=
  (h.unwind none).dropKey.bind fun _ hd => .ok (hd.push nofun)

theorem Of.takeDirective (h : sc.Of s) : Yields (Fault s) (Of s) sc.takeDirective := by
  refine (h.unwind none).dropKey.bind fun _ hd => ?_
  refine (Token.reads_directive (hd.rest.drop 1)).bind fun ⟨t, rest⟩ ⟨ht, hrest⟩ => ?_
  exact .ok ⟨hrest, (hd.push ht).tokens⟩

theorem Of.takeDocumentMark (h : sc.Of s) (ht : t.Of s) :
    Yields (Fault s) (Of s) (sc.takeDocumentMark t) :=
  (h.unwind none).dropKey.bind fun _ hd => .ok ((hd.emit ht 3).congr rfl rfl)

theorem Of.openFlow (h : sc.Of s) (ht : t.Of s) :
    Yields (Fault s) (Of s) (sc.openFlow t) :=
  h.saveKey.bind fun _ hk => .ok ((hk.emit ht 1).congr rfl rfl)

theorem Of.closeFlow (h : sc.Of s) (ht : t.Of s) :
    Yields (Fault s) (Of s) (sc.closeFlow t) := by
  refine h.dropKey.bind fun sc' hd => ?_
  split
  · exact .ok ((hd.emit ht 1).congr rfl rfl)
  · exact .error .malformed

theorem Of.takeFlowEntry (h : sc.Of s) : Yields (Fault s) (Of s) sc.takeFlowEntry :=
  h.dropKey.bind fun _ hd => .ok ((hd.emit (t := .flowEntry) nofun 1).congr rfl rfl)

theorem Of.openBlock {sc' : Scanner} {column : Nat} (h : sc.Of s)
    (ho : sc.openBlock column = some sc') : sc'.Of s := by
  unfold Scanner.openBlock at ho
  split at ho
  · cases ho
    exact h.congr rfl rfl
  · cases ho

theorem Of.enterBlock (h : sc.Of s) (ht : t.Of s) :
    Yields (Fault s) (Of s) (sc.enterBlock t) := by
  unfold Scanner.enterBlock
  split
  · exact .ok h
  · split
    · split
      · exact .ok ((h.openBlock ‹_›).push ht)
      · exact .ok h
    · exact .error .malformed

theorem Of.takeBlockEntry (h : sc.Of s) : Yields (Fault s) (Of s) sc.takeBlockEntry :=
  (h.enterBlock (t := .blockSequenceStart) nofun).bind fun _ hb => hb.dropKey.bind fun _ hd =>
    .ok ((hd.emit (t := .blockEntry) nofun 1).congr rfl rfl)

theorem Of.takeKey (h : sc.Of s) : Yields (Fault s) (Of s) sc.takeKey :=
  (h.enterBlock (t := .blockMappingStart) nofun).bind fun _ hb => hb.dropKey.bind fun _ hd =>
    .ok ((hd.emit (t := .key) nofun 1).congr rfl rfl)

theorem Of.takeValue (h : sc.Of s) : Yields (Fault s) (Of s) sc.takeValue := by
  have hstart {ts : List Token} (hts : ∀ t ∈ ts, t = .blockMappingStart ∨ t = .key) :
      ∀ t ∈ ts, t.Of s := by
    intro t ht f hf
    rcases hts t ht with rfl | rfl <;> cases hf
  unfold Scanner.takeValue
  split
  · rename_i k hk
    have hset : (sc.setKey none).Of s := h.congr rfl rfl
    extract_lets unset keyed
    have hkeyed : keyed.Of s := by
      dsimp only [keyed]
      split
      · rename_i opened ho
        split at ho
        · cases ho
        · exact (hset.openBlock ho).insert _ (hstart (by simp))
      · exact hset.insert _ (hstart (by simp))
    exact .ok ((hkeyed.emit (t := .value) nofun 1).congr rfl rfl)
  · exact (h.enterBlock (t := .blockMappingStart) nofun).bind fun _ hb => hb.dropKey.bind
      fun _ hd => .ok ((hd.emit (t := .value) nofun 1).congr rfl rfl)

theorem Of.takeContent {content : Rest → Except Failure (Token × Rest)} (h : sc.Of s)
    (hc : ∀ r : Rest, r.Of s →
      Yields (Fault s) (fun v => v.1.Of s ∧ v.2.Of s) (content r)) :
    Yields (Fault s) (Of s) (sc.takeContent content) := by
  refine h.saveKey.bind fun _ hk => (hc _ hk.rest).bind fun ⟨t, rest⟩ ⟨ht, hrest⟩ => ?_
  exact .ok ⟨hrest, (hk.push ht).tokens⟩

theorem Of.takePlain (h : sc.Of s) : Yields (Fault s) (Of s) sc.takePlain :=
  h.saveKey.bind fun _ hk =>
    .ok ⟨Scalar.of_plainFrom _ _ _ hk.rest, (hk.push (Token.of_scalar _ _)).tokens⟩

theorem Of.takeBlockScalar (h : sc.Of s) (folded : Bool) :
    Yields (Fault s) (Of s) (sc.takeBlockScalar folded) :=
  h.dropKey.bind fun _ hd => (Scalar.reads_block folded _ (hd.rest.drop 1)).bind
    fun ⟨_, _⟩ hrest => .ok ⟨hrest, (hd.push (Token.of_scalar _ _)).tokens⟩

theorem Of.takeQuoted (h : sc.Of s) (double : Bool) :
    Yields (Fault s) (Of s) (sc.takeQuoted double) :=
  h.takeContent fun _ hr => (Scalar.reads_quoted double _ (hr.drop 1)).bind
    fun ⟨_, _⟩ hrest => .ok ⟨nofun, hrest⟩

theorem Of.takeToken (h : sc.Of s) : Yields (Fault s) (Of s) sc.takeToken := by
  unfold Scanner.takeToken
  dsimp only
  split
  · exact h.endStream
  · exact h.openFlow (t := .flowSequenceStart) nofun
  · exact h.openFlow (t := .flowMappingStart) nofun
  · exact h.closeFlow (t := .flowSequenceEnd) nofun
  · exact h.closeFlow (t := .flowMappingEnd) nofun
  · exact h.takeFlowEntry
  · exact h.takeContent fun _ hr => (Token.reads_anchorName (hr.drop 1)).bind
      fun ⟨_, _⟩ hrest => .ok ⟨nofun, hrest⟩
  · exact h.takeContent fun _ hr => (Token.reads_anchorName (hr.drop 1)).bind
      fun ⟨_, _⟩ hrest => .ok ⟨nofun, hrest⟩
  · exact h.takeContent fun _ hr => (Token.reads_tagName hr).bind
      fun ⟨_, _⟩ hrest => .ok ⟨nofun, hrest⟩
  · exact h.takeQuoted false
  · exact h.takeQuoted true
  · split_ifs
    · exact h.takeDirective
    · exact h.takeDocumentMark (t := .documentStart) nofun
    · exact h.takeDocumentMark (t := .documentEnd) nofun
    · exact h.takeBlockEntry
    · exact h.takeKey
    · exact h.takeValue
    · exact h.takeBlockScalar false
    · exact h.takeBlockScalar true
    · exact h.takePlain
    · exact .error h.rest.fault

theorem Of.step (h : sc.Of s) : Yields (Fault s) (Of s) sc.step :=
  h.toNextToken.rest.known.bind fun _ _ => h.toNextToken.dropStaleKeys.bind fun _ hs =>
    (hs.unwind _).takeToken.bind fun _ ht => ht.rest.known.bind fun _ _ => .ok ht

theorem Of.run (fuel : Nat) (h : sc.Of s) : ∀ t ∈ Scanner.run fuel sc, t.Of s := by
  induction fuel generalizing sc with
  | zero =>
    intro t ht
    rcases List.mem_append.1 ht with ht | ht
    · exact h.tokens t (List.mem_reverse.1 ht)
    · obtain rfl := List.mem_singleton.1 ht
      intro f hf
      cases hf
      exact .malformed
  | succ fuel ih =>
    rw [Scanner.run]
    have hstep := h.step
    generalize sc.step = x at hstep
    cases hstep with
    | error hf =>
      intro t ht
      rcases List.mem_append.1 ht with ht | ht
      · exact h.tokens t (List.mem_reverse.1 (List.mem_of_mem_take ht))
      · obtain rfl := List.mem_singleton.1 ht
        intro g hg
        cases hg
        exact hf
    | ok hs =>
      dsimp only
      split
      · exact fun t ht => hs.tokens t (List.mem_reverse.1 ht)
      · exact ih hs

end Scanner

theorem of_tokens (s : Stream) : ∀ t ∈ tokens (cells s), t.Of s :=
  Scanner.Of.run _ ⟨of_cells s, nofun⟩

end Yaml

end CloudConf
