import CloudConf.Proofs.SecretReading

/-! # Which secrets the cloud provider can read -/
namespace CloudConf

namespace Text.BasicLiteral

open Literal (push encode encodeChar)

/-- A character whose form within a literal the cloud provider understands. -/
def isBasic (c : Char) : Bool := isPrintable c || c = '\n' || c = '\t' || c = '\x08'

variable {c name : Char}

theorem isBasic_iff : isBasic c ↔ isPrintable c ∨ c = '\n' ∨ c = '\t' ∨ c = '\x08' := by
  simp [isBasic, or_assoc]

/-- Of the escapes with a name, those of other characters have no meaning here. -/
theorem escape?_of_escapeName? (h : escapeName? c = some name) :
    escape? name = if isBasic c then some c else none := by
  unfold escapeName? at h
  split at h <;> cases h <;> decide

theorem readBody_escape (name : Char) (t : List Char) :
    readBody ('\\' :: name :: t) = (escape? name).bind fun c => (readBody t).map (push c) := rfl

theorem readBody_plain (t : List Char) (hq : c ≠ '"') (hb : c ≠ '\\') (hn : c ≠ '\n') :
    readBody (c :: t) = (readBody t).map (push c) := by
  rw [readBody.eq_def]
  split <;> simp_all

/-- A character is read back or spoils the literal, whatever follows it. -/
theorem readBody_encodeChar (c : Char) (t : List Char) :
    readBody (encodeChar c ++ t) = if isBasic c then (readBody t).map (push c) else none := by
  unfold encodeChar
  split
  · rename_i name hname
    rw [List.cons_append, List.cons_append, List.nil_append, readBody_escape,
      escape?_of_escapeName? hname]
    split
    · rfl
    · rfl
  · rename_i hname
    -- The three characters that a plain one is not all have escapes with a name.
    have hnamed : c ≠ '"' ∧ c ≠ '\\' ∧ c ≠ '\n' ∧ c ≠ '\t' ∧ c ≠ '\x08' := by
      refine ⟨?_, ?_, ?_, ?_, ?_⟩ <;> rintro rfl <;> cases hname
    obtain ⟨hq, hb, hn, ht, hbs⟩ := hnamed
    split
    · rename_i hp
      rw [if_pos (isBasic_iff.2 (.inl hp))]
      exact readBody_plain t hq hb hn
    · rename_i hp
      have hbasic : ¬ isBasic c := by simp [isBasic, hp, hn, ht, hbs]
      rw [if_neg hbasic]
      split
      · rfl
      · split
        · rfl
        · rfl

theorem readBody_flatMap_encodeChar (s t : List Char) :
    readBody (s.flatMap encodeChar ++ '"' :: t) = if s.all isBasic then some (s, t) else none := by
  induction s with
  | nil => rfl
  | cons c s ih =>
    rw [List.flatMap_cons, List.append_assoc, readBody_encodeChar, ih, List.all_cons]
    cases isBasic c with
    | true => cases s.all isBasic <;> rfl
    | false => rfl

theorem read_encode (s : List Char) :
    read (encode s) = if s.all isBasic then some (s, []) else none :=
  readBody_flatMap_encodeChar s []

end Text.BasicLiteral

namespace Credentials

def isBasicField (field : String × String) : Bool :=
  field.2.toList.all Text.BasicLiteral.isBasic

theorem readField_readBasic {field : String × String} (hk : ' ' ∉ field.1.toList) :
    readField Text.BasicLiteral.read (fieldLine field).toList =
      if isBasicField field then some field else none := by
  rw [readField_fieldLine _ hk, Text.BasicLiteral.read_encode, isBasicField]
  cases field.2.toList.all Text.BasicLiteral.isBasic with
  | true => simp
  | false => rfl

/-- One setting that cannot be read spoils them all. -/
theorem mapM_readField_readBasic {fs : List (String × String)}
    (hk : ∀ field ∈ fs, ' ' ∉ field.1.toList) :
    (fs.mapM fun field => readField Text.BasicLiteral.read (fieldLine field).toList) =
      if fs.all isBasicField then some fs else none := by
  induction fs with
  | nil => rfl
  | cons field fs ih =>
    have ih := ih fun f hf => hk f (List.mem_cons_of_mem field hf)
    rw [List.mapM_cons, readField_readBasic (hk field List.mem_cons_self), ih, List.all_cons]
    cases isBasicField field with
    | true => cases fs.all isBasicField <;> rfl
    | false => rfl

theorem readBasic_render (p : Profile) :
    readBasic (render p) =
      if (fields p).all isBasicField then some ⟨fields p, decide (p.caCertFile ≠ "")⟩
      else none := by
  rw [readBasic, readWith_render, mapM_readField_readBasic fun field hf => (notMem_key hf).1]
  split
  · rfl
  · rfl

/-- The cloud provider can read a secret exactly if all characters of the values that are written
are printable, line feeds, tabs or backspaces. What it reads then are these values and no others,
each at its key. -/
theorem readBasic_isSome_iff (p : Profile) :
    let values := [("auth-url", p.authUrl), ("username", p.username), ("password", p.password),
      ("tenant-id", p.projectId), ("tenant-name", p.projectName),
      ("domain-id", if p.domainId = "" then p.userDomainId else p.domainId),
      ("domain-name", if p.domainName = "" then p.userDomainName else p.domainName),
      ("region", p.regionName)].filter (·.2 ≠ "")
    let content? := (String.fromUTF8? (render p).toUTF8).bind readBasic
    (content?.isSome ↔ ∀ field ∈ values, ∀ c ∈ field.2.toList,
      Text.isPrintable c ∨ c = '\n' ∨ c = '\t' ∨ c = '\x08') ∧
    ∀ content ∈ content?, content.fields = values ∧
      (content.namesCaFile ↔ p.caCertFile ≠ "") := by
  intro values content?
  have hvalues : values = fields p := rfl
  have hread : content? = if (fields p).all isBasicField then
      some ⟨fields p, decide (p.caCertFile ≠ "")⟩ else none := by
    simp only [content?, Text.Utf8.fromUTF8?_toUTF8, Option.bind_some, readBasic_render]
  have hall : (fields p).all isBasicField ↔ ∀ field ∈ fields p, ∀ c ∈ field.2.toList,
      Text.isPrintable c ∨ c = '\n' ∨ c = '\t' ∨ c = '\x08' := by
    simp only [isBasicField, List.all_eq_true, Text.BasicLiteral.isBasic_iff]
  rw [hread, hvalues, ← hall]
  split
  · rename_i h
    refine ⟨iff_of_true rfl h, fun content hc => ?_⟩
    rw [← Option.mem_some_iff.1 hc]
    exact ⟨rfl, decide_eq_true_iff⟩
  · rename_i h
    exact ⟨iff_of_false Bool.false_ne_true h,
      fun content hc => absurd hc (Option.not_mem_none content)⟩

/-- A carriage return, which has a name of its own, spoils the values around it as well. -/
example : readBasic (render { username := "a\tb" }) = some ⟨[("username", "a\tb")], false⟩ ∧
    readBasic (render { username := "a\tb", password := "c\rd" }) = none := by decide +kernel

end Credentials
end CloudConf
