import CloudConf.Credentials.Reading
import CloudConf.Proofs.Quoting
import CloudConf.Text.Utf8

/-! # The secret is read back -/
namespace CloudConf.Credentials

theorem keys_allFields (p : Profile) :
    (allFields p).map (·.1) = ["auth-url", "username", "password", "tenant-id", "tenant-name",
      "domain-id", "domain-name", "region"] := rfl

theorem nodup_keys_allFields (p : Profile) : ((allFields p).map (·.1)).Nodup := by
  rw [keys_allFields]
  decide

theorem nodup_keys_fields (p : Profile) : ((fields p).map (·.1)).Nodup :=
  (List.filter_sublist.map _).nodup (nodup_keys_allFields p)

/-- No key holds a space or a line break. -/
theorem notMem_key {p : Profile} {field : String × String} (h : field ∈ fields p) :
    ' ' ∉ field.1.toList ∧ '\n' ∉ field.1.toList := by
  have hk : field.1 ∈ (allFields p).map (·.1) :=
    List.mem_map_of_mem (List.mem_filter.1 h).1
  rw [keys_allFields] at hk
  have hall : ∀ key ∈ ["auth-url", "username", "password", "tenant-id", "tenant-name",
      "domain-id", "domain-name", "region"], ' ' ∉ key.toList ∧ '\n' ∉ key.toList := by decide
  exact hall _ hk

theorem toList_fieldLine (field : String × String) :
    (fieldLine field).toList =
      field.1.toList ++ ' ' :: '=' :: ' ' :: Text.Literal.encode field.2.toList := by
  simp [fieldLine, Text.toList_quote]

theorem newline_notMem_encode (s : List Char) : '\n' ∉ Text.Literal.encode s := by
  intro h
  have hp := Text.Literal.isPrintable_of_mem_encode h
  revert hp
  decide

theorem newline_notMem_lines {p : Profile} {line : String} (h : line ∈ lines p) :
    '\n' ∉ line.toList := by
  rcases List.mem_cons.1 h with rfl | h
  · decide
  · rcases List.mem_append.1 h with h | h
    · obtain ⟨field, hf, rfl⟩ := List.mem_map.1 h
      rw [toList_fieldLine]
      simp [(notMem_key hf).2, newline_notMem_encode]
    · split at h
      · cases h
      · obtain rfl := List.mem_singleton.1 h
        decide

theorem lines?_render (p : Profile) :
    Text.lines? (render p).toList = some ((lines p).map String.toList) := by
  rw [render, String.toList_ofList]
  apply Text.lines?_unlines
  intro line hl
  obtain ⟨l, hm, rfl⟩ := List.mem_map.1 hl
  exact newline_notMem_lines hm

theorem readField_fieldLine (literal : LiteralReader) {field : String × String}
    (hk : ' ' ∉ field.1.toList) :
    readField literal (fieldLine field).toList =
      (literal (Text.Literal.encode field.2.toList)).bind fun r =>
        if r.2 = [] then some (field.1, String.ofList r.1) else none := by
  rw [readField, toList_fieldLine, Text.keyValue?_of_notMem _ hk]
  simp only [bind, Option.bind_some, String.ofList_toList]
  cases literal (Text.Literal.encode field.2.toList) with
  | none => rfl
  | some r =>
    obtain ⟨value, rest⟩ := r
    cases rest with
    | nil => rfl
    | cons c rest => rfl

/-- The file of a CA is named without quotes, which no other line goes without. -/
theorem fieldLine_ne_caFileLine {field : String × String} (hk : ' ' ∉ field.1.toList) :
    (fieldLine field).toList ≠ caFileLine.toList := by
  intro h
  have hc := congrArg (fun line => (Text.keyValue? line).bind fun e => e.2.head?) h
  simp only [toList_fieldLine, Text.keyValue?_of_notMem _ hk] at hc
  have hq : some '"' = some '/' := hc
  exact absurd hq (by decide)

theorem readLines_append (literal : LiteralReader) {fs : List (String × String)}
    (hk : ∀ field ∈ fs, ' ' ∉ field.1.toList) (rest : List (List Char)) :
    readLines literal (fs.map (fun field => (fieldLine field).toList) ++ rest) =
      (fs.mapM fun field => readField literal (fieldLine field).toList).bind fun read =>
        (readLines literal rest).map fun c => { c with fields := read ++ c.fields } := by
  induction fs with
  | nil => simp
  | cons field fs ih =>
    have hf := hk field (by simp)
    have ht := ih fun f hm => hk f (by simp [hm])
    rw [List.map_cons, List.cons_append, readLines, if_neg (fieldLine_ne_caFileLine hf), ht,
      List.mapM_cons]
    cases readField literal (fieldLine field).toList with
    | none => rfl
    | some f =>
      cases fs.mapM fun field => readField literal (fieldLine field).toList with
      | none => rfl
      | some read =>
        cases readLines literal rest with
        | none => rfl
        | some c => rfl

theorem readLines_caFileLine (literal : LiteralReader) (path : WideText) :
    readLines literal ((if path = "" then [] else [caFileLine]).map String.toList) =
      some ⟨[], decide (path ≠ "")⟩ := by
  by_cases h : path = ""
  · simp [h, readLines]
  · simp [h, readLines]

/-- What a secret is read as hangs on its literals alone. -/
theorem readWith_render (literal : LiteralReader) (p : Profile) :
    readWith literal (render p) =
      ((fields p).mapM fun field => readField literal (fieldLine field).toList).map fun read =>
        ⟨read, decide (p.caCertFile ≠ "")⟩ := by
  have hk : ∀ field ∈ fields p, ' ' ∉ field.1.toList := fun field hf => (notMem_key hf).1
  have hl := readLines_append literal hk
    ((if p.caCertFile = "" then [] else [caFileLine]).map String.toList)
  rw [readLines_caFileLine] at hl
  rw [readWith, lines?_render]
  simp only [lines, List.map_cons, List.map_append, List.map_map, bind, Option.bind_some]
  refine hl.trans ?_
  cases (fields p).mapM fun field => readField literal (fieldLine field).toList with
  | none => rfl
  | some read => simp

theorem readField_read {field : String × String} (hk : ' ' ∉ field.1.toList) :
    readField Text.Literal.read (fieldLine field).toList = some field := by
  have hr := Text.Literal.read_encode_append field.2.toList []
  rw [List.append_nil] at hr
  rw [readField_fieldLine _ hk, hr]
  simp

private theorem mapM_readField {fs : List (String × String)}
    (hk : ∀ field ∈ fs, ' ' ∉ field.1.toList) :
    (fs.mapM fun field => readField Text.Literal.read (fieldLine field).toList) = some fs := by
  induction fs with
  | nil => rfl
  | cons field fs ih =>
    rw [List.mapM_cons, readField_read (hk field (by simp)), ih fun f hf => hk f (by simp [hf])]
    rfl

theorem read_render (p : Profile) :
    read (render p) = some ⟨fields p, decide (p.caCertFile ≠ "")⟩ := by
  rw [read, readWith_render, mapM_readField fun field hf => (notMem_key hf).1]
  rfl

private theorem notMem_keys_of_filter {k v : String} {l m : List (String × String)}
    (hn : k ∉ l.map (·.1)) : l.filter (·.2 ≠ "") ≠ (k, v) :: m := by
  intro h
  have hm : (k, v) ∈ l.filter (·.2 ≠ "") := h ▸ List.mem_cons_self
  exact hn (List.mem_map_of_mem (List.mem_filter.1 hm).1)

/-- Where the keys are known, leaving out the empty values loses nothing. -/
theorem eq_of_filter_eq {l m : List (String × String)} (hk : l.map (·.1) = m.map (·.1))
    (hn : (l.map (·.1)).Nodup) (h : l.filter (·.2 ≠ "") = m.filter (·.2 ≠ "")) : l = m := by
  induction l generalizing m with
  | nil => exact (List.map_eq_nil_iff.1 hk.symm).symm
  | cons e l ih =>
    obtain ⟨k, v⟩ := e
    cases m with
    | nil => cases hk
    | cons e' m =>
      obtain ⟨k', v'⟩ := e'
      obtain ⟨rfl, ht⟩ := List.cons.inj hk
      obtain ⟨hl, hn⟩ := List.nodup_cons.1 hn
      have hm : k ∉ m.map (·.1) := ht ▸ hl
      by_cases hv : v = ""
      · by_cases hv' : v' = ""
        · rw [hv, hv', ih ht hn (by simpa [hv, hv'] using h)]
        · rw [List.filter_cons_of_neg (by simp [hv]), List.filter_cons_of_pos (by simpa)] at h
          exact absurd h (notMem_keys_of_filter hl)
      · rw [List.filter_cons_of_pos (by simpa)] at h
        by_cases hv' : v' = ""
        · rw [List.filter_cons_of_neg (by simp [hv'])] at h
          exact absurd h.symm (notMem_keys_of_filter hm)
        · rw [List.filter_cons_of_pos (by simpa)] at h
          obtain ⟨he, hf⟩ := List.cons.inj h
          rw [he, ih ht hn hf]

theorem fields_inj {p q : Profile} : fields p = fields q ↔ allFields p = allFields q := by
  constructor
  · exact eq_of_filter_eq (by rw [keys_allFields, keys_allFields]) (nodup_keys_allFields p)
  · intro h
    rw [fields, fields, h]

theorem render_inj {p q : Profile} :
    render p = render q ↔
      allFields p = allFields q ∧ (p.caCertFile = "" ↔ q.caCertFile = "") := by
  constructor
  · intro h
    have hr := read_render p
    rw [h, read_render q] at hr
    have hc := Option.some.inj hr
    have hf : fields q = fields p := congrArg Content.fields hc
    have hn : decide (q.caCertFile ≠ "") = decide (p.caCertFile ≠ "") :=
      congrArg Content.namesCaFile hc
    exact ⟨(fields_inj.1 hf).symm, by simpa [not_iff_not, iff_comm] using hn⟩
  · rintro ⟨hf, hc⟩
    have hl : lines p = lines q := by
      simp only [lines, fields_inj.2 hf, hc]
    rw [render, render, hl]

/-- Every profile has a secret, and its bytes are read back as the settings that are not empty, each
at its key and in their order, and as whether the file of a CA is named. So two profiles have the
same secret exactly if they agree on all that is written. -/
theorem secret_readsBack :
    (∀ (p : Profile) (j : Journal), ((generate p).runOn j).1 = .ok (render p)) ∧
    (∀ p : Profile, ∃ content : Content,
      (String.fromUTF8? (render p).toUTF8).bind read = some content ∧
      content.fields =
        [("auth-url", p.authUrl), ("username", p.username), ("password", p.password),
          ("tenant-id", p.projectId), ("tenant-name", p.projectName),
          ("domain-id", if p.domainId = "" then p.userDomainId else p.domainId),
          ("domain-name", if p.domainName = "" then p.userDomainName else p.domainName),
          ("region", p.regionName)].filter (·.2 ≠ "") ∧
      (content.fields.map (·.1)).Nodup ∧
      (content.namesCaFile ↔ p.caCertFile ≠ "")) ∧
    ∀ p q : Profile, (render p).toUTF8 = (render q).toUTF8 ↔
      p.authUrl = q.authUrl ∧ p.username = q.username ∧ p.password = q.password ∧
      p.projectId = q.projectId ∧ p.projectName = q.projectName ∧
      p.resolvedDomainId = q.resolvedDomainId ∧ p.resolvedDomainName = q.resolvedDomainName ∧
      p.regionName = q.regionName ∧ (p.caCertFile = "" ↔ q.caCertFile = "") := by
  refine ⟨fun _ _ => rfl, ?_, ?_⟩
  · intro p
    refine ⟨⟨fields p, decide (p.caCertFile ≠ "")⟩, ?_, rfl, nodup_keys_fields p, by simp⟩
    rw [Text.Utf8.fromUTF8?_toUTF8, Option.bind_some, read_render]
  · intro p q
    have hb : (render p).toUTF8 = (render q).toUTF8 ↔ render p = render q := by
      simp only [String.toUTF8_eq_toByteArray, String.toByteArray_inj]
    rw [hb, render_inj]
    simp [allFields, and_assoc]

end CloudConf.Credentials
