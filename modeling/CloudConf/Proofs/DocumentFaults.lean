import CloudConf.Proofs.ScanFaults

/-! # What keeps a stream from being read as a document -/
namespace CloudConf.Yaml

/-- A step that fails only because of a stream. -/
abbrev OnlyFaults (s : Stream) {α : Type} : Except Failure α → Prop :=
  Yields (Fault s) fun _ => True

variable {s : Stream}

namespace Tree

def Unread.Of (s : Stream) (u : Unread) : Prop := ∀ t ∈ u.tokens, t.Of s

/-- A part of a document is read, and what follows it is left, or the stream is at fault. -/
abbrev Takes (s : Stream) {α : Type} : Except Failure (α × Unread) → Prop :=
  Yields (Fault s) fun v => v.2.Of s

variable {u : Unread} {handles : Handles}

theorem of_tail {t : Token} {ts : List Token} (h : ∀ x ∈ t :: ts, x.Of s) : ∀ x ∈ ts, x.Of s :=
  fun x hx => h x (List.mem_cons_of_mem t hx)

theorem Unread.Of.skip (h : u.Of s) : u.skip.Of s := fun t ht => h t (List.mem_of_mem_drop ht)

theorem Unread.Of.next (h : u.Of s) : OnlyFaults s u.next := by
  unfold Unread.next
  split
  · exact .error .malformed
  · rename_i f rest he
    exact .error (h _ (he ▸ List.mem_cons_self) f rfl)
  · exact .ok trivial

theorem Unread.Of.declare (h : u.Of s) (name : Option String) :
    Yields (Fault s) (Unread.Of s) (u.declare name) := by
  unfold Unread.declare
  split
  · exact .ok h
  · split
    · exact .error .malformed
    · exact .ok h

theorem yields_fullTag (s : Stream) (handles : Handles) (t : TagName) :
    OnlyFaults s (fullTag handles t) := by
  unfold fullTag
  split
  · exact .ok trivial
  · split
    · exact .ok trivial
    · exact .error .malformed

theorem yields_properties (h : u.Of s) :
    Yields (Fault s) (fun v => v.2.2.Of s) (properties handles u) := by
  unfold properties
  refine h.next.bind fun t _ => ?_
  split
  · refine h.skip.next.bind fun t' _ => ?_
    split
    · exact (yields_fullTag s _ _).bind fun _ _ => .ok h.skip.skip
    · exact .ok h.skip
  · refine h.skip.next.bind fun t' _ => ?_
    split
    · exact (yields_fullTag s _ _).bind fun _ _ => .ok h.skip.skip
    · exact (yields_fullTag s _ _).bind fun _ _ => .ok h.skip
  · exact .ok h

theorem takes_bare (h : u.Of s) (anchor written : Option String) :
    Takes s (bare anchor written u) := by
  unfold bare
  split
  · exact .ok h
  · exact .error .malformed

theorem yields_separated (h : u.Of s) (isFirst : Bool) :
    Yields (Fault s) (Unread.Of s) (separated isFirst u) := by
  unfold separated
  split
  · exact .ok h
  · refine h.next.bind fun t _ => ?_
    split
    · exact .ok h.skip
    · exact .error .malformed

mutual

theorem takes_node (fuel : Nat) (site : Site) {u : Unread} (h : u.Of s) :
    Takes s (node handles fuel site u) := by
  match fuel with
  | 0 => exact .error .malformed
  | fuel + 1 =>
    rw [node]
    refine h.next.bind fun t _ => ?_
    extract_lets rest
    have hrest : Takes s (rest ()) := by
      refine (yields_properties h).bind fun ⟨anchor, written, u⟩ h => ?_
      refine (Unread.Of.next h).bind fun first _ => ?_
      refine (Unread.Of.declare h anchor).bind fun u h => ?_
      split
      · split
        · exact (takes_looseEntries fuel h).bind fun ⟨_, _⟩ h => .ok h
        · exact takes_bare h anchor written
      · exact .ok h.skip
      · exact (takes_flowItems fuel true h.skip).bind fun ⟨_, _⟩ h => .ok h
      · exact (takes_flowEntries fuel true h.skip).bind fun ⟨_, _⟩ h => .ok h
      · split
        · exact (takes_blockEntries fuel h.skip).bind fun ⟨_, _⟩ h => .ok h
        · exact takes_bare h anchor written
      · split
        · exact (takes_blockPairs fuel h.skip).bind fun ⟨_, _⟩ h => .ok h
        · exact takes_bare h anchor written
      · exact takes_bare h anchor written
    split
    · split
      · exact .ok h.skip
      · exact .error .malformed
    · exact hrest

theorem takes_blockEntries (fuel : Nat) {u : Unread} (h : u.Of s) :
    Takes s (blockEntries handles fuel u) := by
  match fuel with
  | 0 => exact .error .malformed
  | fuel + 1 =>
    rw [blockEntries]
    refine h.next.bind fun t _ => ?_
    split
    · refine h.skip.next.bind fun t' _ => ?_
      extract_lets rest
      have hrest : ∀ v : Tree × Unread, v.2.Of s → Takes s (rest v) := fun ⟨_, _⟩ h =>
        (takes_blockEntries fuel h).bind fun ⟨_, _⟩ h => .ok h
      split
      · exact hrest (empty, u.skip) h.skip
      · exact hrest (empty, u.skip) h.skip
      · exact (takes_node fuel .block h.skip).bind hrest
    · exact .ok h.skip
    · exact .error .malformed

theorem takes_looseEntries (fuel : Nat) {u : Unread} (h : u.Of s) :
    Takes s (looseEntries handles fuel u) := by
  match fuel with
  | 0 => exact .error .malformed
  | fuel + 1 =>
    rw [looseEntries]
    refine h.next.bind fun t _ => ?_
    split
    · refine h.skip.next.bind fun t' _ => ?_
      extract_lets rest
      have hrest : ∀ v : Tree × Unread, v.2.Of s → Takes s (rest v) := fun ⟨_, _⟩ h =>
        (takes_looseEntries fuel h).bind fun ⟨_, _⟩ h => .ok h
      have hempty : Takes s (rest (empty, u.skip)) := hrest (empty, u.skip) h.skip
      split
      · exact hempty
      · exact hempty
      · exact hempty
      · exact hempty
      · exact (takes_node fuel .block h.skip).bind hrest
    · exact .ok h

theorem takes_blockPairs (fuel : Nat) {u : Unread} (h : u.Of s) :
    Takes s (blockPairs handles fuel u) := by
  match fuel with
  | 0 => exact .error .malformed
  | fuel + 1 =>
    rw [blockPairs]
    refine h.next.bind fun t _ => ?_
    split
    · refine (takes_blockSide fuel h.skip).bind fun ⟨key, u⟩ h => ?_
      refine (Unread.Of.next h).bind fun t' _ => ?_
      extract_lets rest
      have hrest : ∀ v : Tree × Unread, v.2.Of s → Takes s (rest v) := fun ⟨_, _⟩ h =>
        (takes_blockPairs fuel h).bind fun ⟨_, _⟩ h => .ok h
      split
      · exact (takes_blockSide fuel (Unread.Of.skip h)).bind hrest
      · exact hrest (empty, u) h
    · exact .ok h.skip
    · exact .error .malformed

theorem takes_blockSide (fuel : Nat) {u : Unread} (h : u.Of s) :
    Takes s (blockSide handles fuel u) := by
  match fuel with
  | 0 => exact .error .malformed
  | fuel + 1 =>
    rw [blockSide]
    refine h.next.bind fun t _ => ?_
    split
    · exact .ok h
    · exact .ok h
    · exact .ok h
    · exact takes_node fuel .blockValue h

theorem takes_flowItems (fuel : Nat) (isFirst : Bool) {u : Unread} (h : u.Of s) :
    Takes s (flowItems handles fuel isFirst u) := by
  match fuel with
  | 0 => exact .error .malformed
  | fuel + 1 =>
    rw [flowItems]
    refine h.next.bind fun t _ => ?_
    split
    · exact .ok h.skip
    · refine (yields_separated h isFirst).bind fun u h => ?_
      refine h.next.bind fun t' _ => ?_
      split
      · exact .ok h.skip
      · refine h.skip.next.bind fun t'' _ => ?_
        extract_lets rest
        have hrest : ∀ v : Tree × Unread, v.2.Of s → Takes s (rest v) := fun ⟨_, _⟩ h =>
          (takes_flowValue fuel h).bind fun ⟨_, _⟩ h =>
            (takes_flowItems fuel false h).bind fun ⟨_, _⟩ h => .ok h
        have hempty : Takes s (rest (empty, u.skip)) := hrest (empty, u.skip) h.skip
        split
        · exact hempty
        · exact hempty
        · exact hempty
        · exact (takes_node fuel .flow h.skip).bind hrest
      · exact (takes_node fuel .flow h).bind fun ⟨_, _⟩ h =>
          (takes_flowItems fuel false h).bind fun ⟨_, _⟩ h => .ok h

theorem takes_flowEntries (fuel : Nat) (isFirst : Bool) {u : Unread} (h : u.Of s) :
    Takes s (flowEntries handles fuel isFirst u) := by
  match fuel with
  | 0 => exact .error .malformed
  | fuel + 1 =>
    rw [flowEntries]
    refine h.next.bind fun t _ => ?_
    split
    · exact .ok h.skip
    · refine (yields_separated h isFirst).bind fun u h => ?_
      refine h.next.bind fun t' _ => ?_
      split
      · exact .ok h.skip
      · refine h.skip.next.bind fun t'' _ => ?_
        extract_lets rest
        have hrest : ∀ v : Tree × Unread, v.2.Of s → Takes s (rest v) := fun ⟨_, _⟩ h =>
          (takes_flowValue fuel h).bind fun ⟨_, _⟩ h =>
            (takes_flowEntries fuel false h).bind fun ⟨_, _⟩ h => .ok h
        have hempty : Takes s (rest (empty, u.skip)) := hrest (empty, u.skip) h.skip
        split
        · exact hempty
        · exact hempty
        · exact hempty
        · exact (takes_node fuel .flow h.skip).bind hrest
      · exact (takes_node fuel .flow h).bind fun ⟨_, _⟩ h =>
          (takes_flowEntries fuel false h).bind fun ⟨_, _⟩ h => .ok h

theorem takes_flowValue (fuel : Nat) {u : Unread} (h : u.Of s) :
    Takes s (flowValue handles fuel u) := by
  match fuel with
  | 0 => exact .error .malformed
  | fuel + 1 =>
    rw [flowValue]
    refine h.next.bind fun t _ => ?_
    split
    · refine h.skip.next.bind fun t' _ => ?_
      split
      · exact .ok h.skip
      · exact .ok h.skip
      · exact .ok h.skip
      · exact takes_node fuel .flow h.skip
    · exact .ok h

end

theorem yields_directives (versioned : Bool) {ts : List Token} (h : ∀ t ∈ ts, t.Of s) :
    Yields (Fault s) (fun v => ∀ t ∈ v.2, t.Of s) (directives versioned handles ts) := by
  fun_induction directives versioned handles ts with
  | case1 => exact .error .malformed
  | case2 _ _ _ _ _ ih => exact ih (of_tail h)
  | case3 => exact .error .malformed
  | case4 _ _ _ _ _ _ ih => exact ih (of_tail h)
  | case5 _ _ _ ih => exact ih (of_tail h)
  | case6 => exact .ok h

theorem yields_atEnd (h : u.Of s) : OnlyFaults s (atEnd u) := by
  have hts : ∀ t ∈ u.tokens.dropWhile (· = .documentEnd), t.Of s := fun t ht =>
    h t ((List.dropWhile_sublist _).subset ht)
  unfold atEnd
  refine (Unread.Of.next (u := ⟨_, _⟩) hts).bind fun t _ => ?_
  split
  · exact .ok trivial
  · refine (yields_directives false hts).bind fun ⟨_, ts⟩ hts => ?_
    exact (Unread.Of.next (u := ⟨_, _⟩) hts).bind fun _ _ => .error .malformed

theorem takes_content (h : u.Of s) : Takes s (content handles u) := by
  unfold content
  refine h.next.bind fun t _ => ?_
  split
  · exact .ok h
  · exact .ok h
  · exact .ok h
  · exact .ok h
  · exact .ok h
  · exact .ok h
  · exact takes_node _ .block h

theorem yields_directed {ts : List Token} (h : ∀ t ∈ ts, t.Of s) :
    OnlyFaults s (do
      let (handles, ts) ← directives false [] ts
      let u : Unread := ⟨ts, []⟩
      match ← u.next with
      | .documentStart =>
        let (tree, u) ← content handles u.skip
        atEnd u
        return some tree
      | _ => throw malformed) := by
  refine (yields_directives false h).bind fun v hts => ?_
  have hu : Unread.Of s ⟨v.2, []⟩ := hts
  refine hu.next.bind fun t _ => ?_
  split
  · exact (takes_content hu.skip).bind fun _ h => (yields_atEnd h).bind fun _ _ => .ok trivial
  · exact .error .malformed

theorem yields_ofTokens {ts : List Token} (h : ∀ t ∈ ts, t.Of s) :
    OnlyFaults s (ofTokens ts) := by
  have hu : Unread.Of s ⟨ts, []⟩ := h
  unfold ofTokens
  refine hu.next.bind fun t _ => ?_
  split
  · exact .ok trivial
  · exact yields_directed h
  · exact yields_directed h
  · exact yields_directed h
  · exact yields_directed h
  · exact (takes_node _ .block hu).bind fun _ h => (yields_atEnd h).bind fun _ _ => .ok trivial

end Tree

namespace Graph

mutual

theorem onlyFaults_add (s : Stream) (b : Builder) (t : Tree) : OnlyFaults s (add b t) := by
  match t with
  | .alias a =>
    rw [add]
    split
    · exact .ok trivial
    · exact .error .malformed
  | .scalar props isOpen text => exact .ok trivial
  | .sequence props items =>
    rw [add]
    exact (onlyFaults_addAll s _ items).bind fun ⟨_, _⟩ _ => .ok trivial
  | .mapping props entries =>
    rw [add]
    exact (onlyFaults_addPairs s _ entries).bind fun ⟨_, _⟩ _ => .ok trivial

theorem onlyFaults_addAll (s : Stream) (b : Builder) (ts : List Tree) :
    OnlyFaults s (addAll b ts) := by
  match ts with
  | [] => exact .ok trivial
  | t :: ts =>
    rw [addAll]
    exact (onlyFaults_add s b t).bind fun ⟨_, b⟩ _ => (onlyFaults_addAll s b ts).bind
      fun ⟨_, _⟩ _ => .ok trivial

theorem onlyFaults_addPairs (s : Stream) (b : Builder) (ts : List (Tree × Tree)) :
    OnlyFaults s (addPairs b ts) := by
  match ts with
  | [] => exact .ok trivial
  | (key, value) :: ts =>
    rw [addPairs]
    exact (onlyFaults_add s b key).bind fun ⟨_, b⟩ _ => (onlyFaults_add s b value).bind
      fun ⟨_, b⟩ _ => (onlyFaults_addPairs s b ts).bind fun ⟨_, _⟩ _ => .ok trivial

end

theorem onlyFaults_ofTree (s : Stream) (t : Tree) : OnlyFaults s (ofTree t) :=
  (onlyFaults_add s _ t).bind fun _ _ => .ok trivial

mutual

theorem onlyFaults_merge (s : Stream) (fuel index : Nat) (merged : List (Nat × Nat)) (g : Graph)
    (n : Nat) : OnlyFaults s (merge fuel index merged g n) := by
  match fuel with
  | 0 =>
    unfold merge
    exact .ok trivial
  | fuel + 1 =>
    unfold merge
    dsimp only
    split
    · exact (onlyFaults_sources s _ _ _).bind fun ⟨more, g⟩ _ =>
        onlyFaults_merge s _ _ (merged ++ more) g n
    · exact .ok trivial

theorem onlyFaults_sources (s : Stream) (fuel : Nat) (g : Graph) (value : Nat) :
    OnlyFaults s (sources fuel g value) := by
  match fuel with
  | 0 =>
    unfold sources
    exact .error .malformed
  | fuel + 1 =>
    unfold sources
    split
    · exact (onlyFaults_merge s _ _ _ _ _).bind fun _ _ => .ok trivial
    · refine Yields.foldlM (fun ⟨found, g⟩ item => ?_) _ _
      dsimp only
      split
      · exact (onlyFaults_merge s _ _ _ _ _).bind fun _ _ => .ok trivial
      · exact .error .malformed
    · exact .error .malformed

end

end Graph

namespace Document

theorem onlyFaults_scalarText (s : Stream) (g : Graph) (fuel n : Nat) :
    OnlyFaults s (scalarText g fuel n) := by
  fun_induction scalarText g fuel n with
  | case1 => exact .error .endless
  | case2 => exact .ok trivial
  | case3 _ _ _ _ _ _ _ ih => exact ih
  | case4 => exact .error .malformed
  | case5 => exact .error .malformed

theorem onlyFaults_scalarValue (s : Stream) (g : Graph) (n : Nat) (tag : Tag) :
    OnlyFaults s (scalarValue g n tag) := by
  refine (onlyFaults_scalarText s g _ n).bind fun text _ => ?_
  split
  · exact .error .noText
  · exact .of_error fun f hf => .scalar hf

theorem onlyFaults_visit (s : Stream) (p : Progress) (n : Nat) : OnlyFaults s (visit p n) := by
  unfold visit
  split
  · dsimp only
    split
    · exact .ok trivial
    · exact (onlyFaults_scalarValue s _ _ _).bind fun _ _ => .ok trivial
  · exact .ok trivial

theorem onlyFaults_visitPair (s : Stream) (mustHash : Bool) (p : Progress) (entry : Nat × Nat) :
    OnlyFaults s (visitPair mustHash p entry) :=
  (onlyFaults_visit s p entry.1).bind fun p _ =>
    .check .malformed (onlyFaults_visit s p entry.2)

theorem onlyFaults_soleEntry (s : Stream) (g : Graph) (n : Nat) :
    OnlyFaults s (soleEntry g n) := by
  unfold soleEntry
  split
  · exact .ok trivial
  · exact .error .malformed

theorem onlyFaults_entries (s : Stream) (items : List Nat) (b : List (Nat × Nat) × Progress) :
    OnlyFaults s (items.foldlM (fun (found, p) item => do
      let entry ← soleEntry p.graph item
      return (found ++ [entry], ← visitPair false p entry)) b) :=
  Yields.foldlM (fun b item => (onlyFaults_soleEntry s b.2.graph item).bind fun entry _ =>
    (onlyFaults_visitPair s false b.2 entry).bind fun _ _ => .ok trivial) items b

theorem onlyFaults_fill (s : Stream) (p : Progress) (n : Nat) : OnlyFaults s (fill p n) := by
  unfold fill
  dsimp only
  split
  · exact (Yields.foldlM (onlyFaults_visit s) _ _).bind fun _ _ => .ok trivial
  · exact (onlyFaults_entries s _ _).bind fun _ _ => .ok trivial
  · exact (onlyFaults_entries s _ _).bind fun _ _ => .ok trivial
  · split
    · exact (Graph.onlyFaults_merge s _ _ _ _ _).bind fun g _ =>
        (Yields.foldlM (onlyFaults_visitPair s true) _ _).bind fun _ _ => .ok trivial
    · exact .error .malformed
  · exact .error .malformed

theorem onlyFaults_fillAll (s : Stream) (fuel : Nat) (p : Progress) :
    OnlyFaults s (fillAll fuel p) := by
  induction fuel generalizing p with
  | zero => exact .ok trivial
  | succ fuel ih =>
    rw [fillAll]
    split
    · exact .ok trivial
    · exact (onlyFaults_fill s _ _).bind fun p _ => ih p

theorem onlyFaults_ofGraph (s : Stream) (g : Graph) : OnlyFaults s (ofGraph g) :=
  (onlyFaults_visit s _ _).bind fun p _ => (onlyFaults_fillAll s _ p).bind fun _ _ => .ok trivial

theorem onlyFaults_parse (s : Stream) : OnlyFaults s (parse s) := by
  refine (Tree.yields_ofTokens (of_tokens s)).bind fun t _ => ?_
  split
  · exact .ok trivial
  · exact (Graph.onlyFaults_ofTree s _).bind fun g _ => onlyFaults_ofGraph s g

end Document

end CloudConf.Yaml
