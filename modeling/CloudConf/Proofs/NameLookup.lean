import CloudConf.Proofs.InstallSteps

/-! # What comes of looking up a network by its name -/
namespace CloudConf

namespace NetworkClient

def listedIds (c : NetworkClient) (name : WideText) : List (Option String) :=
  (if c.filters then c.networks.filter (·.name = name) else c.networks).map (·.id)

theorem listing_of_failure {c : NetworkClient} {f : Failure} (h : c.failure = some f)
    (name : WideText) : ∃ yielded, c.listing name = (yielded, some f) := by
  rw [listing, h]
  exact ⟨_, rfl⟩

theorem listing_of_none {c : NetworkClient} (h : c.failure = none) (name : WideText) :
    c.listing name = (c.matching name, none) := by
  rw [listing, h]

theorem listedIds_of_filters {c : NetworkClient} (h : c.filters) (name : WideText) :
    c.listedIds name = (c.networks.filter (·.name = name)).map (·.id) := by
  rw [listedIds, if_pos h]

end NetworkClient

namespace Lookup

/-- What has to come of the ids that are listed for a name: without any, the name is not found; a
single one is the answer, even one that is missing; of several the first that is missing is
reported, or else how many there are, and which. -/
inductive Answers (name : WideText) :
    List (Option String) → Except Failure (Option String) → Prop
  | none : Answers name []
      (.error (.alone (.cloud .notFound) s!"Unable to find network with name {name}"))
  | one (id : Option String) : Answers name [id] (.ok id)
  | several (ids : List String) (h : 2 ≤ ids.length) : Answers name (ids.map some)
      (.error (.alone (.cloud .duplicate)
        (s!"Found {ids.length} networks with name {name}: " ++ ", ".intercalate ids)))
  | missing (found : List String) (rest : List (Option String))
      (h : 0 < found.length + rest.length) :
      Answers name (found.map some ++ Option.none :: rest)
      (.error (.alone (.plain .type)
        s!"sequence item {found.length}: expected str instance, NoneType found"))

theorem allIds_map_some (k : Nat) (ids : List String) : allIds k (ids.map some) = .ok ids := by
  induction ids generalizing k with
  | nil => rfl
  | cons id ids ih =>
    rw [List.map_cons, allIds, ih]
    rfl

theorem allIds_append_none (k : Nat) (found : List String) (rest : List (Option String)) :
    allIds k (found.map some ++ none :: rest) = .error (k + found.length) := by
  induction found generalizing k with
  | nil => rfl
  | cons id found ih =>
    rw [List.map_cons, List.cons_append, allIds, ih, List.length_cons, Nat.add_right_comm]
    rfl

theorem eq_map_some_or_append_none (ids : List (Option String)) :
    (∃ found : List String, ids = found.map some) ∨
      ∃ (found : List String) (rest : List (Option String)),
        ids = found.map some ++ none :: rest := by
  induction ids with
  | nil => exact .inl ⟨[], rfl⟩
  | cons id ids ih =>
    cases id with
    | none => exact .inr ⟨[], ids, rfl⟩
    | some id =>
      rcases ih with ⟨found, rfl⟩ | ⟨found, rest, rfl⟩
      · exact .inl ⟨id :: found, rfl⟩
      · exact .inr ⟨id :: found, rest, rfl⟩

def verdict (name : WideText) : List (Option String) → Except Failure (Option String)
  | [] => .error (notFound name)
  | [id] => .ok id
  | ids => .error (ambiguous name ids)

theorem verdict_of_two_le {name : WideText} {ids : List (Option String)} (h : 2 ≤ ids.length) :
    verdict name ids = .error (ambiguous name ids) := by
  match ids, h with
  | _ :: _ :: _, _ => rfl

theorem verdict_eq_ok_iff {name : WideText} {ids : List (Option String)} {id : Option String} :
    verdict name ids = .ok id ↔ ids = [id] := by
  match ids with
  | [] => simp [verdict]
  | [id'] => simp [verdict]
  | _ :: _ :: _ => simp [verdict]

theorem answers_verdict (name : WideText) (ids : List (Option String)) :
    Answers name ids (verdict name ids) := by
  match ids with
  | [] => exact .none
  | [id] => exact .one id
  | first :: second :: others =>
    have hlen : 2 ≤ (first :: second :: others).length := by simp
    rw [verdict_of_two_le hlen, ambiguous]
    rcases eq_map_some_or_append_none (first :: second :: others) with
      ⟨found, he⟩ | ⟨found, rest, he⟩
    · rw [he, List.length_map] at hlen
      rw [he, allIds_map_some]
      exact .several found hlen
    · rw [he, List.length_append, List.length_map, List.length_cons] at hlen
      rw [he, allIds_append_none, Nat.zero_add]
      exact .missing found rest (by omega)

theorem answers_iff {name : WideText} {ids : List (Option String)}
    {r : Except Failure (Option String)} : Answers name ids r ↔ r = verdict name ids := by
  constructor
  · intro h
    cases h with
    | none => rfl
    | one id => rfl
    | several found h =>
      rw [verdict_of_two_le (by rwa [List.length_map]), ambiguous, allIds_map_some]
      rfl
    | missing found rest h =>
      have hlen : 2 ≤ (found.map some ++ none :: rest).length := by
        rw [List.length_append, List.length_map, List.length_cons]
        omega
      rw [verdict_of_two_le hlen, ambiguous, allIds_append_none, Nat.zero_add]
  · rintro rfl
    exact answers_verdict name ids

theorem answer_of_failure {c : NetworkClient} {f : Failure} (h : c.failure = some f)
    (name : WideText) : answer c name = .error f := by
  obtain ⟨yielded, hl⟩ := NetworkClient.listing_of_failure h name
  rw [answer, hl]

theorem answer_of_none {c : NetworkClient} (h : c.failure = none) (name : WideText) :
    answer c name = verdict name (c.listedIds name) := by
  rw [answer, NetworkClient.listing_of_none h]
  rfl

/-- There is an answer exactly if a listing that does not fail yields a single network. -/
theorem answer_eq_ok_iff {c : NetworkClient} {name : WideText} {id : Option String} :
    answer c name = .ok id ↔ c.failure = none ∧ ∃ n, c.matching name = [n] ∧ n.id = id := by
  cases h : c.failure with
  | some f => simp [answer_of_failure h]
  | none =>
    have hids : c.listedIds name = (c.matching name).map (·.id) := rfl
    simp [answer_of_none h, verdict_eq_ok_iff, hids, List.map_eq_singleton_iff]

/-- A client that filters answers for the names that exactly one of its networks bears. -/
theorem exists_answer_eq_ok_iff {c : NetworkClient} (hf : c.filters) (h : c.failure = none)
    (name : WideText) :
    (∃ id, answer c name = .ok id) ↔ c.networks.countP (·.name = name) = 1 := by
  have hmatching : c.matching name = c.networks.filter (·.name = name) := if_pos hf
  rw [List.countP_eq_length_filter, List.length_eq_one_iff, ← hmatching]
  constructor
  · rintro ⟨id, hid⟩
    obtain ⟨-, n, hn, -⟩ := answer_eq_ok_iff.1 hid
    exact ⟨n, hn⟩
  · rintro ⟨n, hn⟩
    exact ⟨n.id, answer_eq_ok_iff.2 ⟨h, n, hn, rfl⟩⟩

/-- Looking up a name asks the client once, for that name. A listing that fails, whatever it has
yielded by then, fails the look-up with its own failure; what comes of any other is settled by its
ids. A client that filters answers exactly for the names that one of its networks alone bears, and
finds nothing for a name that none bears, though it may be the id of one. -/
theorem resolve_answers_for_listing (c : NetworkClient) (name : WideText) (j : Journal) :
    ((resolve c name).runOn j).2.demands = j.demands ++ [.call (.networks name)] ∧
    (∀ f, c.failure = some f → ((resolve c name).runOn j).1 = .error f) ∧
    (c.failure = none → ∀ r,
      ((resolve c name).runOn j).1 = r ↔ Answers name (c.listedIds name) r) ∧
    (c.failure = none → c.filters →
      ((∃ id, ((resolve c name).runOn j).1 = .ok id) ↔
        c.networks.countP (·.name = name) = 1) ∧
      ((∀ n ∈ c.networks, n.name ≠ name) →
        ((resolve c name).runOn j).1 = .error (notFound name))) := by
  obtain ⟨hanswer, hasked⟩ := runOn_resolve c name j
  rw [hanswer]
  refine ⟨hasked, fun f hf => answer_of_failure hf name, ?_, ?_⟩
  · intro hn r
    rw [answer_of_none hn, answers_iff, eq_comm]
  · intro hn hf
    refine ⟨exists_answer_eq_ok_iff hf hn name, ?_⟩
    intro hnone
    have hempty : c.networks.filter (·.name = name) = [] := by simpa using hnone
    rw [answer_of_none hn, NetworkClient.listedIds_of_filters hf, hempty]
    rfl

/-- The second of two networks has no id; the id of the third is not its name. -/
theorem resolve_answers_for_listing_missingId :
    let client (failure : Option Failure) : NetworkClient :=
      { networks := [⟨some "a", .ofString "net"⟩, ⟨none, .ofString "net"⟩,
          ⟨some "b", .ofString "other"⟩]
        filters := true
        failure
        yields := 2 }
    let resolved (failure : Option Failure) (name : String) : Except Failure (Option String) :=
      ((resolve (client failure) (.ofString name)).runOn ⟨[], []⟩).1
    let down : Failure := .alone (.cloud .http) "down"
    resolved none "net" = .error (.alone (.plain .type)
        "sequence item 1: expected str instance, NoneType found") ∧
      (∃ id, resolved none "other" = .ok id) ∧
      resolved none "b" = .error (notFound (.ofString "b")) ∧
      resolved (some down) "net" = .error down := by
  intro client resolved down
  have hmissing : Answers (.ofString "net") ((client none).listedIds (.ofString "net"))
      (.error (.alone (.plain .type)
        "sequence item 1: expected str instance, NoneType found")) := by
    have hids : (client none).listedIds (.ofString "net") = ["a"].map some ++ [none] := by
      decide +kernel
    rw [hids]
    exact .missing ["a"] [] (by decide)
  obtain ⟨-, -, hnet, -⟩ := resolve_answers_for_listing (client none) (.ofString "net") ⟨[], []⟩
  obtain ⟨-, -, -, hother⟩ :=
    resolve_answers_for_listing (client none) (.ofString "other") ⟨[], []⟩
  obtain ⟨-, -, -, hb⟩ := resolve_answers_for_listing (client none) (.ofString "b") ⟨[], []⟩
  obtain ⟨-, hdown, -⟩ :=
    resolve_answers_for_listing (client (some down)) (.ofString "net") ⟨[], []⟩
  exact ⟨(hnet rfl _).2 hmissing, (hother rfl rfl).1.2 (by decide +kernel),
    (hb rfl rfl).2 (by decide +kernel), hdown down rfl⟩

end Lookup

end CloudConf
