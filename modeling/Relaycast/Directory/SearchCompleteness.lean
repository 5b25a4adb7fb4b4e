import Mathlib.Algebra.Order.Ring.Unbundled.Rat
import Relaycast.Directory.Search
import Relaycast.Relational.OrderBy

/-!
# When a search is complete

The complete answer to a search ranks all entries of the status that match (`completeSearch`).
`searchDirectory` gives it exactly if it asks for something and every entry of the complete answer
is among those it fetches (`searchDirectory_eq_complete_iff`): these are fetched by their numbers of
ratings, before anything is matched.
-/

namespace Directory

open Relational Script

variable (R : Runtime) (s : Tables) (fts : FullText) (workspaceId : WorkspaceId)
  (opts : SearchOptions)

/-! ## The complete answer -/

/-- The skills of an entry, in their order. -/
def Tables.skillsOf (a : DirectoryAgentRow) : List DirectorySkillRow :=
  (s.directorySkills.filter (·.directoryAgentId == a.id)).mergeSort DirectorySkillRow.positionLe

/-- Does the entry match the query, if there is one, and one of the tags, if there are any? -/
def answers (a : DirectoryAgentRow) : Bool :=
  (opts.ftsQuery R == "" || (s.ranks fts workspaceId (opts.ftsQuery R)).matched a.id) &&
    tagged R (opts.normalizedTags R) a (s.skillsOf a)

/-- The entry as it is to be returned. -/
def Tables.result (a : DirectoryAgentRow) : SearchResult :=
  enriched R (s.ranks fts workspaceId (opts.ftsQuery R)) (opts.normalizedTags R) a (s.skillsOf a)

/-- The first of all entries of the status that match, in the order of the results. -/
def completeSearch : List SearchResult :=
  ((((s.ofStatus workspaceId opts.statusFilter).filter (answers R s fts workspaceId opts)).map
    (s.result R fts workspaceId opts)).mergeSort (SearchResult.inOrder R)).take opts.limitOrDefault

/-! ## The condition -/

/-- Does the search name a term or a tag? -/
def SearchOptions.asks : Prop := opts.ftsQuery R ≠ "" ∨ opts.normalizedTags R ≠ []

/-- The ids of the entries that are fetched: the first of the status by their numbers of ratings. -/
def Tables.fetchedIds : List DirectoryAgentId :=
  ((s.ofStatus workspaceId opts.statusFilter).take (opts.effectiveLimit R)).map (·.id)

/-- The search asks for something, unless there is no entry of the status; and no entry of the
complete answer is beyond those that are fetched. -/
structure WithinFetch : Prop where
  asks : opts.asks R ∨ s.ofStatus workspaceId opts.statusFilter = []
  fetched : ∀ r ∈ completeSearch R s fts workspaceId opts, r.id ∈ s.fetchedIds R workspaceId opts

/-! ## Orders -/

section Orders

variable {R}

/-- The order of the results, spelled out. -/
lemma inOrder_iff {r r' : SearchResult} : r.inOrder R r' = true ↔
    r'.relevanceScore < r.relevanceScore ∨ (r.relevanceScore = r'.relevanceScore ∧
      (r'.ratingCount < r.ratingCount ∨ (r.ratingCount = r'.ratingCount ∧
        R.localeCompare r.slug r'.slug ≠ .gt))) := by
  unfold SearchResult.inOrder
  split_ifs with hscore hcount
  · simp [hscore]
  · rw [not_not] at hscore
    simp [hscore, hcount]
  · rw [not_not] at hscore hcount
    simp [hscore, hcount]

lemma inOrder_total (r r' : SearchResult) : (r.inOrder R r' || r'.inOrder R r) = true := by
  have := R.localeCompare_oriented
  rw [Bool.or_eq_true, inOrder_iff, inOrder_iff]
  rcases lt_trichotomy r.relevanceScore r'.relevanceScore with hlt | heq | hgt
  · exact .inr (.inl hlt)
  · rcases lt_trichotomy r.ratingCount r'.ratingCount with hlt | heq' | hgt
    · exact .inr (.inr ⟨heq.symm, .inl hlt⟩)
    · by_cases h : R.localeCompare r.slug r'.slug = .gt
      · refine .inr (.inr ⟨heq.symm, .inr ⟨heq'.symm, ?_⟩⟩)
        rw [Std.OrientedCmp.gt_iff_lt.mp h]
        exact Ordering.noConfusion
      · exact .inl (.inr ⟨heq, .inr ⟨heq', h⟩⟩)
    · exact .inl (.inr ⟨heq, .inl hgt⟩)
  · exact .inl (.inl hgt)

lemma inOrder_trans (r₁ r₂ r₃ : SearchResult) (h : r₁.inOrder R r₂ = true)
    (h' : r₂.inOrder R r₃ = true) : r₁.inOrder R r₃ = true := by
  have := R.localeCompare_trans
  rw [inOrder_iff] at h h' ⊢
  rcases h with hlt | ⟨heq, h⟩
  · refine .inl ?_
    rcases h' with hlt' | ⟨heq', -⟩
    · exact hlt'.trans hlt
    · exact heq' ▸ hlt
  · rcases h' with hlt' | ⟨heq', h'⟩
    · exact .inl (heq ▸ hlt')
    · refine .inr ⟨heq.trans heq', ?_⟩
      rcases h with hlt | ⟨hcount, hslug⟩
      · left
        omega
      · rcases h' with hlt' | ⟨hcount', hslug'⟩
        · left
          omega
        · have hle := Std.TransCmp.isLE_trans (Ordering.isLE_iff_ne_gt.mpr hslug)
            (Ordering.isLE_iff_ne_gt.mpr hslug')
          exact .inr ⟨hcount.trans hcount', Ordering.isLE_iff_ne_gt.mp hle⟩

lemma positionLe_total (d d' : DirectorySkillRow) : (d.positionLe d' || d'.positionLe d) = true := by
  simp only [DirectorySkillRow.positionLe, Bool.or_eq_true, decide_eq_true_eq]
  omega

lemma positionLe_trans (d₁ d₂ d₃ : DirectorySkillRow) (h : d₁.positionLe d₂ = true)
    (h' : d₂.positionLe d₃ = true) : d₁.positionLe d₃ = true := by
  simp only [DirectorySkillRow.positionLe, decide_eq_true_eq] at h h' ⊢
  omega

end Orders

/-! ## What is fetched -/

section Fetched

variable {R s fts workspaceId opts}

/-- The skills of an entry among those that are loaded. -/
lemma filter_loadSkills {rows : List DirectoryAgentRow} {a : DirectoryAgentRow} (ha : a ∈ rows) :
    (s.loadSkills (rows.map (·.id))).filter (·.directoryAgentId == a.id) = s.skillsOf a := by
  rw [Tables.loadSkills, filter_mergeSort positionLe_trans positionLe_total, List.filter_filter]
  have hsame : ∀ d : DirectorySkillRow, (d.directoryAgentId == a.id &&
      (rows.map (·.id)).contains d.directoryAgentId) = (d.directoryAgentId == a.id) := by
    intro d
    by_cases hd : d.directoryAgentId = a.id
    · have hfound : (rows.map (·.id)).contains d.directoryAgentId = true :=
        List.contains_iff_mem.mpr (hd ▸ List.mem_map.mpr ⟨a, ha, rfl⟩)
      rw [hfound, Bool.and_true]
    · simp [hd]
  simp only [hsame]
  rfl

/-- What is made of the entries that are left, with the skills that are loaded for them. -/
lemma scored_eq (ranks : Ranks) (tags : List String) (rows : List DirectoryAgentRow) :
    ((rows.filter fun a => tagged R tags a ((s.loadSkills (rows.map (·.id))).filter
      (·.directoryAgentId == a.id))).map fun a => enriched R ranks tags a
        ((s.loadSkills (rows.map (·.id))).filter (·.directoryAgentId == a.id))) =
    (rows.filter fun a => tagged R tags a (s.skillsOf a)).map fun a =>
      enriched R ranks tags a (s.skillsOf a) := by
  rw [List.filter_congr fun a ha => by rw [filter_loadSkills ha]]
  exact List.map_congr_left fun a ha => by rw [filter_loadSkills (List.mem_filter.mp ha).1]

/-- No two entries have one id. -/
lemma nodup_ofStatus (status : String) : ((s.ofStatus workspaceId status).map (·.id)).Nodup := by
  have hall : (s.directoryAgents.rows.map (·.id)).Nodup :=
    s.directoryAgents.nodup_map fun a a' h => by simp [Keyed.clash, Keyed.key, h]
  have hselected : (s.directoryAgents.select fun a =>
      a.workspaceId == workspaceId && a.status == status).Sublist s.directoryAgents.rows :=
    List.filter_sublist
  exact ((List.mergeSort_perm _ _).map _).nodup_iff.mpr (hall.sublist (hselected.map _))

/-- What a search returns that asks for something. -/
lemma searchDirectory_of_asks (hasks : opts.asks R) : searchDirectory R s fts workspaceId opts =
    (((((s.ofStatus workspaceId opts.statusFilter).take (opts.effectiveLimit R)).filter
      (answers R s fts workspaceId opts)).map (s.result R fts workspaceId opts)).mergeSort
        (SearchResult.inOrder R)).take opts.limitOrDefault := by
  have hguard : ¬ (opts.ftsQuery R = "" ∧ opts.normalizedTags R = []) := fun h =>
    hasks.elim (absurd h.1) (absurd h.2)
  unfold searchDirectory
  rw [if_neg hguard]
  dsimp only
  rw [scored_eq, List.filter_filter]
  have hsame : ∀ a : DirectoryAgentRow, (tagged R (opts.normalizedTags R) a (s.skillsOf a) &&
      (opts.ftsQuery R == "" || (s.ranks fts workspaceId (opts.ftsQuery R)).matched a.id)) =
        answers R s fts workspaceId opts a := fun a => Bool.and_comm _ _
  simp only [hsame]
  rfl

/-- The entries that are fetched, as those of all that are. -/
lemma filter_answers_take :
    (((s.ofStatus workspaceId opts.statusFilter).take (opts.effectiveLimit R)).filter
      (answers R s fts workspaceId opts)).map (s.result R fts workspaceId opts) =
    (((s.ofStatus workspaceId opts.statusFilter).filter (answers R s fts workspaceId opts)).map
      (s.result R fts workspaceId opts)).filter
        fun r => (s.fetchedIds R workspaceId opts).contains r.id := by
  rw [List.filter_map, List.filter_filter]
  congr 1
  rw [← filter_take (nodup_ofStatus opts.statusFilter) (opts.effectiveLimit R), List.filter_filter]
  refine List.filter_congr fun a _ => ?_
  exact Bool.and_comm _ _

/-- A search that asks for something is complete if nothing of the answer is beyond the fetch. -/
lemma eq_complete_iff_of_asks (hasks : opts.asks R) :
    searchDirectory R s fts workspaceId opts = completeSearch R s fts workspaceId opts ↔
      ∀ r ∈ completeSearch R s fts workspaceId opts, r.id ∈ s.fetchedIds R workspaceId opts := by
  simp only [← List.contains_iff_mem]
  rw [searchDirectory_of_asks hasks, filter_answers_take]
  exact take_mergeSort_filter_iff inOrder_trans inOrder_total _

end Fetched

/-- **A search gives the complete answer exactly if it asks for something, unless there is no entry
of the status, and no entry of the complete answer is beyond those that are fetched.** -/
theorem searchDirectory_eq_complete_iff :
    searchDirectory R s fts workspaceId opts = completeSearch R s fts workspaceId opts ↔
      WithinFetch R s fts workspaceId opts := by
  by_cases hasks : opts.asks R
  · rw [eq_complete_iff_of_asks hasks]
    exact ⟨fun h => ⟨.inl hasks, h⟩, WithinFetch.fetched⟩
  · obtain ⟨hquery, htags⟩ := not_or.mp hasks
    rw [not_not] at hquery htags
    have hnothing : searchDirectory R s fts workspaceId opts = [] := by
      unfold searchDirectory
      rw [if_pos ⟨hquery, htags⟩]
    -- Every entry of the status answers a search that asks for nothing.
    have hall : completeSearch R s fts workspaceId opts = [] ↔
        s.ofStatus workspaceId opts.statusFilter = [] := by
      have hanswers : (s.ofStatus workspaceId opts.statusFilter).filter
          (answers R s fts workspaceId opts) = s.ofStatus workspaceId opts.statusFilter :=
        List.filter_eq_self.mpr fun a _ => by simp [answers, hquery, htags, tagged]
      have hlimit : opts.limitOrDefault ≠ 0 := by
        unfold SearchOptions.limitOrDefault
        omega
      rw [completeSearch, hanswers, List.take_eq_nil_iff, or_iff_right hlimit]
      rw [← List.length_eq_zero_iff, List.length_mergeSort, List.length_map,
        List.length_eq_zero_iff]
    rw [hnothing, eq_comm, hall]
    constructor
    · intro hempty
      refine ⟨.inr hempty, fun r hr => ?_⟩
      rw [hall.mpr hempty] at hr
      exact absurd hr List.not_mem_nil
    · intro h
      exact h.asks.resolve_left hasks

/-! ## An entry beyond those that are fetched -/

/-- `1 / (1 + Math.abs(rank))`. -/
def textScore (rank : Option ℚ) : ℚ := (rank.map fun r => 1 / (1 + |r|)).getD 0

/-- A runtime for texts in lower-case ASCII, without rounding. -/
def asciiRuntime : Runtime where
  toLowerCase := id
  isLetterOrNumber := Char.isAlphanum
  localeCompare := compare
  localeCompare_oriented := inferInstance
  localeCompare_trans := inferInstance
  relevanceScore i :=
    textScore i.agentRank * (1 / 2) + textScore i.skillRank * (1 / 4) + i.tagMatches * (3 / 20) +
      (if i.ratingCount = 0 then 0 else i.ratingSum / i.ratingCount / 5) * (1 / 10)
  ratingQuotient sum count := sum / count

/-- An entry that was rated with five points so many times. -/
def entryOf (slug : String) (ratings : ℕ) : DirectoryAgentRow where
  id := "dir_" ++ slug
  workspaceId := "w"
  sourceAgentId := none
  slug := slug
  name := slug
  description := none
  provider := none
  endpointUrl := none
  documentationUrl := none
  version := none
  tags := []
  capabilities := .obj []
  metadata := .obj []
  status := "active"
  ratingSum := 5 * ratings
  ratingCount := ratings
  createdAt := 0
  updatedAt := 0

/-- Three entries with a rating, and one without. -/
def fourEntries : Tables where
  directoryAgents :=
    { rows := [entryOf "coder" 1, entryOf "reviewer" 1, entryOf "tester" 1, entryOf "planner" 0]
      unique := by decide +kernel }
  directorySkills := []

/-- The index matches the planner to its name. -/
def plannerIndex : FullText where
  directoryAgents query := if query = "planner" then [("dir_planner", -1)] else []
  directorySkills _ := []

/-- The best match for a query. -/
def bestPlanner : SearchOptions := ⟨some "planner", none, none, some ⟨1, Nat.one_pos⟩⟩

lemma ofStatus_fourEntries :
    fourEntries.ofStatus "w" "active" = fourEntries.directoryAgents.rows :=
  List.mergeSort_of_pairwise (by decide +kernel)

lemma completeSearch_fourEntries :
    (completeSearch asciiRuntime fourEntries plannerIndex "w" bestPlanner).map (·.id) =
      ["dir_planner"] := by
  have hanswers : (fourEntries.directoryAgents.rows.filter
      (answers asciiRuntime fourEntries plannerIndex "w" bestPlanner)).map (·.id) =
        ["dir_planner"] := by decide +kernel
  obtain ⟨a, hone, hid⟩ := List.map_eq_singleton_iff.mp hanswers
  have hsorted : fourEntries.ofStatus "w" bestPlanner.statusFilter = _ := ofStatus_fourEntries
  rw [completeSearch, hsorted, hone, List.map_singleton, List.mergeSort_singleton]
  show [a.id] = _
  rw [hid]

lemma fetchedIds_fourEntries : fourEntries.fetchedIds asciiRuntime "w" bestPlanner =
    ["dir_coder", "dir_reviewer", "dir_tester"] := by
  have hsorted : fourEntries.ofStatus "w" bestPlanner.statusFilter = _ := ofStatus_fourEntries
  rw [Tables.fetchedIds, hsorted]
  decide +kernel

/-- **The only match is not found**: three entries with more ratings are fetched in its place. -/
theorem not_searchDirectory_eq_complete_fourEntries :
    ¬ ∀ R s fts workspaceId opts,
      searchDirectory R s fts workspaceId opts = completeSearch R s fts workspaceId opts := by
  intro h
  have hfound : "dir_planner" ∈
      (completeSearch asciiRuntime fourEntries plannerIndex "w" bestPlanner).map (·.id) := by
    rw [completeSearch_fourEntries]
    exact List.mem_singleton_self _
  obtain ⟨a, ha, hid⟩ := List.mem_map.mp hfound
  have hasks : bestPlanner.asks asciiRuntime := .inl (by decide +kernel)
  have hwithin := (eq_complete_iff_of_asks hasks).mp
    (h asciiRuntime fourEntries plannerIndex "w" bestPlanner) a ha
  rw [fetchedIds_fourEntries, hid] at hwithin
  exact absurd hwithin (by decide)

end Directory
