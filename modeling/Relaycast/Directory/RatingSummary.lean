import Mathlib.Data.Multiset.OrderedMonoid
import Relaycast.Directory.Rating

/-!
# The summary of an entry's ratings

Once no call is in flight, every entry carries the sum and the number of its ratings, provided that
every summary is written while the scores are still those it was computed from
(`ratingsSummarised_of_scoresKept`).  A summary that is computed before another rating and written
after that rating's own summary hides the rating until the next one.

A call that has written a rating and not yet the summary owes the summary of that entry; what the
calls owe together is a multiset of entries.
-/

namespace Directory

open Relational Interleaving

/-- At most one rating of an entry by each rater, and whenever no call is in flight every entry
carries the sum and the number of its ratings. -/
structure RatingsSummarised (g : Config lang Store Result) : Prop where
  onePerRater : ∀ r ∈ g.world.store.ratings, ∀ r' ∈ g.world.store.ratings,
    r.directoryAgentId = r'.directoryAgentId → r.raterAgentId = r'.raterAgentId → r = r'
  summary : g.isIdle = true → ∀ a ∈ g.world.store.directoryAgents, g.world.store.summarises a

/-! ## The condition -/

/-- Did the statement read the scores of the entry? -/
def Stmt.findsScores (directoryAgentId : DirectoryAgentId) : Stmt → Bool
  | .findScores id => id == directoryAgentId
  | _ => false

/-- The scores of the entry are as call `i` has read them. -/
def scoresKept (directoryAgentId : DirectoryAgentId) (w : World lang Store) (i : ℕ) : Bool :=
  (w.eventsOf i).all fun e =>
    !e.stmt.findsScores directoryAgentId ||
      e.before.scores directoryAgentId == w.store.scores directoryAgentId

/-- A summary is written while the scores are still those it was computed from. -/
def summaryCurrent (w : World lang Store) (i : ℕ) : Stmt → Bool
  | .updateSummary directoryAgentId _ _ => scoresKept directoryAgentId w i
  | _ => true

/-- The runs in which every summary is current when it is written. -/
def SummariesCurrent : Regime lang Store Call where
  calls _ := True
  permits w i q := summaryCurrent w i q = true
  crashes := True

/-! ## What a statement does to the scores -/

section Scores

variable {s : Store} {directoryAgentId : DirectoryAgentId}

/-- An update of ratings leaves the scores of the other entries. -/
lemma Store.scores_update {p : RatingRow → Bool} {data : DirectoryRatingInput} {now : Millis}
    (hp : ∀ r ∈ s.ratings, p r = true → r.directoryAgentId ≠ directoryAgentId) :
    { s with ratings := s.ratings.update p (RatingRow.rated data now) fun _ => rfl }.scores
      directoryAgentId = s.scores directoryAgentId := by
  simp only [scores, Table.select, Table.update, List.filter_map, List.map_map]
  have hsame : ∀ r : RatingRow, (if p r then r.rated data now else r).directoryAgentId =
      r.directoryAgentId := fun r => by split_ifs <;> rfl
  simp only [Function.comp_def, hsame]
  refine List.map_congr_left fun r hr => ?_
  obtain ⟨hmem, hid⟩ := List.mem_filter.mp hr
  have hmiss : p r ≠ true := fun hhit => hp r hmem hhit (by simpa using hid)
  rw [if_neg hmiss]

/-- A new rating leaves the scores of the other entries. -/
lemma Store.scores_insert {r : RatingRow} (h : s.ratings.conflicts r = false)
    (hr : r.directoryAgentId ≠ directoryAgentId) :
    { s with ratings := s.ratings.insert r h }.scores directoryAgentId =
      s.scores directoryAgentId := by
  simp [scores, Table.select, Table.insert, hr]

/-- What the entries are once a summary is written. -/
lemma mem_updateSummary {summary : Summary} {now : Millis} {b : DirectoryAgentRow}
    (hb : b ∈ (run (.updateSummary directoryAgentId summary now) () s).2.directoryAgents) :
    ∃ a ∈ s.directoryAgents, b = if a.id = directoryAgentId then a.summarised summary now else a := by
  obtain ⟨a, ha, rfl⟩ := List.mem_map.mp hb
  exact ⟨a, ha, by simp only [beq_iff_eq]⟩

/-- A rating stays when ratings are rated anew. -/
lemma mem_updateRating {id : String} {data : DirectoryRatingInput} {now : Millis} {r : RatingRow}
    (hr : r ∈ s.ratings) : ∃ r' ∈ (run (.updateRating id data now) () s).2.ratings, r'.id = r.id ∧
      r'.directoryAgentId = r.directoryAgentId := by
  refine ⟨if r.id == id then r.rated data now else r, List.mem_map.mpr ⟨r, hr, rfl⟩, ?_, ?_⟩ <;>
    split_ifs <;> rfl

end Scores

/-! ## The account -/

/-- Every entry whose summary nobody owes carries the summary of its ratings. -/
def Settled (w : World lang Store) (owed : Multiset DirectoryAgentId) : Prop :=
  ∀ a ∈ w.store.directoryAgents, a.id ∉ owed → w.store.summarises a

/-- The ratings of `w` are rated anew at most. -/
def RatingsKept (w w' : World lang Store) : Prop :=
  ∀ r ∈ w.store.ratings, ∃ r' ∈ w'.store.ratings, r'.id = r.id ∧
    r'.directoryAgentId = r.directoryAgentId

lemma RatingsKept.of_eq {w w' : World lang Store} (h : w'.store.ratings = w.store.ratings) :
    RatingsKept w w' := fun r hr => ⟨r, h ▸ hr, rfl, rfl⟩

/-- Calls own their history and the summaries they owe, and ratings are kept. -/
def account : Discipline lang Store (Multiset DirectoryAgentId) where
  rely i w w' := w'.eventsOf i = w.eventsOf i ∧ RatingsKept w w'
  refl _ _ := ⟨rfl, .of_eq rfl⟩
  trans _ _ _ _ h h' := by
    refine ⟨h'.1.trans h.1, fun r hr => ?_⟩
    obtain ⟨r₁, hr₁, hid, hagent⟩ := h.2 r hr
    obtain ⟨r₂, hr₂, hid', hagent'⟩ := h'.2 r₁ hr₁
    exact ⟨r₂, hr₂, hid'.trans hid, hagent'.trans hagent⟩
  inv := Settled

/-- Call `i`, owing `owed` in `w`, is safe to run, and returns owing what `Q` says. -/
abbrev Pays (i : ℕ) {α : Type}
    (Q : α → Multiset DirectoryAgentId → World lang Store → Prop) (p : Prog lang α)
    (owed : Multiset DirectoryAgentId) (w : World lang Store) : Prop :=
  account.Safe machine SummariesCurrent.permits i Q p owed w

variable {i : ℕ} {α : Type} {Q : α → Multiset DirectoryAgentId → World lang Store → Prop}
  {w : World lang Store} {owed : Multiset DirectoryAgentId}

/-- Does the statement only read? -/
def Stmt.reads : Stmt → Bool
  | .updateRating .. | .insertRating .. | .updateSummary .. => false
  | _ => true

lemma store_of_reads {q : Stmt} (hq : q.reads = true) (a : q.Answer) (s : Store) :
    (run q a s).2 = s := by
  cases q <;> first | rfl | simp [Stmt.reads] at hq

/-- A statement that only reads. -/
lemma Pays.read {q : Stmt} {f : q.Reply → Prog lang α} (hq : q.reads = true)
    (hf : ∀ w' a, account.rely i w w' →
      Pays i Q (f (run q a w'.store).1) owed (w'.after machine i q a)) :
    Pays i Q (await q >>= f) owed w := by
  refine Discipline.Safe.ask_bind fun w' rest hrely hI _ a => ⟨fun j hj => ?_, owed, ?_, ?_⟩
  · exact ⟨World.eventsOf_after_ne machine w' i q a hj,
      .of_eq (congrArg Store.ratings (store_of_reads hq a w'.store))⟩
  · show Settled _ _
    intro b hb hnot
    have hstore : (w'.after machine i q a).store = w'.store := store_of_reads hq a w'.store
    rw [hstore] at hb ⊢
    exact hI b hb hnot
  · rintro r rfl
    exact hf w' a hrely

/-- **The summary is paid**: it says what the ratings are when it is written. -/
lemma recalculateRatingSummary_pays (directoryAgentId : DirectoryAgentId)
    (w : World lang Store) :
    Pays i (fun _ owed _ => owed = 0) (recalculateRatingSummary directoryAgentId)
      {directoryAgentId} w := by
  refine Pays.read rfl fun w₁ a₁ _ => ?_
  refine Pays.read rfl fun w₂ a₂ hrely₂ => ?_
  refine Discipline.Safe.ask_bind fun w₃ rest hrely₃ hI hcurrent a₃ => ⟨fun j hj => ?_, 0, ?_, ?_⟩
  · exact ⟨World.eventsOf_after_ne machine w₃ i _ a₃ hj, .of_eq rfl⟩
  · -- The call's own read of the scores, which the condition speaks about.
    have hread : w₁.event machine i (.findScores directoryAgentId) a₁ ∈ w₃.eventsOf i := by
      rw [hrely₃.1, World.eventsOf_after_self, hrely₂.1, World.eventsOf_after_self]
      exact List.mem_cons_of_mem _ List.mem_cons_self
    have hscores : w₁.store.scores directoryAgentId = w₃.store.scores directoryAgentId := by
      have hkept := List.all_eq_true.mp hcurrent _ hread
      simpa [Stmt.findsScores] using hkept
    intro b hb hnot
    obtain ⟨a, ha, rfl⟩ := mem_updateSummary hb
    by_cases hid : a.id = directoryAgentId
    · rw [if_pos hid]
      show summaryOf (w₁.store.scores directoryAgentId) = summaryOf (w₃.store.scores a.id)
      rw [hscores, hid]
    · rw [if_neg hid] at hnot ⊢
      refine hI a ha ?_
      simp only [Multiset.mem_add, Multiset.mem_singleton]
      rintro (hsame | hrest)
      · exact hid hsame
      · exact hnot (by simpa using hrest)
  · rintro r -
    rfl

lemma summariseAndReturn_pays (directoryAgentId : DirectoryAgentId) (saved : Option RatingRow)
    (w : World lang Store) :
    Pays i (fun _ owed _ => owed = 0) (summariseAndReturn directoryAgentId saved)
      {directoryAgentId} w := by
  refine Discipline.Safe.bind (recalculateRatingSummary_pays directoryAgentId w) ?_
  rintro _ _ w rfl
  cases saved with
  | none => rfl
  | some saved => exact Pays.read rfl fun _ _ _ => rfl

/-- Rating anew an entry's rating. -/
lemma updateRating_pays {existing : RatingRow} {data : DirectoryRatingInput} {now : Millis}
    (hkept : ∃ r ∈ w.store.ratings, r.id = existing.id ∧
      r.directoryAgentId = existing.directoryAgentId) :
    Pays i (fun _ owed _ => owed = 0) (do
      let saved : Option RatingRow ← await (.updateRating existing.id data now)
      summariseAndReturn existing.directoryAgentId saved) 0 w := by
  refine Discipline.Safe.ask_bind fun w' rest hrely hI _ a =>
    ⟨fun j hj => ?_, {existing.directoryAgentId}, ?_, fun _ _ => summariseAndReturn_pays _ _ _⟩
  · exact ⟨World.eventsOf_after_ne machine w' i _ a hj, fun _ => mem_updateRating⟩
  · intro b hb hnot
    simp only [Multiset.mem_add, Multiset.mem_singleton, not_or] at hnot
    have hscores : (w'.after machine i (.updateRating existing.id data now) a).store.scores b.id =
        w'.store.scores b.id := by
      refine Store.scores_update fun r hr hid => ?_
      obtain ⟨r₀, hr₀, hid₀, hagent₀⟩ := hkept
      obtain ⟨r₁, hr₁, hid₁, hagent₁⟩ := hrely.2 r₀ hr₀
      have hsame : r = r₁ := Table.eq_of_clash hr hr₁ (by
        simp [Keyed.clash, Keyed.key, hid₁, hid₀, beq_iff_eq.mp hid])
      rw [hsame, hagent₁, hagent₀]
      exact Ne.symm hnot.1
    show _ = summaryOf _
    rw [hscores]
    exact hI b hb (by simpa using hnot.2)

/-- A first rating. -/
lemma insertRating_pays (workspaceId : WorkspaceId) (directoryAgentId : DirectoryAgentId)
    (data : DirectoryRatingInput) (now : Millis) (w : World lang Store) :
    Pays i (fun _ owed _ => owed = 0) (do
      let inserted : Option RatingRow ← await (.insertRating workspaceId directoryAgentId data now)
      match inserted with
      | none => return .error .constraint
      | some saved => summariseAndReturn directoryAgentId (some saved)) 0 w := by
  refine Discipline.Safe.ask_bind fun w' rest hrely hI _ a => ?_
  by_cases hok : w'.store.refers (insertedRating a workspaceId directoryAgentId data now) = true ∧
      w'.store.ratings.conflicts (insertedRating a workspaceId directoryAgentId data now) = false
  · have hrun : run (.insertRating workspaceId directoryAgentId data now) a w'.store =
        (some (insertedRating a workspaceId directoryAgentId data now),
          { w'.store with ratings := w'.store.ratings.insert _ hok.2 }) := dif_pos hok
    refine ⟨fun j hj => ⟨World.eventsOf_after_ne machine w' i _ a hj, fun r hr => ?_⟩,
      {directoryAgentId}, fun b hb hnot => ?_, ?_⟩
    · refine ⟨r, ?_, rfl, rfl⟩
      rw [World.after_store, show machine.run = run from rfl, hrun]
      exact List.mem_append_left _ hr
    · simp only [Multiset.mem_add, Multiset.mem_singleton, not_or] at hnot
      rw [World.after_store, show machine.run = run from rfl, hrun] at hb ⊢
      show _ = summaryOf _
      rw [Store.scores_insert hok.2 (Ne.symm hnot.1)]
      exact hI b hb (by simpa using hnot.2)
    · rintro r rfl
      rw [show machine.run = run from rfl, hrun]
      exact summariseAndReturn_pays _ _ _
  · have hrun : run (.insertRating workspaceId directoryAgentId data now) a w'.store =
        (none, w'.store) := dif_neg hok
    refine ⟨fun j hj => ⟨World.eventsOf_after_ne machine w' i _ a hj, .of_eq ?_⟩, 0, ?_, ?_⟩
    · rw [World.after_store, show machine.run = run from rfl, hrun]
    · show Settled _ _
      intro b hb hnot
      rw [World.after_store, show machine.run = run from rfl, hrun] at hb ⊢
      exact hI b hb hnot
    · rintro r rfl
      rw [show machine.run = run from rfl, hrun]
      rfl

lemma upsertDirectoryRating_pays (c : Call) (w : World lang Store) :
    Pays i (fun _ owed _ => owed = 0) (upsertDirectoryRating c.workspaceId c.slug c.data) 0 w := by
  refine Pays.read rfl fun w₁ a₁ _ => ?_
  cases hrow : (run (.findDirectoryAgent c.workspaceId c.slug) a₁ w₁.store).1 with
  | none => rfl
  | some row =>
    refine Pays.read rfl fun w₂ a₂ _ => ?_
    cases hfind : (run (.findRating row.id c.data.raterAgentId) a₂ w₂.store).1 with
    | none => exact Pays.read rfl fun _ _ _ => insertRating_pays _ _ _ _ _
    | some existing =>
      refine Pays.read rfl fun w₃ a₃ hrely₃ => ?_
      have hagent : existing.directoryAgentId = row.id := by
        have htest := List.find?_some hfind
        simp only [Bool.and_eq_true, beq_iff_eq] at htest
        exact htest.1
      show Pays i _ (do
        let saved : Option RatingRow ← await (.updateRating existing.id c.data _)
        summariseAndReturn row.id saved) 0 _
      rw [← hagent]
      exact updateRating_pays (hrely₃.2 existing (List.mem_of_find?_eq_some hfind))

/-! ## Every run -/

lemma account_keeps : account.Keeps system SummariesCurrent (fun _ _ _ owed _ => owed = 0) where
  init _ hs a ha _ := hs a ha
  drift_inv _ _ _ h := h
  drift_rely _ _ _ := ⟨rfl, .of_eq rfl⟩
  call c _ _ w _ _ _ := upsertDirectoryRating_pays c w

/-- **Entries carry the summaries of their ratings** in every run in which every summary is written
while the scores are still those it was computed from. -/
theorem ratingsSummarised_of_scoresKept {g : Config lang Store Result}
    (h : system.Reachable SummariesCurrent g) : RatingsSummarised g where
  onePerRater _ hr _ hr' hagent hrater := RatingRow.eq_of_rater hr hr' hagent hrater
  summary hidle a ha :=
    account_keeps.inv_of_isIdle (fun _ _ _ _ _ howed => howed) h hidle a ha (Multiset.notMem_zero _)

/-- An entry without ratings. -/
def unrated : DirectoryAgentRow where
  id := "dir_1"
  workspaceId := "w"
  sourceAgentId := none
  slug := "planner"
  name := "Planner"
  description := none
  provider := none
  endpointUrl := none
  documentationUrl := none
  version := none
  tags := []
  capabilities := .obj []
  metadata := .obj []
  status := "active"
  ratingSum := 0
  ratingCount := 0
  createdAt := 0
  updatedAt := 0

/-- The entry, and two agents that rate it. -/
def twoRaters : Store where
  agents := [⟨"r1", "Rob"⟩, ⟨"r2", "Rita"⟩]
  directoryAgents := Table.empty.insert unrated rfl
  ratings := .empty
  clock := 1000

/-- The call of a rater. -/
def rates (raterAgentId : AgentId) (score : ℤ) : Call := ⟨"w", "planner", ⟨raterAgentId, score, none⟩⟩

/-- Let call `i` execute `k` statements; a rating it inserts gets the id. -/
def execute (i k : ℕ) (id : String) : List system.Move :=
  List.replicate k (.exec i fun
    | .insertRating .. => id
    | .newDate | .findDirectoryAgent .. | .findRating .. | .updateRating .. | .findScores _
    | .updateSummary .. | .findRater _ => ())

lemma init_twoRaters : system.init twoRaters := by
  intro a ha
  obtain rfl := List.mem_singleton.mp ha
  rfl

/-- The condition holds, for instance, of two ratings one after the other. -/
theorem ratingsSummarised_of_scoresKept_oneAfterTheOther :
    RatingsSummarised (system.runFrom twoRaters
      (.start (rates "r1" 5) :: execute 0 8 "1" ++ .start (rates "r2" 3) :: execute 1 8 "2")) :=
  ratingsSummarised_of_scoresKept (system.runFrom_reachable_of _ init_twoRaters
    (system.allowsAll_of_passes (fun _ _ _ hq => hq) (fun _ _ => trivial) (by decide +kernel)))

/-- The first call reads the scores, the second rates the entry and writes its summary, and the
first writes the summary of what it had read. -/
def overtaken : List system.Move :=
  .start (rates "r1" 5) :: execute 0 5 "1" ++ .start (rates "r2" 3) :: execute 1 8 "2" ++
    execute 0 3 "1"

/-- **A summary that is overtaken hides a rating.** -/
theorem not_ratingsSummarised_overtaken :
    ¬ ∀ g, system.Reachable (Regime.crashFree lang Store Call) g → RatingsSummarised g := by
  intro h
  have hreachable : system.Reachable (Regime.crashFree lang Store Call)
      (system.runFrom twoRaters overtaken) :=
    system.runFrom_reachable_crashFree init_twoRaters (by decide +kernel)
  have hidle : (system.runFrom twoRaters overtaken).isIdle = true := by decide +kernel
  have hsummary := (h _ hreachable).summary hidle
  have hwrong : ((system.runFrom twoRaters overtaken).world.store.directoryAgents.rows.map fun a =>
      (a.ratingCount, ((system.runFrom twoRaters overtaken).world.store.scores a.id).length)) =
      [(1, 2)] := by decide +kernel
  obtain ⟨a, ha, hcounts⟩ := List.mem_map.mp (hwrong ▸ List.mem_singleton_self (1, 2))
  have hcount := congrArg Summary.ratingCount (hsummary a ha)
  simp only [Prod.mk.injEq] at hcounts
  rw [hcounts.1] at hcount
  have hlength : 1 = ((system.runFrom twoRaters overtaken).world.store.scores a.id).length := hcount
  omega

end Directory
