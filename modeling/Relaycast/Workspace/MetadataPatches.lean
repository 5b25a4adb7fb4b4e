import Relaycast.Interleaving.History
import Relaycast.Workspace.Metadata

/-!
# Patches to the metadata of a workspace are not lost

However many calls patch the metadata of a workspace at once, the metadata is what they make of it
one after the other, in the order of their commits.  A commit compares the text of what was read
with the text in the column.  Two texts that are the same are read as the same object, so the patch
was merged into what the column held; and a text that has changed twice and is the old one again is
no harm.

That a call which has committed returns the workspace rests on the column being readable from then
on: every text that is written is the text of an object.
-/

namespace WorkspaceMetadata

open Interleaving Script

/-! ## What is claimed -/

/-- Metadata as a map from keys to values. -/
abbrev Metadata := String → Option Json

/-- What is at a key for which a patch has `found`. -/
def override (found old : Option Json) : Option Json :=
  match found with
  | some .null => none
  | some value => some value
  | none => old

/-- The metadata with a patch: `null` deletes a key, any other value sets it. -/
def patched (patch : JsonObject) (metadata : Metadata) : Metadata :=
  fun key => override (patch.get? key) (metadata key)

/-- The metadata of the workspace. -/
def metadataOf (J : JsonParse) (s : Store) : Metadata := fun key =>
  ((s.bind WorkspaceRow.metadata).bind J.parse).bind fun metadata => metadata.get? key

/-- The metadata that a statement has written over what it was compared with. -/
def committed : (q : Stmt) → lang.Reply q → Option JsonObject
  | .swap _ _ metadata _, true => some metadata
  | _, _ => none

/-- Did the statement commit a patch? -/
def isCommit (e : Event lang Store) : Bool := (committed e.stmt e.reply).isSome

/-- The commits so far, in order. -/
def commits (w : World lang Store) : List (Event lang Store) := (w.trace.filter isCommit).reverse

/-- The patch of a call. -/
def patchOf (g : Config lang Store Result) (i : ℕ) : JsonObject :=
  match g.threads[i]? with
  | some ⟨.update _ u, _⟩ => u.metadata.getD .empty
  | _ => .empty

/-- What holds of a run from `s₀` that has come to `g`. -/
structure PatchesApplied (J : JsonParse) (s₀ : Store) (g : Config lang Store Result) : Prop where
  /-- A call with a patch that returned the workspace has committed once. -/
  returned : ∀ i id u workspace, u.metadata.isSome = true →
    g.threads[i]? = some ⟨.update id u, some (.done (.ok (some workspace)))⟩ →
      ((g.world.eventsOf i).filter isCommit).length = 1
  /-- One that threw, or found no workspace, has changed nothing. -/
  nothing : ∀ i id u result, u.metadata.isSome = true →
    g.threads[i]? = some ⟨.update id u, some (.done result)⟩ →
      (∀ workspace, result ≠ .ok (some workspace)) →
        ∀ e ∈ g.world.eventsOf i, e.after = e.before
  /-- A commit is that of a call with a patch. -/
  caller : ∀ e ∈ commits g.world, ∃ id u prog, u.metadata.isSome = true ∧
    g.threads[e.caller]? = some ⟨.update id u, prog⟩
  /-- The metadata is the initial one with the patches in the order of their commits. -/
  folded : metadataOf J g.world.store =
    (commits g.world).foldl (fun metadata e => patched (patchOf g e.caller) metadata)
      (metadataOf J s₀)
  /-- What was committed is valid. -/
  valid : ∀ e ∈ commits g.world, ∃ metadata, validatedMetadata metadata = .ok metadata ∧
    metadataOf J e.after = metadata.get?

/-! ## Merging -/

lemma get?_mergeEntry_self {merged : Dict Json} {key : String} {value : Json} :
    (mergeEntry merged (key, value)).get? key = override (some value) (merged.get? key) := by
  cases value <;> simp [mergeEntry, override]

lemma get?_mergeEntry_ne {merged : Dict Json} {key key' : String} {value : Json} (h : key' ≠ key) :
    (mergeEntry merged (key, value)).get? key' = merged.get? key' := by
  cases value <;> simp [mergeEntry, Dict.get?_set_ne h, Dict.get?_erase_ne h]

/-- Entries with different keys, merged one after the other. -/
lemma get?_foldl_mergeEntry {entries : List (String × Json)} (hnodup : (entries.map Prod.fst).Nodup)
    (merged : Dict Json) (key : String) :
    (entries.foldl mergeEntry merged).get? key =
      override ((entries.find? fun entry => entry.1 == key).map Prod.snd) (merged.get? key) := by
  induction entries generalizing merged with
  | nil => rfl
  | cons entry entries ih =>
    obtain ⟨key', value⟩ := entry
    obtain ⟨hkey', hnodup⟩ := List.nodup_cons.mp hnodup
    rw [List.foldl_cons, ih hnodup]
    by_cases hkey : key' = key
    · subst hkey
      have hnone : entries.find? (fun entry => entry.1 == key') = none :=
        List.find?_eq_none.mpr fun entry hentry => by
          simpa using fun heq => hkey' (List.mem_map.mpr ⟨entry, hentry, heq⟩)
      rw [hnone, List.find?_cons_of_pos (by simp), get?_mergeEntry_self]
      rfl
    · rw [List.find?_cons_of_neg (by simpa using hkey), get?_mergeEntry_ne (Ne.symm hkey)]

/-- Merging patches the metadata. -/
lemma get?_merge (metadata patch : JsonObject) :
    (merge metadata patch).get? = patched patch metadata.get? := by
  funext key
  have hfold := get?_foldl_mergeEntry patch.dict.enumerated.nodup metadata.dict key
  have hget := patch.get?_enumerated key
  unfold patched
  rw [← hget]
  exact hfold

/-! ## Statements -/

variable {J : JsonParse} {s₀ : Store}

lemma metadataOf_some {row : Stored} {metadata : JsonObject}
    (h : row.metadata = some metadata.stringify) : metadataOf J (some row) = metadata.get? := by
  funext key
  simp [metadataOf, h, J.parse_stringify]

/-- What a commit compared with, and what it has written. -/
lemma swapRow_of_true {id : WorkspaceId} {set : SetClause} {metadata : JsonObject}
    {current : Option JsonObject} {s : Store}
    (h : (swapRow id set metadata current s).1 = true) : ∃ row, s = some row ∧ row.id = id ∧
      row.metadata = current.map JsonObject.stringify ∧
      (swapRow id set metadata current s).2 =
        some { set.apply row with metadata := some metadata.stringify } := by
  cases s with
  | none => simp [swapRow] at h
  | some row =>
    by_cases hrow : row.id = id ∧ row.metadata = current.map JsonObject.stringify
    · exact ⟨row, rfl, hrow.1, hrow.2, by simp [swapRow, hrow]⟩
    · simp [swapRow, hrow] at h

/-- A swap that found something else has changed nothing. -/
lemma swapRow_of_false {id : WorkspaceId} {set : SetClause} {metadata : JsonObject}
    {current : Option JsonObject} {s : Store}
    (h : (swapRow id set metadata current s).1 = false) :
    (swapRow id set metadata current s).2 = s := by
  cases s with
  | none => rfl
  | some row =>
    by_cases hrow : row.id = id ∧ row.metadata = current.map JsonObject.stringify
    · simp [swapRow, hrow] at h
    · simp [swapRow, hrow]

/-- Where the text of what was read stands, the metadata is what was read. -/
lemma metadataOf_of_current {row : Stored} {current : Option JsonObject}
    (h : row.metadata = current.map JsonObject.stringify) :
    metadataOf J (some row) = (current.getD .empty).get? := by
  cases current with
  | none =>
    funext key
    simp only [Option.map_none] at h
    simp [metadataOf, h, JsonObject.get?, JsonObject.empty, Dict.get?, Dict.empty]
  | some current => exact metadataOf_some h

lemma committed_swap {id : WorkspaceId} {set : SetClause} {metadata metadata' : JsonObject}
    {current : Option JsonObject} {updated : Bool} :
    committed (.swap id set metadata current) updated = some metadata' ↔
      updated = true ∧ metadata = metadata' := by
  cases updated <;> simp [committed]

/-- A commit writes what it carries over what it compared with. -/
lemma metadataOf_commit {w : World lang Store} {i : ℕ} {q : Stmt} {a : lang.Answer q}
    {metadata : JsonObject}
    (h : committed q (w.event (machine J) i q a).reply = some metadata) :
    ∃ id set current, q = .swap id set metadata current ∧
      metadataOf J w.store = (current.getD .empty).get? ∧
      metadataOf J (w.event (machine J) i q a).after = metadata.get? := by
  cases q with
  | select | update | retention => cases h
  | swap id set metadata' current =>
    obtain ⟨hupdated, rfl⟩ := committed_swap.mp h
    obtain ⟨row, hrow, -, hcurrent, hafter⟩ := swapRow_of_true hupdated
    refine ⟨id, set, current, rfl, ?_, ?_⟩
    · rw [hrow]
      exact metadataOf_of_current hcurrent
    · exact (congrArg (metadataOf J) hafter).trans (metadataOf_some rfl)

/-- Nothing else changes the metadata. -/
lemma metadataOf_of_not_committed {w : World lang Store} {i : ℕ} {q : Stmt} {a : lang.Answer q}
    (h : committed q (w.event (machine J) i q a).reply = none) :
    metadataOf J (w.event (machine J) i q a).after = metadataOf J w.store := by
  cases q with
  | select | retention => rfl
  | swap id set metadata current =>
    cases hupdated : (swapRow id set metadata current w.store).1 with
    | true => exact absurd ((committed_swap.mpr ⟨hupdated, rfl⟩).symm.trans h) (by simp)
    | false => exact congrArg (metadataOf J) (swapRow_of_false hupdated)
  | update id set =>
    change metadataOf J (updateRow id set w.store).2 = metadataOf J w.store
    cases hs : w.store with
    | none => rfl
    | some row =>
      by_cases hid : row.id = id
      · simp only [updateRow, hid, if_true]
        rfl
      · simp [updateRow, hid]

/-! ## The order of commits -/

/-- The executed statements led from `s₀` to the store, each from where the one before it left off.
-/
def Linked (s₀ : Store) : List (Event lang Store) → Store → Prop
  | [], s => s = s₀
  | e :: trace, s => e.after = s ∧ Linked s₀ trace e.before

/-- What each commit makes of the metadata, all make one after the other. -/
lemma metadataOf_eq_foldl {patch : ℕ → JsonObject} {trace : List (Event lang Store)} {s : Store}
    (hlinked : Linked s₀ trace s)
    (hcommit : ∀ e ∈ trace, isCommit e = true →
      metadataOf J e.after = patched (patch e.caller) (metadataOf J e.before))
    (hquiet : ∀ e ∈ trace, isCommit e = false → metadataOf J e.after = metadataOf J e.before) :
    metadataOf J s = (trace.filter isCommit).reverse.foldl
      (fun metadata e => patched (patch e.caller) metadata) (metadataOf J s₀) := by
  induction trace generalizing s with
  | nil =>
    obtain rfl := hlinked
    rfl
  | cons e trace ih =>
    obtain ⟨rfl, hlinked⟩ := hlinked
    have hbefore := ih hlinked (fun e' he' => hcommit e' (List.mem_cons_of_mem _ he'))
      fun e' he' => hquiet e' (List.mem_cons_of_mem _ he')
    cases he : isCommit e with
    | true =>
      rw [List.filter_cons_of_pos he, List.reverse_cons, List.foldl_append, ← hbefore,
        hcommit e List.mem_cons_self he]
      rfl
    | false =>
      rw [List.filter_cons_of_neg (by simp [he]), ← hbefore, hquiet e List.mem_cons_self he]

variable {G : Regime lang Store Request} {g : Config lang Store Result}

/-- The statements of a run lead from its first store to its last. -/
lemma linked_of_reachable (h : (system J s₀).Reachable G g) :
    Linked s₀ g.world.trace g.world.store :=
  System.invariant_of_statements (I := fun w => Linked s₀ w.trace w.store) (P := fun _ => True)
    (fun _ hs => hs) (fun d => Empty.elim d) (fun _ _ => Prog.issues_true _)
    (fun _ _ _ _ hlinked _ _ => ⟨rfl, hlinked⟩) h

/-- What a call of `c` may write. -/
def MayIssue (c : Request) : Stmt → Prop
  | .swap _ _ metadata current => ∃ id u patch, c = .update id u ∧ u.metadata = some patch ∧
      metadata = merge (current.getD .empty) patch ∧ validatedMetadata metadata = .ok metadata
  | _ => True

lemma validatedMetadata_eq_ok {metadata metadata' : JsonObject}
    (h : validatedMetadata metadata = .ok metadata') : metadata' = metadata := by
  unfold validatedMetadata at h
  split at h
  · cases h
  · exact (Except.ok.inj h).symm

lemma issues_getWorkspace (c : Request) (id : WorkspaceId) :
    (getWorkspace id).run.Issues (MayIssue c) := by
  rw [getWorkspace, Throwing.run_lift_bind]
  refine Prog.issues_ask_bind trivial fun selected => ?_
  cases selected with
  | error e => trivial
  | ok found =>
    rw [Throwing.run_ofExcept_ok_bind]
    cases found with
    | none => trivial
    | some workspace =>
      rw [Throwing.run_lift_bind]
      exact Prog.issues_ask_bind trivial fun _ => trivial

lemma issues_attempts {id : WorkspaceId} {u : Updates} {patch : JsonObject}
    (hpatch : u.metadata = some patch) (n : ℕ) :
    (attempts id u.setClause patch n).run.Issues (MayIssue (.update id u)) := by
  induction n with
  | zero => trivial
  | succ n ih =>
    rw [attempts, Throwing.run_lift_bind]
    refine Prog.issues_ask_bind trivial fun selected => ?_
    cases selected with
    | error e => trivial
    | ok found =>
      rw [Throwing.run_ofExcept_ok_bind]
      cases found with
      | none => trivial
      | some current =>
        cases hvalid : validatedMetadata (merge (current.metadata.getD .empty) patch) with
        | error e => simp [hvalid]
        | ok metadata =>
          obtain rfl := validatedMetadata_eq_ok hvalid
          simp only [hvalid, Throwing.run_ofExcept_ok_bind, Throwing.run_lift_bind]
          refine Prog.issues_ask_bind ⟨id, u, patch, rfl, hpatch, rfl, hvalid⟩ fun updated => ?_
          cases updated with
          | true => exact issues_getWorkspace _ id
          | false => exact ih

lemma issues_body (c : Request) : (body c).Issues (MayIssue c) := by
  cases c with
  | setSystemPrompt id prompt => exact Prog.issues_ask_bind trivial fun _ => trivial
  | update id u =>
    simp only [body, updateWorkspace]
    split
    · exact issues_getWorkspace _ id
    · split
      · rename_i metadata hmetadata
        cases hvalid : validatedMetadata metadata with
        | error e => simp
        | ok patch =>
          obtain rfl := validatedMetadata_eq_ok hvalid
          rw [Throwing.run_ofExcept_ok_bind]
          exact issues_attempts hmetadata 8
      · rw [Throwing.run_lift_bind]
        refine Prog.issues_ask_bind trivial fun updated => ?_
        cases updated with
        | true => exact issues_getWorkspace _ id
        | false => trivial

/-! ## What each call does -/

/-- The row is there, and its metadata can be read. -/
def Ready (J : JsonParse) (id : WorkspaceId) (s : Store) : Prop :=
  ∃ row workspace, s = some row ∧ row.id = id ∧ fetch J row = .ok workspace

lemma fetch_of_stringify {row : Stored} {metadata : JsonObject}
    (h : row.metadata = some metadata.stringify) : ∃ workspace, fetch J row = .ok workspace := by
  refine ⟨{ row with metadata := some metadata.enumerated }, ?_⟩
  simp [fetch, h, J.parse_stringify]

/-- Whether a row can be read is a matter of its metadata. -/
lemma fetch_of_metadata_eq {row row' : Stored} {workspace : Fetched}
    (h : fetch J row = .ok workspace) (heq : row'.metadata = row.metadata) :
    ∃ workspace', fetch J row' = .ok workspace' := by
  unfold fetch at h ⊢
  rw [heq]
  split at h
  · exact ⟨_, rfl⟩
  · split at h
    · cases h
    · exact ⟨_, rfl⟩

lemma selectRow_of_ready {id : WorkspaceId} {s : Store} (h : Ready J id s) :
    ∃ workspace, selectRow J id s = .ok (some workspace) := by
  obtain ⟨row, workspace, rfl, hid, hfetch⟩ := h
  refine ⟨workspace, ?_⟩
  have hfilter : (some row).filter (·.id == id) = some row := by simp [hid]
  rw [selectRow, hfilter]
  simp [hfetch, Except.map]

/-- Nothing makes a row unreadable. -/
lemma ready_run {id : WorkspaceId} {q : Stmt} {a : lang.Answer q} {s : Store} (h : Ready J id s) :
    Ready J id ((machine J).run q a s).2 := by
  obtain ⟨row, workspace, rfl, hid, hfetch⟩ := h
  cases q with
  | select | retention => exact ⟨row, workspace, rfl, hid, hfetch⟩
  | swap id' set metadata current =>
    change Ready J id (swapRow id' set metadata current (some row)).2
    cases hupdated : (swapRow id' set metadata current (some row)).1 with
    | false =>
      rw [swapRow_of_false hupdated]
      exact ⟨row, workspace, rfl, hid, hfetch⟩
    | true =>
      obtain ⟨row', hrow', -, -, hafter⟩ := swapRow_of_true hupdated
      obtain rfl := Option.some.inj hrow'
      rw [hafter]
      have hset : ({ set.apply row with metadata := some metadata.stringify } : Stored).metadata =
          some metadata.stringify := rfl
      obtain ⟨workspace', hfetch'⟩ := fetch_of_stringify (J := J) hset
      exact ⟨_, workspace', rfl, hid, hfetch'⟩
  | update id' set =>
    change Ready J id (updateRow id' set (some row)).2
    by_cases hid' : row.id = id'
    · have hsame : (set.apply row).metadata = row.metadata := rfl
      obtain ⟨workspace', hfetch'⟩ := fetch_of_metadata_eq hfetch hsame
      simp only [updateRow, hid', if_true]
      exact ⟨_, workspace', rfl, hid, hfetch'⟩
    · simp only [updateRow, hid', if_false]
      exact ⟨row, workspace, rfl, hid, hfetch⟩

/-- What nobody takes back: rows that can be read. -/
def shared (J : JsonParse) : Shared lang Store where
  inv _ := True
  grows w w' := ∀ id, Ready J id w.store → Ready J id w'.store
  refl _ _ := id
  trans _ _ _ h h' id := h' id ∘ h id

/-- The call has changed nothing. -/
def Quiet (i : ℕ) (w : World lang Store) : Prop :=
  ∀ e ∈ w.eventsOf i, e.after = e.before ∧ isCommit e = false

/-- The call has committed once. -/
def CommittedOnce (i : ℕ) (w : World lang Store) : Prop :=
  ((w.eventsOf i).filter isCommit).length = 1

/-- A call that returned the workspace has committed once, any other has changed nothing. -/
def Settled (i : ℕ) : Except Failure (Option PublicWorkspace) → World lang Store → Prop
  | .ok (some _), w => CommittedOnce i w
  | .ok none, w => Quiet i w
  | .error _, w => Quiet i w

variable {permits : World lang Store → ℕ → Stmt → Prop} {i : ℕ} {w : World lang Store}

/-- The rule of a statement of a call that patches. -/
lemma safe_ask {α : Type} {Q : α → World lang Store → Prop} {q : Stmt}
    {f : lang.Reply q → Prog lang α}
    (h : ∀ w' : World lang Store, w'.eventsOf i = w.eventsOf i →
      (∀ id, Ready J id w.store → Ready J id w'.store) → ∀ a : lang.Answer q,
      ∀ r, r = ((machine J).run q a w'.store).1 →
        (shared J).Safe (machine J) permits i Q (f r) (w'.after (machine J) i q a)) :
    (shared J).Safe (machine J) permits i Q (Prog.ask q >>= f) w :=
  Shared.Safe.ask fun w' hown hgrows _ _ a =>
    ⟨⟨trivial, fun _ => ready_run⟩, h w' hown hgrows a⟩

/-- A statement that changes nothing leaves the call quiet. -/
lemma quiet_after {w' : World lang Store} {q : Stmt} {a : lang.Answer q} (h : Quiet i w)
    (hown : w'.eventsOf i = w.eventsOf i)
    (hafter : (w'.event (machine J) i q a).after = w'.store)
    (hcommit : isCommit (w'.event (machine J) i q a) = false) :
    Quiet i (w'.after (machine J) i q a) := by
  unfold Quiet
  rw [World.eventsOf_after_self, hown]
  intro e he
  rcases List.mem_cons.mp he with rfl | he
  · exact ⟨hafter, hcommit⟩
  · exact h e he

/-- The commit of a quiet call is its first. -/
lemma committedOnce_after {w' : World lang Store} {q : Stmt} {a : lang.Answer q} (h : Quiet i w)
    (hown : w'.eventsOf i = w.eventsOf i)
    (hcommit : isCommit (w'.event (machine J) i q a) = true) :
    CommittedOnce i (w'.after (machine J) i q a) := by
  have hnone : (w.eventsOf i).filter isCommit = [] :=
    List.filter_eq_nil_iff.mpr fun e he => by simp [(h e he).2]
  unfold CommittedOnce
  rw [World.eventsOf_after_self, hown, List.filter_cons_of_pos hcommit, hnone]
  rfl

/-- Other statements leave the number of commits alone. -/
lemma committedOnce_after_of_not {w' : World lang Store} {q : Stmt} {a : lang.Answer q}
    (h : CommittedOnce i w) (hown : w'.eventsOf i = w.eventsOf i)
    (hcommit : isCommit (w'.event (machine J) i q a) = false) :
    CommittedOnce i (w'.after (machine J) i q a) := by
  unfold CommittedOnce
  rw [World.eventsOf_after_self, hown, List.filter_cons_of_neg (by simp [hcommit])]
  exact h

/-- What is returned after a commit is the workspace. -/
lemma getWorkspace_safe {id : WorkspaceId} (hready : Ready J id w.store)
    (hcommitted : CommittedOnce i w) :
    (shared J).Safe (machine J) permits i (Settled i) (getWorkspace id).run w := by
  rw [getWorkspace, Throwing.run_lift_bind]
  refine safe_ask fun w₁ hown₁ hgrows₁ a₁ selected hselected => ?_
  obtain ⟨workspace, hworkspace⟩ := selectRow_of_ready (hgrows₁ id hready)
  obtain rfl : selected = .ok (some workspace) := hselected.trans hworkspace
  have hcommitted₁ : CommittedOnce i (w₁.after (machine J) i (.select id) a₁) :=
    committedOnce_after_of_not hcommitted hown₁ rfl
  rw [Throwing.run_ofExcept_ok_bind]
  simp only
  rw [Throwing.run_lift_bind]
  refine safe_ask fun w₂ hown₂ _ answer retention _ => ?_
  exact committedOnce_after_of_not hcommitted₁ hown₂ rfl

/-- The attempts to merge a patch. -/
lemma attempts_safe {id : WorkspaceId} {set : SetClause} {patch : JsonObject} (n : ℕ)
    (hquiet : Quiet i w) :
    (shared J).Safe (machine J) permits i (Settled i) (attempts id set patch n).run w := by
  induction n generalizing w with
  | zero => exact hquiet
  | succ n ih =>
    rw [attempts, Throwing.run_lift_bind]
    refine safe_ask fun w₁ hown₁ _ a₁ selected _ => ?_
    have hquiet₁ : Quiet i (w₁.after (machine J) i (.select id) a₁) :=
      quiet_after hquiet hown₁ rfl rfl
    cases selected with
    | error e => exact hquiet₁
    | ok found =>
      rw [Throwing.run_ofExcept_ok_bind]
      cases found with
      | none => exact hquiet₁
      | some current =>
        cases hvalid : validatedMetadata (merge (current.metadata.getD .empty) patch) with
        | error e =>
          simp only [hvalid, Throwing.run_ofExcept_error_bind]
          exact hquiet₁
        | ok metadata =>
          simp only [hvalid, Throwing.run_ofExcept_ok_bind, Throwing.run_lift_bind]
          refine safe_ask fun w₂ hown₂ _ _ updated hupdated => ?_
          cases updated with
          | false =>
            exact ih (quiet_after hquiet₁ hown₂ (swapRow_of_false hupdated.symm)
              (by simp [isCommit, committed, World.event, ← hupdated]))
          | true =>
            refine getWorkspace_safe ?_ (committedOnce_after hquiet₁ hown₂
              (by simp [isCommit, committed, World.event, ← hupdated]))
            obtain ⟨row, -, hid, -, hafter⟩ := swapRow_of_true hupdated.symm
            have hset : ({ set.apply row with metadata := some metadata.stringify } :
                Stored).metadata = some metadata.stringify := rfl
            obtain ⟨workspace, hfetch⟩ := fetch_of_stringify (J := J) hset
            exact ⟨_, workspace, hafter, hid, hfetch⟩

/-- A call with a patch. -/
lemma updateWorkspace_safe {id : WorkspaceId} {u : Updates} (hpatch : u.metadata.isSome = true)
    (hquiet : Quiet i w) :
    (shared J).Safe (machine J) permits i (Settled i) (updateWorkspace id u).run w := by
  obtain ⟨metadata, hmetadata⟩ := Option.isSome_iff_exists.mp hpatch
  unfold updateWorkspace
  rw [if_neg (by simp [hmetadata]), hmetadata]
  cases hvalid : validatedMetadata metadata with
  | error e =>
    simp only [hvalid, Throwing.run_ofExcept_error_bind]
    exact hquiet
  | ok patch =>
    simp only [hvalid, Throwing.run_ofExcept_ok_bind]
    exact attempts_safe 8 hquiet

/-- What a call promises. -/
def Promised (c : Request) (i : ℕ) : Result c → World lang Store → Prop :=
  match c with
  | .update _ u => fun result w => u.metadata.isSome = true → Settled i result w
  | .setSystemPrompt _ _ => fun _ _ => True

lemma body_safe (c : Request) (hown : w.eventsOf i = []) :
    (shared J).Safe (machine J) permits i (Promised c i) (body c) w := by
  have hany : (shared J).Safe (machine J) permits i (fun _ _ => True) (body c) w :=
    Shared.Safe.of_issues (Prog.issues_true (body c))
      (fun w _ _ _ _ _ => ⟨trivial, fun _ => ready_run⟩) w
  cases c with
  | setSystemPrompt id prompt => exact hany
  | update id u =>
    by_cases hpatch : u.metadata.isSome = true
    · have hquiet : Quiet i w := by
        unfold Quiet
        simp [hown]
      exact (updateWorkspace_safe hpatch hquiet).weaken fun _ _ hsettled _ => hsettled
    · exact hany.weaken fun _ _ _ h => absurd h hpatch

/-! ## Every run -/

/-- What each executed statement did to the metadata. -/
lemma metadataOf_of_reachable (h : (system J s₀).Reachable G g) :
    ∀ e ∈ g.world.trace,
      (∀ metadata, committed e.stmt e.reply = some metadata →
        ∃ id set current, e.stmt = .swap id set metadata current ∧
          metadataOf J e.before = (current.getD .empty).get? ∧
          metadataOf J e.after = metadata.get?) ∧
      (committed e.stmt e.reply = none → metadataOf J e.after = metadataOf J e.before) :=
  System.events_of_statements (I := fun _ => True) (P := fun _ => True)
    (fun _ _ => trivial) (fun _ _ _ => trivial) (fun _ _ => Prog.issues_true _)
    (fun _ _ _ _ _ _ _ => trivial)
    (fun _ _ _ _ _ _ => ⟨fun _ => metadataOf_commit, metadataOf_of_not_committed⟩) h

/-- A commit writes the patch of its call, merged into what it compared with. -/
lemma commit_of_reachable (h : (system J s₀).Reachable G g) {e : Event lang Store}
    (he : e ∈ g.world.trace) (hcommit : isCommit e = true) :
    ∃ id u prog patch metadata, g.threads[e.caller]? = some ⟨.update id u, prog⟩ ∧
      u.metadata = some patch ∧ validatedMetadata metadata = .ok metadata ∧
      metadataOf J e.after = metadata.get? ∧
      metadataOf J e.after = patched patch (metadataOf J e.before) := by
  obtain ⟨metadata, hmetadata⟩ := Option.isSome_iff_exists.mp hcommit
  obtain ⟨id, set, current, hstmt, hbefore, hafter⟩ :=
    (metadataOf_of_reachable h e he).1 metadata hmetadata
  obtain ⟨⟨c, prog⟩, hthread, hissued⟩ :=
    System.caller_of_event (P := MayIssue) (fun c _ => issues_body c) h e he
  rw [hstmt] at hissued
  obtain ⟨id', u, patch, rfl, hpatch, hmerge, hvalid⟩ := hissued
  refine ⟨id', u, prog, patch, metadata, hthread, hpatch, hvalid, hafter, ?_⟩
  rw [hafter, hbefore, hmerge, get?_merge]

lemma mem_commits {e : Event lang Store} :
    e ∈ commits w ↔ e ∈ w.trace ∧ isCommit e = true := by
  simp [commits]

/-- **Every run.**  Any number of calls patch the metadata of a workspace, and others write its name
and its prompt, in any order of their statements. -/
theorem metadataPatches
    (h : (system J s₀).Reachable (Regime.free lang Store Request) g) : PatchesApplied J s₀ g := by
  obtain ⟨-, hreturned⟩ := Shared.sound (S := system J s₀) (H := shared J) (Q := Promised)
    (fun _ _ => trivial) (fun d => Empty.elim d) (fun d => Empty.elim d)
    (fun c _ i w hown _ => body_safe c hown) h
  refine ⟨fun i id u workspace hpatch hi => ?_, fun i id u result hpatch hi hnone => ?_,
    fun e he => ?_, ?_, fun e he => ?_⟩
  · obtain ⟨w₀, hown, -, hpromised⟩ := hreturned i (.update id u) _ hi
    have hsettled : CommittedOnce i w₀ := hpromised hpatch
    rw [hown]
    exact hsettled
  · obtain ⟨w₀, hown, -, hpromised⟩ := hreturned i (.update id u) result hi
    have hquiet : Quiet i w₀ := by
      have hsettled : Settled i result w₀ := hpromised hpatch
      match result, hsettled with
      | .ok (some workspace), _ => exact absurd rfl (hnone workspace)
      | .ok none, hsettled => exact hsettled
      | .error _, hsettled => exact hsettled
    rw [hown]
    exact fun e he => (hquiet e he).1
  · obtain ⟨he, hcommit⟩ := mem_commits.mp he
    obtain ⟨id, u, prog, patch, -, hthread, hpatch, -⟩ := commit_of_reachable h he hcommit
    exact ⟨id, u, prog, by simp [hpatch], hthread⟩
  · refine metadataOf_eq_foldl (linked_of_reachable h) (fun e he hcommit => ?_)
      fun e he hquiet => (metadataOf_of_reachable h e he).2 (by simpa [isCommit] using hquiet)
    obtain ⟨id, u, prog, patch, metadata, hthread, hpatch, -, -, hafter⟩ :=
      commit_of_reachable h he hcommit
    have hpatchOf : patchOf g e.caller = patch := by simp [patchOf, hthread, hpatch]
    rw [hafter, hpatchOf]
  · obtain ⟨he, hcommit⟩ := mem_commits.mp he
    obtain ⟨id, u, prog, patch, metadata, -, -, hvalid, hafter, -⟩ :=
      commit_of_reachable h he hcommit
    exact ⟨metadata, hvalid, hafter⟩

section Example

/-- `{ [key]: true }`. -/
def flag (key : String) : JsonObject where
  dict := Dict.empty.set key (.bool true)
  held entry hentry := by
    obtain ⟨key', value⟩ := entry
    rcases Dict.mem_set.mp hentry with ⟨-, rfl⟩ | ⟨-, h⟩
    · rfl
    · simp [Dict.empty] at h

/-- A workspace without metadata. -/
def plainRow : Stored where
  id := "ws_1"
  name := "General"
  systemPrompt := none
  createdAt := 0
  metadata := none
  expiresAt := none
  provenance := none
  usageClassification := "standard"
  classificationSource := "default"
  classificationReason := none
  classifiedAt := none

/-- The answers of a run in which the retention can never be told. -/
def noRetention : (q : Stmt) → lang.Answer q
  | .select _ => ()
  | .swap _ _ _ _ => ()
  | .update _ _ => ()
  | .retention _ => none

/-- Two calls read the row before either has written it. -/
noncomputable def twoPatches : Config lang Store Result :=
  (system .ofWritten (some plainRow)).runFrom (some plainRow)
    [.start (.update "ws_1" ⟨none, none, some (flag "first")⟩),
      .start (.update "ws_1" ⟨some "Renamed", none, some (flag "second")⟩),
      .exec 0 noRetention, .exec 1 noRetention, .exec 0 noRetention, .exec 1 noRetention,
      .exec 1 noRetention, .exec 1 noRetention, .exec 0 noRetention, .exec 0 noRetention]

theorem metadataPatches_twoPatches : PatchesApplied .ofWritten (some plainRow) twoPatches :=
  metadataPatches (System.runFrom_reachable _ rfl _)

end Example

end WorkspaceMetadata
