import Relaycast.Credential.Service

/-!
# What the statements do to a row

Everything that is proved about credentials asks how one statement can change one row: the row of a
workspace (`run_workspace?`), the hash of a principal, a record of an upgrade.  The answers are
given here once, with the guards under which each change happens; the statements a call can issue
are listed beside them.
-/

namespace Credential

open Relational Interleaving

/-! ## Lookups -/

namespace Store

variable (s : Store)

lemma workspace?_id {s : Store} {X : WorkspaceId} {row : Workspace} (h : s.workspace? X = some row) :
    row.id = X := by
  simpa using List.find?_some h

lemma mem_of_workspace? {s : Store} {X : WorkspaceId} {row : Workspace}
    (h : s.workspace? X = some row) : row ∈ s.workspaces := List.mem_of_find?_eq_some h

lemma workspace?_of_mem {s : Store} {row : Workspace} (h : row ∈ s.workspaces) :
    s.workspace? row.id = some row := by
  cases hfind : s.workspace? row.id with
  | none =>
    have hmiss := List.find?_eq_none.mp hfind row h
    simp at hmiss
  | some row' =>
    have hid := workspace?_id hfind
    rw [Table.eq_of_clash (mem_of_workspace? hfind) h (by simp [clash, key, hid])]

/-- A row is what an update makes of the old row. -/
lemma workspace?_updateWorkspaces (p : Workspace → Bool) (f : Workspace → Workspace)
    (hf : ∀ w, (f w).id = w.id) (X : WorkspaceId) :
    (s.updateWorkspaces p f hf).workspace? X =
      (s.workspace? X).map fun w => if p w then f w else w :=
  Table.find?_update (T := s.workspaces) hf fun w => by simp [hf]

/-- The row an update by id is about. -/
lemma workspace?_update_self {f : Workspace → Workspace} {hf : ∀ w, (f w).id = w.id}
    {id : WorkspaceId} : (s.updateWorkspaces (·.id == id) f hf).workspace? id =
      (s.workspace? id).map f := by
  rw [workspace?_updateWorkspaces]
  cases h : s.workspace? id with
  | none => rfl
  | some row => simp [workspace?_id h]

/-- The other rows. -/
lemma workspace?_update_ne {f : Workspace → Workspace} {hf : ∀ w, (f w).id = w.id}
    {id X : WorkspaceId} (hX : X ≠ id) :
    (s.updateWorkspaces (·.id == id) f hf).workspace? X = s.workspace? X := by
  rw [workspace?_updateWorkspaces]
  cases h : s.workspace? X with
  | none => rfl
  | some row => simp [workspace?_id h, hX]

/-- Where no row of the id is, an inserted row is found. -/
lemma workspace?_insert {row : Workspace} (h : s.workspace? row.id = none) (X : WorkspaceId) :
    ({ s with workspaces := s.workspaces.insertOrIgnore row } : Store).workspace? X =
      if X = row.id then some row else s.workspace? X := by
  have hfree : s.workspaces.conflicts row = false := by
    refine List.any_eq_false.mpr fun w hw => ?_
    have hne := List.find?_eq_none.mp h w hw
    simpa [clash, key] using hne
  have hrows : (s.workspaces.insertOrIgnore row).rows = s.workspaces.rows ++ [row] := by
    rw [Table.insertOrIgnore, dif_pos hfree, Table.insert]
  rw [workspace?, hrows, List.find?_append]
  by_cases hX : X = row.id
  · subst hX
    rw [if_pos rfl, show s.workspaces.rows.find? (·.id == row.id) = none from h]
    simp
  · rw [if_neg hX, List.find?_cons_of_neg (by simpa using Ne.symm hX)]
    simp [workspace?]

lemma workspace?_deleteWorkspace (id X : WorkspaceId) :
    (s.deleteWorkspace id).workspace? X = if X = id then none else s.workspace? X := by
  rw [workspace?, deleteWorkspace, Table.deleteWhere, List.find?_filter]
  split_ifs with hX
  · subst hX
    refine List.find?_eq_none.mpr fun w _ => ?_
    simp
  · refine congrArg (fun p => s.workspaces.rows.find? p) (funext fun w => ?_)
    by_cases hw : w.id = X
    · simp [hw, hX]
    · simp [hw]

end Store

/-! ## Guarded writes -/

/-- What a guarded update does: it is fenced, it misses, or its row passes and is changed. -/
lemma Store.guardedUpdate_cases (s : Store) (id : WorkspaceId) (p : Workspace → Bool)
    (f : Workspace → Workspace) (hf : ∀ w, (f w).id = w.id) :
    (s.fenced id = true ∧ s.guardedUpdate id p f hf = (.fenced, s)) ∨
    (s.fenced id = false ∧ s.guardedUpdate id p f hf = (.missed, s)) ∨
    ∃ row, s.fenced id = false ∧ s.workspace? id = some row ∧ p row = true ∧
      s.guardedUpdate id p f hf = (.applied, s.updateWorkspaces (·.id == id) f hf) := by
  unfold Store.guardedUpdate
  by_cases hfence : s.fenced id = true
  · exact .inl ⟨hfence, if_pos hfence⟩
  · rw [if_neg hfence]
    rw [Bool.not_eq_true] at hfence
    cases hrow : s.workspace? id with
    | none => exact .inr (.inl ⟨hfence, by simp⟩)
    | some row =>
      by_cases hp : p row = true
      · exact .inr (.inr ⟨row, hfence, rfl, hp, by simp [hp]⟩)
      · exact .inr (.inl ⟨hfence, by simp [hp]⟩)

/-- A guarded update that was applied. -/
lemma Store.guardedUpdate_applied {s : Store} {id : WorkspaceId} {p : Workspace → Bool}
    {f : Workspace → Workspace} {hf : ∀ w, (f w).id = w.id}
    (h : (s.guardedUpdate id p f hf).1 = .applied) :
    ∃ row, s.workspace? id = some row ∧ p row = true ∧
      (s.guardedUpdate id p f hf).2.workspace? id = some (f row) := by
  rcases s.guardedUpdate_cases id p f hf with ⟨-, hout⟩ | ⟨-, hout⟩ | ⟨row, -, hrow, hp, hout⟩
  · simp [hout] at h
  · simp [hout] at h
  · exact ⟨row, hrow, hp, by rw [hout, workspace?_update_self, hrow, Option.map_some]⟩

/-- A guarded update that was not applied changes nothing. -/
lemma Store.guardedUpdate_eq_self {s : Store} {id : WorkspaceId} {p : Workspace → Bool}
    {f : Workspace → Workspace} {hf : ∀ w, (f w).id = w.id}
    (h : (s.guardedUpdate id p f hf).1 ≠ .applied) : (s.guardedUpdate id p f hf).2 = s := by
  rcases s.guardedUpdate_cases id p f hf with ⟨-, hout⟩ | ⟨-, hout⟩ | ⟨row, -, -, -, hout⟩
  · rw [hout]
  · rw [hout]
  · simp [hout] at h

/-- What the batch of a creation does: nothing, or a row where none was. -/
lemma Store.createWorkspace_cases (s : Store) (id : WorkspaceId) (hash : Hash) (generation : ℕ) :
    ((s.createWorkspace id hash generation).2 = s ∧
      (s.createWorkspace id hash generation).1 ≠ .created) ∨
    (s.fenced id = false ∧ s.workspace? id = none ∧ s.hashTaken hash id = false ∧
      s.liveElsewhere hash id = false ∧ s.createWorkspace id hash generation = (.created, { s with
        workspaces := s.workspaces.insertOrIgnore ⟨id, hash, none, none, generation⟩ })) := by
  unfold Store.createWorkspace
  by_cases hfence : s.fenced id = true
  · simp [hfence]
  by_cases hunique : ((s.workspace? id).isSome || s.hashTaken hash id) = true
  · simp [hfence, hunique]
  by_cases hlive : s.liveElsewhere hash id = true
  · simp [hfence, hunique, hlive]
  · refine .inr ?_
    simp_all

/-! ## The row of a workspace -/

/-- How a statement can change the row of `X`, with the guard that allowed it. -/
inductive RowStep (s : Store) (X : WorkspaceId) : Stmt → Option Workspace → Prop
  | same (q : Stmt) : RowStep s X q (s.workspace? X)
  | created (hash : Hash) (generation : ℕ) (hfence : s.fenced X = false)
      (hnone : s.workspace? X = none) (hlive : s.liveElsewhere hash X = false) :
      RowStep s X (.createWorkspace X hash generation) (some ⟨X, hash, none, none, generation⟩)
  | bumped {row : Workspace} (hash : Hash) (generation : ℕ) (hfence : s.fenced X = false)
      (hrow : s.workspace? X = some row) (hhash : row.apiKeyHash = hash)
      (hgen : row.apiKeyGeneration < generation) :
      RowStep s X (.bumpGeneration X hash generation)
        (some { row with apiKeyGeneration := generation })
  | changed {row : Workspace} (oldHash hash : Hash) (hfence : s.fenced X = false)
      (hrow : s.workspace? X = some row) (hhash : row.apiKeyHash = oldHash)
      (hgen : row.apiKeyGeneration = 0) (hlive : s.liveElsewhere hash X = false) :
      RowStep s X (.changeKey X oldHash hash) (some { row with apiKeyHash := hash })
  | changedFenced {row : Workspace} (oldHash hash : Hash) (generation : ℕ) (grace : Millis)
      (hfence : s.fenced X = false) (hrow : s.workspace? X = some row)
      (hhash : row.apiKeyHash = oldHash) (hgen : row.apiKeyGeneration < generation)
      (hlive : s.liveElsewhere hash X = false) :
      RowStep s X (.changeKeyFenced X oldHash hash generation grace)
        (some { row with
          apiKeyHash := hash
          apiKeyGeneration := generation
          previousApiKeyHash := some oldHash
          previousApiKeyExpiresAt := s.graceEnd grace })
  | rotated {row : Workspace} (hash : Hash) (grace : Millis) (hrow : s.workspace? X = some row)
      (htaken : s.hashTaken hash X = false) :
      RowStep s X (.rotateKey X hash grace)
        (some { row with
          previousApiKeyHash := some row.apiKeyHash
          previousApiKeyExpiresAt := s.graceEnd grace
          apiKeyHash := hash
          apiKeyGeneration := row.apiKeyGeneration + 1 })
  | upgraded {row : Workspace} (u : Upgrade) (hkind : u.kind = .workspace)
      (hid : u.principalId = X) (hrow : s.workspace? X = some row)
      (hhash : row.apiKeyHash = u.legacyHash) (htaken : s.hashTaken u.arHash X = false) :
      RowStep s X (.swapAndRecord u) (some { row with apiKeyHash := u.arHash })
  | deleted : RowStep s X (.deleteWorkspace X) none

lemma RowStep.unchanged {s : Store} {X : WorkspaceId} {q : Stmt} {row? : Option Workspace}
    (h : row? = s.workspace? X) : RowStep s X q row? := h ▸ .same q

/-- The step of a guarded update. -/
lemma RowStep.of_guardedUpdate {s : Store} {X id : WorkspaceId} {q : Stmt}
    {p : Workspace → Bool} {f : Workspace → Workspace} {hf : ∀ w, (f w).id = w.id}
    (h : ∀ row, X = id → s.fenced X = false → s.workspace? X = some row → p row = true →
      RowStep s X q (some (f row))) :
    RowStep s X q ((s.guardedUpdate id p f hf).2.workspace? X) := by
  rcases s.guardedUpdate_cases id p f hf with ⟨-, hout⟩ | ⟨-, hout⟩ |
    ⟨row, hfence, hrow, hp, hout⟩
  · rw [hout]
    exact .same q
  · rw [hout]
    exact .same q
  · rw [hout]
    by_cases hX : X = id
    · subst hX
      rw [Store.workspace?_update_self, hrow]
      exact h row rfl hfence hrow hp
    · rw [Store.workspace?_update_ne _ hX]
      exact .same q

/-- The swap of a workspace key. -/
lemma RowStep.of_swapAndRecord (s : Store) (X : WorkspaceId) (u : Upgrade) :
    RowStep s X (.swapAndRecord u) ((s.swapAndRecord u).2.workspace? X) := by
  have hrecord : ∀ s' : Store, (s'.graceRecordAfterSwap u).workspace? X = s'.workspace? X := by
    intro s'
    unfold Store.graceRecordAfterSwap
    split <;> rfl
  unfold Store.swapAndRecord
  split
  · exact .same _
  · rename_i hfree
    rw [hrecord, Store.swapPrincipalHash]
    split
    · rename_i hkind
      rw [Store.workspace?_updateWorkspaces]
      cases hrow : s.workspace? X with
      | none => exact .unchanged hrow.symm
      | some row =>
        rw [Option.map_some]
        by_cases hhit : (row.id == u.principalId && row.apiKeyHash == u.legacyHash) = true
        · obtain ⟨hid, hhash⟩ : row.id = u.principalId ∧ row.apiKeyHash = u.legacyHash := by
            simpa using hhit
          rw [Store.workspace?_id hrow] at hid
          have htaken : s.hashTaken u.arHash X = false := by
            simpa [hkind, ← hid, Store.principalHash, hrow, hhash, Store.principalHashTaken]
              using hfree
          rw [if_pos hhit]
          exact .upgraded u hkind hid.symm hrow hhash htaken
        · rw [if_neg hhit]
          exact .unchanged hrow.symm
    · exact .same _

/-- **What any statement does to the row of a workspace.** -/
theorem run_workspace? (C : Crypto) (q : Stmt) (a : q.Answer) (s : Store) (X : WorkspaceId) :
    RowStep s X q ((run C q a s).2.workspace? X) := by
  cases q with
  | createWorkspace id hash generation =>
    rcases s.createWorkspace_cases id hash generation with ⟨hout, -⟩ |
      ⟨hfence, hnone, -, hlive, hout⟩
    · rw [run, hout]
      exact .same _
    · rw [run, hout, Store.workspace?_insert s hnone]
      split_ifs with hX
      · obtain rfl : X = id := hX
        exact .created hash generation hfence hnone hlive
      · exact .same _
  | bumpGeneration id hash generation =>
    refine RowStep.of_guardedUpdate fun row hX hfence hrow hp => ?_
    subst hX
    obtain ⟨hhash, hgen⟩ : row.apiKeyHash = hash ∧ row.apiKeyGeneration < generation := by
      simpa using hp
    exact .bumped hash generation hfence hrow hhash hgen
  | changeKey id oldHash hash =>
    refine RowStep.of_guardedUpdate fun row hX hfence hrow hp => ?_
    subst hX
    obtain ⟨⟨hhash, hgen⟩, hlive⟩ : (row.apiKeyHash = oldHash ∧ row.apiKeyGeneration = 0) ∧
        s.liveElsewhere hash X = false := by simpa using hp
    exact .changed oldHash hash hfence hrow hhash hgen hlive
  | changeKeyFenced id oldHash hash generation grace =>
    refine RowStep.of_guardedUpdate fun row hX hfence hrow hp => ?_
    subst hX
    obtain ⟨⟨hhash, hgen⟩, hlive⟩ : (row.apiKeyHash = oldHash ∧
        row.apiKeyGeneration < generation) ∧ s.liveElsewhere hash X = false := by simpa using hp
    exact .changedFenced oldHash hash generation grace hfence hrow hhash hgen hlive
  | rotateKey id hash grace =>
    rw [run, Store.rotateKey]
    split
    · exact .same _
    · rename_i hfree
      by_cases hX : X = id
      · subst hX
        rw [Store.workspace?_update_self]
        cases hrow : s.workspace? X with
        | none => exact .unchanged hrow.symm
        | some row =>
          have htaken : s.hashTaken hash X = false := by simpa [hrow] using hfree
          exact .rotated hash grace hrow htaken
      · rw [Store.workspace?_update_ne _ hX]
        exact .same _
  | rotatePrincipal kind id hash =>
    rw [run, Store.rotatePrincipal]
    split <;> exact .same _
  | swapAndRecord u => exact RowStep.of_swapAndRecord s X u
  | deleteWorkspace id =>
    dsimp only [run]
    split
    · rw [Store.workspace?_deleteWorkspace]
      split_ifs with hX
      · exact hX ▸ RowStep.deleted
      · exact .same _
    · exact .same _
  | assertWritable | issueCredential | sha256Hex | readKeyRow | keyOwnedElsewhere | readRecord
  | readLiveRecord | principalHash | dateNow | sealCredential | beginDeletion | commitDeletion
  | releaseDeletion => exact .same _

/-! ## The records of upgrades -/

lemma Store.graceRecordAfterSwap_principalHash (s : Store) (u : Upgrade) (kind : Kind)
    (id : PrincipalId) :
    (s.graceRecordAfterSwap u).principalHash kind id = s.principalHash kind id := by
  unfold Store.graceRecordAfterSwap
  split
  · cases kind <;> rfl
  · rfl

/-- **Where a record comes from**: it was there, or an upgrade left it, whose principal then held
its credential and whose legacy credential had no record. -/
theorem run_upgrades (C : Crypto) (q : Stmt) (a : q.Answer) (s : Store) {r : GraceRecord}
    (hr : r ∈ (run C q a s).2.upgrades) :
    r ∈ s.upgrades ∨ ∃ u, q = .swapAndRecord u ∧ r = u.record ∧
      (s.swapAndRecord u).2.principalHash u.kind u.principalId = some u.arHash ∧
        ∀ r' ∈ s.upgrades, r'.legacyHash ≠ u.legacyHash := by
  cases q with
  | swapAndRecord u =>
    have hswap : (s.swapPrincipalHash u).upgrades = s.upgrades := by
      unfold Store.swapPrincipalHash
      split <;> rfl
    dsimp only [run, Store.swapAndRecord] at hr
    split at hr
    · exact .inl hr
    · rename_i hfree
      by_cases hheld : ((s.swapPrincipalHash u).principalHash u.kind u.principalId ==
          some u.arHash) = true
      · rw [Store.graceRecordAfterSwap, if_pos hheld] at hr
        rcases Table.mem_insertOrIgnore hr with hr | ⟨rfl, hconflicts⟩
        · exact .inl (hswap ▸ hr)
        · refine .inr ⟨u, rfl, rfl, ?_, fun r' hr' hsame => ?_⟩
          · rw [Store.swapAndRecord, if_neg hfree, Store.graceRecordAfterSwap_principalHash]
            simpa using hheld
          · have hfalse := List.any_eq_false.mp hconflicts r' (hswap.symm ▸ hr')
            simp [clash, key, Upgrade.record, hsame] at hfalse
      · rw [Store.graceRecordAfterSwap, if_neg hheld, hswap] at hr
        exact .inl hr
  | createWorkspace id hash generation =>
    dsimp only [run, Store.createWorkspace] at hr
    split_ifs at hr <;> exact .inl hr
  | bumpGeneration | changeKey | changeKeyFenced =>
    dsimp only [run, Store.bumpGeneration, Store.changeKey, Store.changeKeyFenced,
      Store.guardedUpdate] at hr
    split_ifs at hr <;> exact .inl hr
  | rotateKey =>
    dsimp only [run, Store.rotateKey] at hr
    split_ifs at hr <;> exact .inl hr
  | rotatePrincipal =>
    dsimp only [run, Store.rotatePrincipal] at hr
    split_ifs at hr <;> exact .inl hr
  | deleteWorkspace id =>
    dsimp only [run] at hr
    split_ifs at hr
    · exact .inl (Table.mem_deleteWhere.mp hr).1
    · exact .inl hr
  | assertWritable | issueCredential | sha256Hex | readKeyRow | keyOwnedElsewhere | readRecord
  | readLiveRecord | principalHash | dateNow | sealCredential | beginDeletion | commitDeletion
  | releaseDeletion => exact .inl hr

/-! ## The hash of a principal -/

namespace Store

variable (s : Store) {kind : Kind} {id : PrincipalId}

lemma principalHash_workspace : s.principalHash .workspace id = (s.workspace? id).map (·.apiKeyHash) :=
  rfl

lemma principalHash_of_ne (hkind : kind ≠ .workspace) :
    s.principalHash kind id = (s.principal? kind id).bind (·.tokenHash) := by
  cases kind <;> first | rfl | exact absurd rfl hkind

lemma principal?_spec {s : Store} {p : Principal} (h : s.principal? kind id = some p) :
    p.kind = kind ∧ p.id = id := by
  simpa using List.find?_some h

/-- The token hash after an update of principals. -/
lemma principalHash_setTokenHash (hkind : kind ≠ .workspace) (p : Principal → Bool) (hash : Hash) :
    (s.setTokenHash p hash).principalHash kind id =
      (s.principal? kind id).bind fun q => if p q then some hash else q.tokenHash := by
  have hfind : (s.setTokenHash p hash).principal? kind id =
      (s.principal? kind id).map fun q => if p q then { q with tokenHash := some hash } else q :=
    Table.find?_update (T := s.principals) (f := fun q => { q with tokenHash := some hash })
      (q := fun q => q.kind == kind && q.id == id) (fun _ => rfl) fun _ => rfl
  rw [principalHash_of_ne _ hkind, hfind]
  cases s.principal? kind id with
  | none => rfl
  | some q => by_cases hp : p q = true <;> simp [hp]

end Store

/-- The hash a rotation of the principal stores. -/
def Stmt.rotatesTo (kind : Kind) (id : PrincipalId) : Stmt → Option Hash
  | .rotateKey id' hash _ => if kind = .workspace ∧ id' = id then some hash else none
  | .rotatePrincipal kind' id' hash =>
    if kind ≠ .workspace ∧ kind' = kind ∧ id' = id then some hash else none
  | _ => none

/-- The swap of a principal that holds the legacy credential. -/
lemma Store.principalHash_swapPrincipalHash {s : Store} {u : Upgrade}
    (h : s.principalHash u.kind u.principalId = some u.legacyHash) :
    (s.swapPrincipalHash u).principalHash u.kind u.principalId = some u.arHash := by
  unfold swapPrincipalHash
  split
  · rename_i hkind
    rw [hkind, principalHash_workspace] at h ⊢
    obtain ⟨row, hrow, hhash⟩ := Option.map_eq_some_iff.mp h
    rw [workspace?_updateWorkspaces, hrow]
    simp [workspace?_id hrow, hhash]
  · rename_i hkind
    rw [principalHash_setTokenHash _ hkind]
    rw [principalHash_of_ne _ hkind] at h
    obtain ⟨p, hp, hhash⟩ := Option.bind_eq_some_iff.mp h
    obtain ⟨hpkind, hpid⟩ := principal?_spec hp
    rw [hp, Option.bind_some, if_pos (by simp [hpkind, hpid, hhash])]

/-- The batch of an upgrade that matches leaves its record. -/
lemma Store.mem_upgrades_swapAndRecord {s : Store} {u : Upgrade}
    (h : s.principalHash u.kind u.principalId = some u.legacyHash)
    (hnone : ∀ r ∈ s.upgrades, r.legacyHash ≠ u.legacyHash)
    (hstored : (s.swapAndRecord u).1 = true) : u.record ∈ (s.swapAndRecord u).2.upgrades := by
  have hswap : (s.swapPrincipalHash u).upgrades = s.upgrades := by
    unfold swapPrincipalHash
    split <;> rfl
  unfold swapAndRecord at hstored ⊢
  split_ifs at hstored ⊢
  rw [graceRecordAfterSwap, if_pos (by simp [principalHash_swapPrincipalHash h]), hswap]
  refine Table.mem_insertOrIgnore_self (List.any_eq_false.mpr fun r hr => ?_)
  simpa [clash, key, Upgrade.record] using hnone r hr

/-- Neither a push nor the deletion of rows. -/
def Stmt.rotatesOrUpgrades : Stmt → Prop
  | .createWorkspace .. | .bumpGeneration .. | .changeKey .. | .changeKeyFenced .. => False
  | .deleteWorkspace _ => False
  | _ => True

/-- How a statement can change the hash of a principal, other than by a push or a deletion. -/
inductive HashStep (s : Store) (kind : Kind) (id : PrincipalId) (q : Stmt) : Option Hash → Prop
  | same : HashStep s kind id q (s.principalHash kind id)
  | rotated (hash : Hash) (hq : q.rotatesTo kind id = some hash) : HashStep s kind id q (some hash)
  | swapped (u : Upgrade) (hq : q = .swapAndRecord u) (hkind : u.kind = kind)
      (hid : u.principalId = id) (hhash : s.principalHash kind id = some u.legacyHash) :
      HashStep s kind id q (some u.arHash)

lemma HashStep.unchanged {s : Store} {kind : Kind} {id : PrincipalId} {q : Stmt}
    {hash? : Option Hash} (h : hash? = s.principalHash kind id) : HashStep s kind id q hash? :=
  h ▸ .same

/-- The key of a workspace. -/
lemma HashStep.of_rowStep {s : Store} {id : WorkspaceId} {q : Stmt} (hq : q.rotatesOrUpgrades)
    {row? : Option Workspace} (h : RowStep s id q row?) :
    HashStep s .workspace id q (row?.map (·.apiKeyHash)) := by
  cases h with
  | same => exact .same
  | created | bumped | changed | changedFenced | deleted => exact hq.elim
  | rotated hash grace => exact .rotated hash (by simp [Stmt.rotatesTo])
  | upgraded u hkind hid hrow hhash =>
    exact .swapped u rfl hkind hid (by simp [Store.principalHash_workspace, hrow, hhash])

/-- The swap of a token. -/
lemma HashStep.of_swapAndRecord (s : Store) {kind : Kind} (hkind : kind ≠ .workspace)
    (id : PrincipalId) (u : Upgrade) :
    HashStep s kind id (.swapAndRecord u) ((s.swapAndRecord u).2.principalHash kind id) := by
  unfold Store.swapAndRecord
  split
  · exact .same
  · rw [Store.graceRecordAfterSwap_principalHash, Store.swapPrincipalHash]
    split
    · apply HashStep.unchanged
      rw [Store.principalHash_of_ne _ hkind, Store.principalHash_of_ne _ hkind]
      rfl
    · rw [Store.principalHash_setTokenHash _ hkind]
      cases hfind : s.principal? kind id with
      | none => exact .unchanged (by simp [Store.principalHash_of_ne _ hkind, hfind])
      | some p =>
        rw [Option.bind_some]
        by_cases hhit : (p.kind == u.kind && p.id == u.principalId &&
            p.tokenHash == some u.legacyHash) = true
        · obtain ⟨⟨hukind, huid⟩, hlegacy⟩ : (p.kind = u.kind ∧ p.id = u.principalId) ∧
              p.tokenHash = some u.legacyHash := by simpa using hhit
          obtain ⟨hpkind, hpid⟩ := Store.principal?_spec hfind
          rw [if_pos hhit]
          exact .swapped u rfl (hukind.symm.trans hpkind) (huid.symm.trans hpid)
            (by rw [Store.principalHash_of_ne _ hkind, hfind, Option.bind_some, hlegacy])
        · rw [if_neg hhit]
          exact .unchanged (by rw [Store.principalHash_of_ne _ hkind, hfind, Option.bind_some])

/-- **What a statement does to the hash of a principal.** -/
theorem run_principalHash (C : Crypto) {q : Stmt} (hq : q.rotatesOrUpgrades) (a : q.Answer)
    (s : Store) (kind : Kind) (id : PrincipalId) :
    HashStep s kind id q ((run C q a s).2.principalHash kind id) := by
  by_cases hkind : kind = .workspace
  · subst hkind
    exact .of_rowStep hq (run_workspace? C q a s id)
  · have hsame : ∀ s' : Store, s'.principals = s.principals →
        HashStep s kind id q (s'.principalHash kind id) := by
      intro s' hprincipals
      apply HashStep.unchanged
      rw [Store.principalHash_of_ne _ hkind, Store.principalHash_of_ne _ hkind, Store.principal?,
        Store.principal?, hprincipals]
    cases q with
    | createWorkspace | bumpGeneration | changeKey | changeKeyFenced | deleteWorkspace =>
      exact hq.elim
    | rotateKey id' hash grace =>
      dsimp only [run, Store.rotateKey]
      split_ifs <;> exact hsame _ rfl
    | rotatePrincipal kind' id' hash =>
      dsimp only [run, Store.rotatePrincipal]
      split
      · exact .same
      · rw [Store.principalHash_setTokenHash _ hkind]
        cases hfind : s.principal? kind id with
        | none => exact .unchanged (by simp [Store.principalHash_of_ne _ hkind, hfind])
        | some p =>
          obtain ⟨hpkind, hpid⟩ := Store.principal?_spec hfind
          rw [Option.bind_some]
          by_cases hhit : (p.kind == kind' && p.id == id') = true
          · obtain ⟨hkind', hid'⟩ : p.kind = kind' ∧ p.id = id' := by simpa using hhit
            rw [if_pos hhit]
            refine .rotated hash ?_
            simp [Stmt.rotatesTo, hkind, ← hkind', ← hid', hpkind, hpid]
          · rw [if_neg hhit]
            exact .unchanged (by rw [Store.principalHash_of_ne _ hkind, hfind, Option.bind_some])
    | swapAndRecord u => exact .of_swapAndRecord s hkind id u
    | _ => exact hsame _ rfl

/-- Records stay, unless their workspace is deleted. -/
lemma mem_upgrades_run (C : Crypto) {q : Stmt} (hq : q.rotatesOrUpgrades) (a : q.Answer)
    {s : Store} {r : GraceRecord} (hr : r ∈ s.upgrades) : r ∈ (run C q a s).2.upgrades := by
  cases q with
  | createWorkspace | bumpGeneration | changeKey | changeKeyFenced | deleteWorkspace =>
    exact hq.elim
  | rotateKey | rotatePrincipal =>
    dsimp only [run, Store.rotateKey, Store.rotatePrincipal]
    split_ifs <;> exact hr
  | swapAndRecord u =>
    have hswap : (s.swapPrincipalHash u).upgrades = s.upgrades := by
      unfold Store.swapPrincipalHash
      split <;> rfl
    dsimp only [run, Store.swapAndRecord, Store.graceRecordAfterSwap]
    split_ifs
    · exact hr
    · exact Table.mem_insertOrIgnore_of_mem (hswap ▸ hr)
    · exact hswap ▸ hr
  | _ => exact hr

/-- No statement moves the clock. -/
lemma run_now (C : Crypto) (q : Stmt) (a : q.Answer) (s : Store) :
    (run C q a s).2.now = s.now := by
  cases q with
  | swapAndRecord u =>
    dsimp only [run, Store.swapAndRecord, Store.graceRecordAfterSwap, Store.swapPrincipalHash]
    split
    · rfl
    · split <;> split <;> rfl
  | createWorkspace =>
    dsimp only [run, Store.createWorkspace]
    split_ifs <;> rfl
  | bumpGeneration | changeKey | changeKeyFenced =>
    dsimp only [run, Store.bumpGeneration, Store.changeKey, Store.changeKeyFenced,
      Store.guardedUpdate]
    split_ifs <;> rfl
  | rotateKey =>
    dsimp only [run, Store.rotateKey]
    split_ifs <;> rfl
  | rotatePrincipal =>
    dsimp only [run, Store.rotatePrincipal]
    split_ifs <;> rfl
  | deleteWorkspace =>
    dsimp only [run]
    split_ifs <;> rfl
  | _ => rfl

/-! ## Which statements a call issues -/

/-- The statements that write nothing but the fences, the clock and the counter of credentials. -/
def Stmt.reads : Stmt → Prop
  | .createWorkspace .. | .bumpGeneration .. | .changeKey .. | .changeKeyFenced .. => False
  | .rotateKey .. | .rotatePrincipal .. | .swapAndRecord _ => False
  | .beginDeletion _ | .deleteWorkspace _ | .commitDeletion _ | .releaseDeletion _ => False
  | _ => True

/-- The writes of a push to `id`. -/
def Stmt.pushes (id : WorkspaceId) : Stmt → Prop
  | .createWorkspace id' .. | .bumpGeneration id' .. | .changeKey id' .. => id' = id
  | .changeKeyFenced id' .. => id' = id
  | q => q.reads

/-- The statements a call can issue. -/
def Call.mayIssue : Call → Stmt → Prop
  | .pushWorkspaceKey id _, q => q.pushes id
  | .rotateWorkspaceKey id _, .rotateKey id' .. => id' = id
  | .rotateToken kind id, .rotatePrincipal kind' id' _ => kind' = kind ∧ id' = id
  | .upgradeLegacyCredential args, .swapAndRecord u =>
    u.kind = args.kind ∧ u.principalId = args.principalId ∧ u.workspaceId = args.workspaceId
  | .deleteInternalWorkspace id, q =>
    q = .beginDeletion id ∨ q = .deleteWorkspace id ∨ q = .commitDeletion id ∨
      q = .releaseDeletion id
  | _, q => q.reads

namespace Push

variable (p : Push)

lemma reread_issues (keyGeneration : Option ℕ) :
    (p.reread keyGeneration).Issues (Stmt.pushes p.workspaceId) :=
  ⟨trivial, fun _ => trivial⟩

lemma create_issues (keyGeneration : Option ℕ) :
    (p.create keyGeneration).Issues (Stmt.pushes p.workspaceId) := by
  unfold create
  split
  · trivial
  · refine Prog.issues_ask_bind trivial fun owned => ?_
    split
    · trivial
    · refine Prog.issues_ask_bind rfl fun outcome => ?_
      split
      · trivial
      · trivial
      · trivial
      · refine Prog.issues_ask_bind trivial fun fresh => ?_
        split <;> trivial

lemma repush_issues (keyGeneration : Option ℕ) (stored : ℕ) :
    (p.repush keyGeneration stored).Issues (Stmt.pushes p.workspaceId) := by
  unfold repush
  split
  · trivial
  · split
    · refine Prog.issues_ask_bind rfl fun outcome => ?_
      split
      · trivial
      · exact p.reread_issues _
      · trivial
    · trivial

lemma changeGenerationless_issues (row : KeyRow) :
    (p.changeGenerationless row).Issues (Stmt.pushes p.workspaceId) := by
  unfold changeGenerationless
  split
  · trivial
  · refine Prog.issues_ask_bind rfl fun outcome => ?_
    split
    · trivial
    · exact p.reread_issues _
    · trivial

lemma changeFenced_issues (generation : ℕ) (row : KeyRow) :
    (p.changeFenced generation row).Issues (Stmt.pushes p.workspaceId) := by
  unfold changeFenced
  split
  · trivial
  · refine Prog.issues_ask_bind rfl fun outcome => ?_
    split
    · trivial
    · exact ⟨trivial, fun _ => trivial⟩
    · trivial

lemma change_issues (keyGeneration : Option ℕ) (row : KeyRow) :
    (p.change keyGeneration row).Issues (Stmt.pushes p.workspaceId) := by
  refine Prog.issues_ask_bind trivial fun owned => ?_
  split
  · trivial
  · split
    · split
      · trivial
      · exact p.changeFenced_issues _ row
    · split
      · exact p.changeGenerationless_issues row
      · exact p.changeFenced_issues _ row

lemma attempt_issues (keyGeneration : Option ℕ) (row : Option KeyRow) :
    (p.attempt keyGeneration row).Issues (Stmt.pushes p.workspaceId) := by
  refine Prog.issues_ask_bind trivial fun writable => ?_
  split
  · split
    · exact p.create_issues _
    · split
      · exact p.repush_issues _ _
      · exact p.change_issues _ _
  · trivial

lemma attempts_issues (n : ℕ) : ∀ (keyGeneration : Option ℕ) (row : Option KeyRow),
    (p.attempts keyGeneration row n).Issues (Stmt.pushes p.workspaceId) := by
  induction n with
  | zero => exact fun _ _ => trivial
  | succ n ih =>
    intro keyGeneration row
    refine (p.attempt_issues keyGeneration row).bind fun outcome => ?_
    cases outcome with
    | answer result => trivial
    | again keyGeneration row => exact ih keyGeneration row

end Push

lemma pushWorkspaceKey_issues (id : WorkspaceId) (input : PushWorkspaceKeyInput) :
    (pushWorkspaceKey id input).Issues (Stmt.pushes id) := by
  refine Prog.issues_ask_bind trivial fun writable => ?_
  split
  · refine Prog.Issues.bind ?_ fun apiKey => ?_
    · unfold pushedKey
      split
      · trivial
      · exact ⟨trivial, fun _ => trivial⟩
    · refine Prog.issues_ask_bind trivial fun hash => Prog.issues_ask_bind trivial fun row => ?_
      exact Push.attempts_issues _ 2 _ row
  · trivial

/-- The statements of an upgrade. -/
lemma upgradeLegacyCredential_issues (C : Crypto) (args : UpgradeArgs) :
    (upgradeLegacyCredential C args).Issues (Call.mayIssue (.upgradeLegacyCredential args)) := by
  have hclaimed : ∀ hash, (args.claimed hash).Issues
      (Call.mayIssue (.upgradeLegacyCredential args)) := by
    intro hash
    refine Prog.issues_ask_bind trivial fun record => ?_
    split
    · trivial
    · refine Prog.issues_ask_bind trivial fun current => ?_
      split <;> trivial
  unfold upgradeLegacyCredential
  split
  · refine Prog.issues_ask_bind trivial fun legacyHash => (hclaimed legacyHash).bind fun found => ?_
    split
    · trivial
    · refine Prog.issues_ask_bind trivial fun now => ?_
      split <;> trivial
    · split
      · refine Prog.issues_ask_bind trivial fun credential => Prog.issues_ask_bind trivial
          fun arHash => Prog.issues_ask_bind trivial fun sealedCredential =>
            Prog.issues_ask_bind trivial fun now =>
              Prog.issues_ask_bind ⟨rfl, rfl, rfl⟩ fun stored => ?_
        split
        · refine Prog.issues_ask_bind trivial fun current => ?_
          split
          · trivial
          · refine (hclaimed legacyHash).bind fun winner => ?_
            split <;> trivial
        · trivial
      · trivial
  · trivial

/-- **Every statement a call issues is one it may issue.** -/
lemma body_issues (C : Crypto) (c : Call) : (c.body C).Issues c.mayIssue := by
  cases c with
  | pushWorkspaceKey id input => exact pushWorkspaceKey_issues id input
  | rotateWorkspaceKey id graceMs =>
    simp only [Call.body, rotateWorkspaceKey]
    split
    · trivial
    · refine Prog.issues_ask_bind trivial fun existing => ?_
      split
      · trivial
      · refine Prog.issues_ask_bind trivial fun key => Prog.issues_ask_bind trivial fun hash =>
          Prog.issues_ask_bind rfl fun stored => ?_
        split <;> trivial
  | rotateToken kind id =>
    refine Prog.issues_ask_bind trivial fun token => Prog.issues_ask_bind trivial fun hash =>
      Prog.issues_ask_bind ⟨rfl, rfl⟩ fun stored => ?_
    split <;> trivial
  | upgradeLegacyCredential args => exact upgradeLegacyCredential_issues C args
  | upgradedLegacyCredential kind legacyHash =>
    refine Prog.issues_ask_bind trivial fun row => ?_
    split
    · trivial
    · refine Prog.issues_ask_bind trivial fun current => ?_
      split <;> trivial
  | deleteInternalWorkspace id =>
    refine Prog.issues_ask_bind (.inl rfl) fun _ => Prog.issues_ask_bind (.inr (.inl rfl))
      fun succeeded => ?_
    split
    · exact Prog.issues_ask_bind (.inr (.inr (.inl rfl))) fun _ => trivial
    · exact Prog.issues_ask_bind (.inr (.inr (.inr rfl))) fun _ => trivial

end Credential
