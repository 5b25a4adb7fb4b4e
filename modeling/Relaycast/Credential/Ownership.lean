import Relaycast.Credential.Generations

/-!
# One key, one workspace

A key authenticates in a workspace through its current slot, through its previous slot until that
expires, or through the record of an upgrade whose credential the workspace still holds.  The
ownership guard of a push looks at the slots of the other workspaces and not at the records.  So a
key that was upgraded away in one workspace can be pushed to another while its record still counts
(`not_oneOwner_pushOfUpgradedKey`), and a push can give a workspace back the credential that makes
an old record count again.

A statement lets a key authenticate where it did not before only by writing a current slot
(`authenticates_run`), so the two conditions on pushes (`Stmt.pushesUncontested`) are all that is
missing.
-/

namespace Credential

open Relational Interleaving

/-! ## Authentication -/

namespace Store

variable (s : Store)

/-- `authenticateLegacy`, in the workspace `X`: the current slot, or the previous one in its
grace. -/
def slotLive (hash : Hash) (X : WorkspaceId) : Bool :=
  (s.workspace? X).any fun w => w.holds s.now hash

/-- `authenticateUpgradedLegacy`, in the workspace `X`. -/
def recordLive (hash : Hash) (X : WorkspaceId) : Bool :=
  (s.record? hash).any fun r => r.kind == .workspace && r.unexpired s.now && r.principalId == X &&
    s.principalHash .workspace X == some r.arHash

/-- `authenticate`: does the key of this digest authenticate in `X`? -/
def authenticates (hash : Hash) (X : WorkspaceId) : Bool := s.slotLive hash X || s.recordLive hash X

/-- Does the key authenticate through a record in another workspace? -/
def upgradedElsewhere (hash : Hash) (X : WorkspaceId) : Bool :=
  (s.record? hash).any fun r => r.principalId != X && s.recordLive hash r.principalId

/-- Is `hash` the credential of an unexpired record of `X` whose legacy key is live elsewhere? -/
def revives (hash : Hash) (X : WorkspaceId) : Bool :=
  s.upgrades.rows.any fun r => r.kind == .workspace && r.unexpired s.now && r.principalId == X &&
    r.arHash == hash && s.liveElsewhere r.legacyHash X

/-- The hash occurs nowhere in the tables. -/
def unused (hash : Hash) : Bool :=
  (s.workspaces.rows.all fun w => w.apiKeyHash != hash && w.previousApiKeyHash != some hash) &&
    s.upgrades.rows.all fun r => r.legacyHash != hash && r.arHash != hash

end Store

/-- The current slot a statement writes, and the digest it puts there. -/
def Stmt.keyWrite : Stmt → Option (WorkspaceId × Hash)
  | .createWorkspace id hash _ | .changeKey id _ hash | .changeKeyFenced id _ hash .. =>
    some (id, hash)
  | .rotateKey id hash _ => some (id, hash)
  | .swapAndRecord u => if u.kind = .workspace then some (u.principalId, u.arHash) else none
  | _ => none

/-- The keys that rotations and upgrades have minted are not in use when they are stored. -/
def Stmt.mintsUnused (s : Store) : Stmt → Bool
  | .rotateKey _ hash _ => s.unused hash
  | .swapAndRecord u => u.kind != .workspace || s.unused u.arHash
  | _ => true

/-- Where the ownership guard lets a push pass, the pushed key does not authenticate through a
record elsewhere, and it does not bring back a record whose legacy key is live elsewhere. -/
def Stmt.pushesUncontested (s : Store) : Stmt → Bool
  | .createWorkspace id hash _ | .changeKey id _ hash | .changeKeyFenced id _ hash .. =>
    s.liveElsewhere hash id || (!s.upgradedElsewhere hash id && !s.revives hash id)
  | _ => true

/-- Every raw key authenticates in at most one workspace. -/
def OneOwner (C : Crypto) (s : Store) : Prop :=
  ∀ key X Y, s.authenticates (C.sha256Hex key) X = true →
    s.authenticates (C.sha256Hex key) Y = true → X = Y

/-- All runs in which minted keys are unused. -/
def freshKeys : Regime lang Store Call where
  calls _ := True
  permits w _ q := q.mintsUnused w.store = true
  crashes := True

/-- Among them, the runs whose pushes are uncontested. -/
def uncontestedPushes : Regime lang Store Call where
  calls _ := True
  permits w _ q := q.mintsUnused w.store = true ∧ q.pushesUncontested w.store = true
  crashes := True

/-! ## Looking up what is live -/

section Lookup

variable {s : Store} {hash : Hash} {X Y : WorkspaceId}

lemma Store.record?_eq_some {r : GraceRecord} :
    s.record? hash = some r ↔ r ∈ s.upgrades ∧ r.legacyHash = hash := by
  constructor
  · intro h
    exact ⟨List.mem_of_find?_eq_some h, by simpa using List.find?_some h⟩
  · rintro ⟨hr, rfl⟩
    cases hfind : s.record? r.legacyHash with
    | none =>
      have hmiss := List.find?_eq_none.mp hfind r hr
      simp at hmiss
    | some r' =>
      have hhash : r'.legacyHash = r.legacyHash := by simpa using List.find?_some hfind
      rw [Table.eq_of_clash (List.mem_of_find?_eq_some hfind) hr (by simp [clash, key, hhash])]

lemma Store.slotLive_iff : s.slotLive hash X = true ↔
    ∃ row, s.workspace? X = some row ∧ row.holds s.now hash = true := Option.any_eq_true _ _

lemma Store.recordLive_iff : s.recordLive hash X = true ↔
    ∃ r ∈ s.upgrades, r.legacyHash = hash ∧ r.kind = .workspace ∧ r.unexpired s.now = true ∧
      r.principalId = X ∧ ∃ row, s.workspace? X = some row ∧ row.apiKeyHash = r.arHash := by
  simp [recordLive, Option.any_eq_true, Store.record?_eq_some, principalHash, and_assoc]

/-- Slots are what the ownership guard of a push looks at. -/
lemma Store.slotLive_of_not_liveElsewhere (h : s.liveElsewhere hash X = false) (hY : Y ≠ X) :
    s.slotLive hash Y = false := by
  by_contra hlive
  obtain ⟨row, hrow, hholds⟩ := slotLive_iff.mp (by simpa using hlive)
  have hmiss := List.any_eq_false.mp h row (mem_of_workspace? hrow)
  simp [workspace?_id hrow, hY, hholds] at hmiss

lemma Store.recordLive_of_not_upgradedElsewhere (h : s.upgradedElsewhere hash X = false)
    (hY : Y ≠ X) : s.recordLive hash Y = false := by
  by_contra hlive
  rw [Bool.not_eq_false] at hlive
  obtain ⟨r, hr, hhash, -, -, rfl, -⟩ := recordLive_iff.mp hlive
  rw [upgradedElsewhere, record?_eq_some.mpr ⟨hr, hhash⟩] at h
  simp [hY, hlive] at h

/-- What is not in use authenticates nowhere. -/
lemma Store.not_authenticates_of_unused (h : s.unused hash = true) :
    s.authenticates hash X = false := by
  obtain ⟨hslots, hrecords⟩ := Bool.and_eq_true_iff.mp h
  have hslot : s.slotLive hash X = false := by
    by_contra hlive
    obtain ⟨row, hrow, hholds⟩ := slotLive_iff.mp (by simpa using hlive)
    have hfree := List.all_eq_true.mp hslots row (mem_of_workspace? hrow)
    simp only [bne_iff_ne, Bool.and_eq_true, ne_eq] at hfree
    simp [Workspace.holds, hfree.1, hfree.2] at hholds
  have hrecord : s.recordLive hash X = false := by
    by_contra hlive
    obtain ⟨r, hr, hhash, -⟩ := recordLive_iff.mp (by simpa using hlive)
    have hfree := List.all_eq_true.mp hrecords r hr
    simp [hhash] at hfree
  rw [authenticates, hslot, hrecord, Bool.or_false]

/-- Time passes: what authenticates later has authenticated before. -/
lemma Store.authenticates_mono {s' : Store} (hworkspaces : s'.workspaces = s.workspaces)
    (hupgrades : s'.upgrades = s.upgrades) (hnow : s.now ≤ s'.now)
    (h : s'.authenticates hash X = true) : s.authenticates hash X = true := by
  have hseconds : toSeconds s.now ≤ toSeconds s'.now := Nat.div_le_div_right hnow
  have hrow : ∀ row, s'.workspace? X = some row → s.workspace? X = some row := by
    simp [workspace?, hworkspaces]
  rw [authenticates, Bool.or_eq_true] at h ⊢
  refine h.imp (fun hslot => ?_) fun hrecord => ?_
  · obtain ⟨row, hrow', hholds⟩ := slotLive_iff.mp hslot
    refine slotLive_iff.mpr ⟨row, hrow row hrow', ?_⟩
    simp only [Workspace.holds, Workspace.inGrace, Bool.or_eq_true, Bool.and_eq_true,
      Option.any_eq_true, decide_eq_true_eq] at hholds ⊢
    refine hholds.imp id fun hprevious => ?_
    obtain ⟨hprevious, expires, hexpires, hlt⟩ := hprevious
    exact ⟨hprevious, expires, hexpires, lt_of_le_of_lt hseconds hlt⟩
  · obtain ⟨r, hr, hhash, hkind, hunexpired, hid, row, hrow', har⟩ := recordLive_iff.mp hrecord
    refine recordLive_iff.mpr
      ⟨r, hupgrades ▸ hr, hhash, hkind, ?_, hid, row, hrow row hrow', har⟩
    simp only [GraceRecord.unexpired, decide_eq_true_eq] at hunexpired ⊢
    exact lt_of_le_of_lt hseconds hunexpired

end Lookup

/-! ## What a statement makes live -/

/-- The statement stores `hash` in the current slot of `X`, past the ownership guard if it is a
push. -/
structure Writes (s : Store) (q : Stmt) (X : WorkspaceId) (hash : Hash) : Prop where
  slot : q.keyWrite = some (X, hash)
  guarded : q.pushes X → s.liveElsewhere hash X = false

/-- How a key comes to authenticate in `X`: it is written there, or the credential of its record
is. -/
inductive Gains (s : Store) (q : Stmt) (X : WorkspaceId) (hash : Hash) : Prop
  | slot (hwrites : Writes s q X hash)
  | record (r : GraceRecord) (hwrites : Writes s q X r.arHash) (hr : r ∈ s.upgrades)
      (hhash : r.legacyHash = hash) (hkind : r.kind = .workspace)
      (hunexpired : r.unexpired s.now = true) (hid : r.principalId = X)

section Step

variable {C : Crypto} {s : Store} {q : Stmt} {X Y : WorkspaceId} {hash : Hash}

/-- The current slot after a statement: the old one, or what the statement writes. -/
lemma RowStep.current {row : Workspace} (h : RowStep s X q (some row)) :
    (∃ old, s.workspace? X = some old ∧ old.apiKeyHash = row.apiKeyHash) ∨
      Writes s q X row.apiKeyHash := by
  generalize hafter : some row = after? at h
  cases h with
  | same => exact .inl ⟨row, hafter.symm, rfl⟩
  | deleted => simp at hafter
  | created hash generation _ _ hlive =>
    obtain rfl := Option.some.inj hafter
    exact .inr ⟨rfl, fun _ => hlive⟩
  | bumped hash generation _ hold =>
    obtain rfl := Option.some.inj hafter
    exact .inl ⟨_, hold, rfl⟩
  | changed oldHash hash _ _ _ _ hlive | changedFenced oldHash hash _ _ _ _ _ _ hlive =>
    obtain rfl := Option.some.inj hafter
    exact .inr ⟨rfl, fun _ => hlive⟩
  | rotated hash grace =>
    obtain rfl := Option.some.inj hafter
    exact .inr ⟨rfl, fun hpush => hpush.elim⟩
  | upgraded u hkind hid =>
    obtain rfl := Option.some.inj hafter
    exact .inr ⟨by simp [Stmt.keyWrite, hkind, hid], fun hpush => hpush.elim⟩

/-- What the slots hold after a statement was held before, or is what the statement writes. -/
lemma RowStep.holds {row : Workspace} (h : RowStep s X q (some row))
    (hholds : row.holds s.now hash = true) :
    s.slotLive hash X = true ∨ Writes s q X hash := by
  have hcurrent := h.current
  -- A previous slot was the previous or the current one before.
  have hprevious : row.previousApiKeyHash = some hash → row.inGrace s.now = true →
      s.slotLive hash X = true := by
    intro hprev hgrace
    generalize hafter : some row = after? at h
    cases h with
    | same => exact Store.slotLive_iff.mpr ⟨row, hafter.symm, hholds⟩
    | deleted => simp at hafter
    | created =>
      obtain rfl := Option.some.inj hafter
      simp at hprev
    | bumped _ _ _ hold | changed _ _ _ hold | upgraded _ _ _ hold =>
      obtain rfl := Option.some.inj hafter
      refine Store.slotLive_iff.mpr ⟨_, hold, ?_⟩
      simp only [Workspace.holds, Workspace.inGrace, Bool.or_eq_true, Bool.and_eq_true,
        beq_iff_eq] at hprev hgrace ⊢
      exact .inr ⟨hprev, hgrace⟩
    | changedFenced _ _ _ _ _ hold hhash =>
      obtain rfl := Option.some.inj hafter
      obtain rfl := Option.some.inj hprev
      exact Store.slotLive_iff.mpr ⟨_, hold, by simp [Workspace.holds, hhash]⟩
    | rotated _ _ hold =>
      obtain rfl := Option.some.inj hafter
      obtain rfl := Option.some.inj hprev
      exact Store.slotLive_iff.mpr ⟨_, hold, by simp [Workspace.holds]⟩
  simp only [Workspace.holds, Bool.or_eq_true, Bool.and_eq_true, beq_iff_eq] at hholds
  rcases hholds with rfl | ⟨hprev, hgrace⟩
  · rcases hcurrent with ⟨old, hold, hhash⟩ | hwrites
    · exact .inl (Store.slotLive_iff.mpr ⟨old, hold, by simp [Workspace.holds, hhash]⟩)
    · exact .inr hwrites
  · exact .inl (hprevious hprev hgrace)

/-- **Where a key comes to authenticate.** -/
lemma authenticates_run (hminted : q.mintsUnused s = true) (a : q.Answer)
    (h : (run C q a s).2.authenticates hash X = true) :
    s.authenticates hash X = true ∨ Gains s q X hash := by
  have hstep := run_workspace? C q a s X
  rw [Store.authenticates, Bool.or_eq_true] at h
  rcases h with hslot | hrecord
  · obtain ⟨row, hrow, hholds⟩ := Store.slotLive_iff.mp hslot
    rw [hrow] at hstep
    rw [run_now] at hholds
    rcases hstep.holds hholds with hlive | hwrites
    · exact .inl (by rw [Store.authenticates, hlive, Bool.true_or])
    · exact .inr (.slot hwrites)
  · obtain ⟨r, hr, hhash, hkind, hunexpired, hid, row, hrow, har⟩ :=
      Store.recordLive_iff.mp hrecord
    rw [hrow] at hstep
    rw [run_now] at hunexpired
    rcases run_upgrades C q a s hr with hr | ⟨u, rfl, rfl, -, -⟩
    · rcases hstep.current with ⟨old, hold, hsame⟩ | hwrites
      · have hlive : s.recordLive hash X = true := Store.recordLive_iff.mpr
          ⟨r, hr, hhash, hkind, hunexpired, hid, old, hold, hsame.trans har⟩
        exact .inl (by rw [Store.authenticates, hlive, Bool.or_true])
      · exact .inr (.record r (har ▸ hwrites) hr hhash hkind hunexpired hid)
    · -- The record of an upgrade: its legacy key was the current one.
      obtain rfl : u.principalId = X := hid
      have hkind : u.kind = .workspace := hkind
      have hfresh : s.unused u.arHash = true := by simpa [Stmt.mintsUnused, hkind] using hminted
      have hslot : s.slotLive u.legacyHash u.principalId = true := by
        generalize hafter : some row = after? at hstep
        cases hstep with
        | same =>
          have hholds : row.holds s.now u.arHash = true := by
            simp [Workspace.holds, har, Upgrade.record]
          have hused : s.slotLive u.arHash u.principalId = true :=
            Store.slotLive_iff.mpr ⟨row, hafter.symm, hholds⟩
          have hnone := Store.not_authenticates_of_unused (X := u.principalId) hfresh
          rw [Store.authenticates, hused] at hnone
          simp at hnone
        | upgraded _ _ _ hold hlegacy =>
          exact Store.slotLive_iff.mpr ⟨_, hold, by simp [Workspace.holds, hlegacy]⟩
      obtain rfl : u.legacyHash = hash := hhash
      exact .inl (by rw [Store.authenticates, hslot, Bool.true_or])

/-- The key a permitted write stores authenticates nowhere else. -/
lemma Writes.not_authenticates (h : Writes s q X hash) (hminted : q.mintsUnused s = true)
    (hpush : q.pushesUncontested s = true) (hY : Y ≠ X) : s.authenticates hash Y = false := by
  obtain ⟨hslot, hguard⟩ := h
  cases q with
  | createWorkspace | changeKey | changeKeyFenced =>
    obtain ⟨rfl, rfl⟩ := Prod.mk.inj (Option.some.inj hslot)
    have hlive := hguard rfl
    have hrecord : s.upgradedElsewhere _ _ = false :=
      (by simpa [Stmt.pushesUncontested, hlive] using hpush : _ ∧ _).1
    rw [Store.authenticates, Store.slotLive_of_not_liveElsewhere hlive hY,
      Store.recordLive_of_not_upgradedElsewhere hrecord hY, Bool.or_false]
  | rotateKey =>
    obtain ⟨rfl, rfl⟩ := Prod.mk.inj (Option.some.inj hslot)
    exact Store.not_authenticates_of_unused hminted
  | swapAndRecord u =>
    by_cases hkind : u.kind = .workspace
    · simp only [Stmt.keyWrite, hkind, if_true] at hslot
      obtain ⟨rfl, rfl⟩ := Prod.mk.inj (Option.some.inj hslot)
      exact Store.not_authenticates_of_unused (by simpa [Stmt.mintsUnused, hkind] using hminted)
    · simp [Stmt.keyWrite, hkind] at hslot
  | _ => simp [Stmt.keyWrite] at hslot

/-- The legacy key of a record that a permitted write brings back is in no slot elsewhere. -/
lemma Writes.not_slotLive {r : GraceRecord} (h : Writes s q X r.arHash)
    (hminted : q.mintsUnused s = true) (hpush : q.pushesUncontested s = true)
    (hr : r ∈ s.upgrades) (hkind : r.kind = .workspace) (hunexpired : r.unexpired s.now = true)
    (hid : r.principalId = X) (hY : Y ≠ X) : s.slotLive r.legacyHash Y = false := by
  have hused : s.unused r.arHash = false := by
    by_contra hfree
    rw [Bool.not_eq_false] at hfree
    have hfresh := List.all_eq_true.mp (Bool.and_eq_true_iff.mp hfree).2 r hr
    simp at hfresh
  obtain ⟨hslot, hguard⟩ := h
  cases q with
  | createWorkspace | changeKey | changeKeyFenced =>
    obtain ⟨rfl, rfl⟩ := Prod.mk.inj (Option.some.inj hslot)
    have hlive := hguard rfl
    have hrevives : s.revives r.arHash r.principalId = false :=
      hid ▸ (by simpa [Stmt.pushesUncontested, hlive] using hpush : _ ∧ _).2
    have hmiss := List.any_eq_false.mp hrevives r hr
    refine Store.slotLive_of_not_liveElsewhere (X := r.principalId) ?_ (hid ▸ hY)
    simpa [hkind, hunexpired] using hmiss
  | rotateKey =>
    obtain ⟨rfl, rfl⟩ := Prod.mk.inj (Option.some.inj hslot)
    rw [Stmt.mintsUnused, hused] at hminted
    simp at hminted
  | swapAndRecord u =>
    by_cases hworkspace : u.kind = .workspace
    · simp only [Stmt.keyWrite, hworkspace, if_true] at hslot
      obtain ⟨rfl, hhash⟩ := Prod.mk.inj (Option.some.inj hslot)
      simp [Stmt.mintsUnused, hworkspace, hhash, hused] at hminted
    · simp [Stmt.keyWrite, hworkspace] at hslot
  | _ => simp [Stmt.keyWrite] at hslot

/-- What a permitted statement makes live in one workspace is not live in another. -/
lemma Gains.not_authenticates (h : Gains s q X hash) (hminted : q.mintsUnused s = true)
    (hpush : q.pushesUncontested s = true) (hY : Y ≠ X) : s.authenticates hash Y = false := by
  cases h with
  | slot hwrites => exact hwrites.not_authenticates hminted hpush hY
  | record r hwrites hr hhash hkind hunexpired hid =>
    have hrecord : s.recordLive hash Y = false := by
      by_contra hlive
      obtain ⟨r', hr', hhash', -, -, hid', -⟩ := Store.recordLive_iff.mp (by simpa using hlive)
      have hsame : r' = r := Table.eq_of_clash hr' hr (by simp [clash, key, hhash', hhash])
      exact hY (hid' ▸ hsame ▸ hid)
    rw [Store.authenticates, hrecord, Bool.or_false, ← hhash]
    exact hwrites.not_slotLive hminted hpush hr hkind hunexpired hid hY

lemma Gains.keyWrite (h : Gains s q X hash) : ∃ k, q.keyWrite = some (X, k) := by
  cases h with
  | slot hwrites => exact ⟨_, hwrites.slot⟩
  | record r hwrites => exact ⟨_, hwrites.slot⟩

/-- **One statement.** -/
lemma oneOwner_run (h : OneOwner C s) (hminted : q.mintsUnused s = true)
    (hpush : q.pushesUncontested s = true) (a : q.Answer) : OneOwner C (run C q a s).2 := by
  intro key X Y hX hY
  by_contra hne
  rcases authenticates_run hminted a hX with hoX | hgX <;>
    rcases authenticates_run hminted a hY with hoY | hgY
  · exact hne (h key X Y hoX hoY)
  · rw [hgY.not_authenticates hminted hpush hne] at hoX
    simp at hoX
  · rw [hgX.not_authenticates hminted hpush (Ne.symm hne)] at hoY
    simp at hoY
  · obtain ⟨k, hk⟩ := hgX.keyWrite
    obtain ⟨k', hk'⟩ := hgY.keyWrite
    exact hne (Prod.mk.inj (Option.some.inj (hk.symm.trans hk'))).1

end Step

/-! ## Every run -/

/-- **One key, one workspace.**  From tables in which no key authenticates in two workspaces, in
every run whose pushes are uncontested, every key authenticates in at most one workspace at every
moment. -/
theorem oneOwner_of_uncontested (C : Crypto) {g : Config lang Store Call.Result}
    (h : (service C (OneOwner C)).Reachable uncontestedPushes g) : OneOwner C g.world.store := by
  refine System.invariant_of_statements (I := fun w => OneOwner C w.store) (P := fun _ => True)
    (fun s hs => hs) (fun d w hw => ?_) (fun c _ => (body_issues C c).mono fun _ _ => trivial)
    (fun w i q _ hw hpermits a => ?_) h
  · have hlater : w.store.now ≤ (w.drift (machine C) d).store.now := Nat.le_add_right _ _
    have hmono : ∀ hash X, (w.drift (machine C) d).store.authenticates hash X = true →
        w.store.authenticates hash X = true :=
      fun hash X => Store.authenticates_mono (by rfl) (by rfl) hlater
    exact fun key X Y hX hY => hw key X Y (hmono _ X hX) (hmono _ Y hY)
  · obtain ⟨hminted, hpush⟩ := hpermits
    exact oneOwner_run hw hminted hpush a

/-- Workspaces with distinct keys and no previous ones. -/
lemma oneOwner_storeWith {ws : Table Workspace}
    (hprevious : ∀ w ∈ ws.rows, w.previousApiKeyHash = none)
    (hdistinct : ∀ w ∈ ws.rows, ∀ w' ∈ ws.rows, w.apiKeyHash = w'.apiKeyHash → w.id = w'.id) :
    OneOwner plainCrypto (storeWith ws) := by
  have hcurrent : ∀ hash X, (storeWith ws).authenticates hash X = true →
      ∃ w ∈ ws.rows, w.id = X ∧ w.apiKeyHash = hash := by
    intro hash X h
    have hslot : (storeWith ws).slotLive hash X = true := by
      simpa [Store.authenticates, Store.recordLive, Store.record?, storeWith, Table.empty] using h
    obtain ⟨w, hw, hholds⟩ := Store.slotLive_iff.mp hslot
    have hmem := Store.mem_of_workspace? hw
    refine ⟨w, hmem, Store.workspace?_id hw, ?_⟩
    simpa [Workspace.holds, hprevious w hmem] using hholds
  intro key X Y hX hY
  obtain ⟨w, hw, rfl, hhash⟩ := hcurrent _ X hX
  obtain ⟨w', hw', rfl, hhash'⟩ := hcurrent _ Y hY
  exact hdistinct w hw w' hw' (hhash.trans hhash'.symm)

/-- Two workspaces. -/
def twoWorkspaces : Store :=
  storeWith ((Table.empty.insertOrIgnore ⟨"a", "k", none, none, 0⟩).insertOrIgnore
    ⟨"b", "kb", none, none, 0⟩)

lemma oneOwner_twoWorkspaces : OneOwner plainCrypto twoWorkspaces :=
  oneOwner_storeWith (by decide +kernel) (by decide +kernel)

/-- The system of the example, from tables in which no key has two owners. -/
abbrev ownedService := service plainCrypto (OneOwner plainCrypto)

/-- The key of `a` is upgraded, and then `key` is pushed to `b`. -/
def upgradeThenPush (key : Key) : List ownedService.Move :=
  .start (.upgradeLegacyCredential ⟨"k", .workspace, "a", "a", some "k", 1000, true⟩) ::
    (List.replicate 9 (.exec 0 deletes) ++
      .start (.pushWorkspaceKey "b" ⟨some key, some 1, none⟩) ::
        List.replicate 6 (.exec 1 deletes))

theorem oneOwner_of_uncontested_pushOfNewKey :
    OneOwner plainCrypto
      (ownedService.runFrom twoWorkspaces (upgradeThenPush "n")).world.store := by
  have hok : ∀ (w : World lang Store) (i : ℕ) (q : Stmt),
      (q.mintsUnused w.store && q.pushesUncontested w.store) = true →
        uncontestedPushes.permits w i q := fun _ _ _ => Bool.and_eq_true_iff.mp
  apply oneOwner_of_uncontested
  apply System.runFrom_reachable_of _ _ oneOwner_twoWorkspaces
  exact System.allowsAll_of_passes _ hok (fun _ _ => trivial) (by decide +kernel)

/-- **A key that was upgraded away in one workspace is pushed to another.** -/
theorem not_oneOwner_pushOfUpgradedKey :
    ¬ ∀ g : Config lang Store Call.Result, ownedService.Reachable freshKeys g →
      OneOwner plainCrypto g.world.store := by
  intro h
  have hok : ∀ (w : World lang Store) (i : ℕ) (q : Stmt), q.mintsUnused w.store = true →
      freshKeys.permits w i q := fun _ _ _ hq => hq
  have hallowed : ownedService.AllowsAll freshKeys ⟨⟨twoWorkspaces, []⟩, []⟩
      (upgradeThenPush "k") :=
    System.allowsAll_of_passes _ hok (fun _ _ => trivial) (by decide +kernel)
  have howner := h _ (System.runFrom_reachable_of _ _ oneOwner_twoWorkspaces hallowed)
  have hboth : ∀ X ∈ ["a", "b"], (ownedService.runFrom twoWorkspaces
      (upgradeThenPush "k")).world.store.authenticates "k" X = true := by decide +kernel
  have hsame := howner "k" "a" "b" (hboth "a" (by simp)) (hboth "b" (by simp))
  simp at hsame

end Credential
