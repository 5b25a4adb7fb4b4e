import Relaycast.Credential.Ownership

/-!
# The upgrade of a legacy credential

Any number of calls upgrade one legacy token while its principal is rotated.  The swap of the hash
and the record of the upgrade are one statement, and the record is the claim: whoever swaps the
legacy hash out leaves the record, and everyone else finds it.

The induction rests on two facts about hashes.  A hash is stored only by the call that has minted
its credential, and once (`UpgradeInv.own`), so a principal never gets back a credential it has
lost.  And no minted hash is the legacy one, so after the first write, by an upgrade or by a
rotation, the swap of every other upgrade finds nothing to replace.
-/

namespace Credential

open Relational Interleaving

/-! ## Events -/

/-- The credential an event mints. -/
def mintedBy : Event lang Store → Option Key
  | ⟨_, .issueCredential, _, (key : Key), _, _⟩ => some key
  | _ => none

/-- The hash of a minted credential that a statement stores. -/
def Stmt.writesHash : Stmt → Option Hash
  | .rotateKey _ hash _ | .rotatePrincipal _ _ hash => some hash
  | .swapAndRecord u => some u.arHash
  | _ => none

section Statements

variable (C : Crypto) (kind : Kind) (id : PrincipalId) (token : Key)

/-- The event is a committed rotation: the principal holds the new credential. -/
def Rotated (e : Event lang Store) : Prop :=
  ∃ hash, e.stmt.rotatesTo kind id = some hash ∧ e.after.principalHash kind id = some hash

/-- The event is the batch of an upgrade. -/
def Swapped (e : Event lang Store) : Prop := ∃ u, e.stmt = .swapAndRecord u

/-! ## What is claimed of upgrades -/

/-- The calls: upgrades of the token, which belongs to the principal, rotations, and the use of
upgraded credentials. -/
def Call.Upgrades : Call → Prop
  | .upgradeLegacyCredential args =>
    args.legacyToken = token ∧ args.kind = kind ∧ args.principalId = id
  | .rotateWorkspaceKey .. | .rotateToken .. | .upgradedLegacyCredential .. => True
  | .pushWorkspaceKey .. | .deleteInternalWorkspace _ => False

/-- Any number of these calls. -/
def upgrades : Regime lang Store Call where
  calls := Call.Upgrades kind id token
  permits _ _ _ := True
  crashes := True

/-- The principal holds the hash, or the token's record names it. -/
def Used (s : Store) (hash : Hash) : Prop :=
  s.principalHash kind id = some hash ∨
    ∃ r ∈ s.upgrades, r.legacyHash = C.sha256Hex token ∧ r.arHash = hash

/-- The record holds the credential of its hash, for the principal. -/
def Sealed (r : GraceRecord) : Prop :=
  r.kind = kind ∧ r.principalId = id ∧
    C.sha256Hex (C.unsealCredential r.sealedCredential token (C.sha256Hex token)) = r.arHash

/-- Tables that know no credential that is yet to be minted, and in which a record of the token was
left by an upgrade. -/
structure UpgradeInit (s : Store) : Prop where
  fresh : ∀ n, s.minted ≤ n →
    ¬ Used C kind id token s (C.sha256Hex (C.mintKey n)) ∧ C.mintKey n ≠ token
  isSealed : ∀ r ∈ s.upgrades, r.legacyHash = C.sha256Hex token → Sealed C kind id token r

/-- An upgrade has returned the credential. -/
def ReturnedCredential (g : Config lang Store Call.Result) (i : ℕ) (credential : Key) : Prop :=
  ∃ args res, g.threads[i]? = some ⟨.upgradeLegacyCredential args, some (.done (.ok res))⟩ ∧
    res.credential = credential

/-- What upgrades of the token promise. -/
structure UpgradeSound (g : Config lang Store Call.Result) : Prop where
  /-- They all return the same credential. -/
  same : ∀ i j credential credential', ReturnedCredential g i credential →
    ReturnedCredential g j credential' → credential = credential'
  /-- It was the principal's at some moment of the call. -/
  held : ∀ i credential, ReturnedCredential g i credential → ∃ e ∈ g.world.eventsOf i,
    e.after.principalHash kind id = some (C.sha256Hex credential)
  /-- The legacy credential has one record. -/
  one_record : ∀ r ∈ g.world.store.upgrades, ∀ r' ∈ g.world.store.upgrades,
    r.legacyHash = r'.legacyHash → r = r'
  /-- No upgrade changes the credential of the principal after a rotation. -/
  rotation_kept : ∀ e e', [e', e].Sublist g.world.trace → Rotated kind id e → Swapped e' →
    e'.after.principalHash kind id = e'.before.principalHash kind id
  /-- The legacy credential counts through the record only while this is unexpired and the
  principal holds its credential. -/
  authenticated : ∀ i kind' r, g.threads[i]? =
    some ⟨.upgradedLegacyCredential kind' (C.sha256Hex token), some (.done (some r))⟩ →
      ∃ e ∈ g.world.eventsOf i, r ∈ e.before.upgrades ∧ r.legacyHash = C.sha256Hex token ∧
        r.unexpired e.before.now = true ∧ e.before.principalHash kind id = some r.arHash

/-! ## The invariant -/

/-- What every statement keeps. -/
structure UpgradeInv (w : World lang Store) : Prop where
  /-- What was minted is counted. -/
  minted : ∀ e ∈ w.trace, ∀ credential, mintedBy e = some credential →
    ∃ n < w.store.minted, C.mintKey n = credential
  /-- Each credential was minted by one call. -/
  minter : ∀ e ∈ w.trace, ∀ e' ∈ w.trace, ∀ credential, mintedBy e = some credential →
    mintedBy e' = some credential → e.caller = e'.caller
  /-- What is yet to be minted is not in use. -/
  fresh : ∀ n, w.store.minted ≤ n →
    ¬ Used C kind id token w.store (C.sha256Hex (C.mintKey n)) ∧ C.mintKey n ≠ token
  /-- A minted credential is not the token, and it is in use only where its own call has put it. -/
  own : ∀ e ∈ w.trace, ∀ credential, mintedBy e = some credential → credential ≠ token ∧
    (Used C kind id token w.store (C.sha256Hex credential) → ∃ e' ∈ w.trace, e'.caller = e.caller ∧
      e'.stmt.writesHash = some (C.sha256Hex credential) ∧
        Used C kind id token e'.after (C.sha256Hex credential))
  isSealed : ∀ r ∈ w.store.upgrades, r.legacyHash = C.sha256Hex token → Sealed C kind id token r
  /-- A principal that holds the legacy credential despite its record has had the record all
  along. -/
  stale : w.store.principalHash kind id = some (C.sha256Hex token) →
    (∃ r ∈ w.store.upgrades, r.legacyHash = C.sha256Hex token) →
      ∀ e ∈ w.trace, ∃ r ∈ e.before.upgrades, r.legacyHash = C.sha256Hex token
  /-- Once rotated, the principal does not hold the legacy credential. -/
  rotated : ∀ e ∈ w.trace, Rotated kind id e →
    w.store.principalHash kind id ≠ some (C.sha256Hex token)
  kept : w.trace.Pairwise fun e' e => Rotated kind id e → Swapped e' →
    e'.after.principalHash kind id = e'.before.principalHash kind id

/-- What is never taken back: records, and that a recorded credential was given up. -/
structure UpgradeGrows (w w' : World lang Store) : Prop where
  records : ∀ r ∈ w.store.upgrades, r ∈ w'.store.upgrades
  given_up : ∀ r ∈ w.store.upgrades, r.legacyHash = C.sha256Hex token →
    w'.store.principalHash kind id = some r.arHash → w.store.principalHash kind id = some r.arHash

/-- Call `i` has minted the credential of this hash and has stored none yet. -/
def Fresh (w : World lang Store) (i : ℕ) (hash : Hash) : Prop :=
  (∃ e ∈ w.eventsOf i, ∃ credential, mintedBy e = some credential ∧
    C.sha256Hex credential = hash) ∧ ∀ e ∈ w.eventsOf i, e.stmt.writesHash = none

/-- What a call may issue: it stores what it has minted, and an upgrade is one of the token. -/
structure Allowed (w : World lang Store) (i : ℕ) (q : Stmt) : Prop where
  kept : q.rotatesOrUpgrades
  fresh : ∀ hash, q.writesHash = some hash → Fresh C w i hash
  upgrade : ∀ u, q = .swapAndRecord u → u.legacyHash = C.sha256Hex token ∧
    Sealed C kind id token u.record

end Statements

variable {C : Crypto} {kind : Kind} {id : PrincipalId} {token : Key}

lemma UpgradeGrows.refl (w : World lang Store) : UpgradeGrows C kind id token w w :=
  ⟨fun _ hr => hr, fun _ _ _ h => h⟩

lemma UpgradeGrows.trans {w₁ w₂ w₃ : World lang Store} (h : UpgradeGrows C kind id token w₁ w₂)
    (h' : UpgradeGrows C kind id token w₂ w₃) : UpgradeGrows C kind id token w₁ w₃ where
  records r hr := h'.records r (h.records r hr)
  given_up r hr hhash hheld := h.given_up r hr hhash (h'.given_up r (h.records r hr) hhash hheld)

/-- What the calls share. -/
def upgradeShared (C : Crypto) (kind : Kind) (id : PrincipalId) (token : Key) :
    Shared lang Store where
  inv := UpgradeInv C kind id token
  grows := UpgradeGrows C kind id token
  refl := .refl
  trans _ _ _ := .trans

/-! ## One statement -/

lemma run_minted (C : Crypto) (q : Stmt) (a : q.Answer) (s : Store) :
    (q = .issueCredential ∧ (run C q a s).2.minted = s.minted + 1) ∨
      (q ≠ .issueCredential ∧ (run C q a s).2.minted = s.minted) := by
  cases q with
  | issueCredential => exact .inl ⟨rfl, rfl⟩
  | swapAndRecord u =>
    refine .inr ⟨by simp, ?_⟩
    dsimp only [run, Store.swapAndRecord, Store.graceRecordAfterSwap, Store.swapPrincipalHash]
    split
    · rfl
    · split <;> split <;> rfl
  | createWorkspace =>
    refine .inr ⟨by simp, ?_⟩
    dsimp only [run, Store.createWorkspace]
    split_ifs <;> rfl
  | bumpGeneration | changeKey | changeKeyFenced =>
    refine .inr ⟨by simp, ?_⟩
    dsimp only [run, Store.bumpGeneration, Store.changeKey, Store.changeKeyFenced,
      Store.guardedUpdate]
    split_ifs <;> rfl
  | rotateKey | rotatePrincipal | deleteWorkspace =>
    refine .inr ⟨by simp, ?_⟩
    dsimp only [run, Store.rotateKey, Store.rotatePrincipal]
    split_ifs <;> rfl
  | _ => exact .inr ⟨by simp, rfl⟩

/-- What an event mints is the next credential. -/
lemma mintedBy_event {w : World lang Store} {i : ℕ} {q : Stmt} {a : q.Answer} {credential : Key}
    (h : mintedBy (w.event (machine C) i q a) = some credential) :
    q = .issueCredential ∧ C.mintKey w.store.minted = credential := by
  cases q with
  | issueCredential => exact ⟨rfl, Option.some.inj h⟩
  | _ => simp [mintedBy, World.event] at h

lemma Stmt.rotatesTo_writesHash {q : Stmt} {hash : Hash} (h : q.rotatesTo kind id = some hash) :
    q.writesHash = some hash := by
  cases q with
  | rotateKey id' hash' grace =>
    simp only [rotatesTo] at h
    split_ifs at h
    exact h
  | rotatePrincipal kind' id' hash' =>
    simp only [rotatesTo] at h
    split_ifs at h
    exact h
  | _ => simp [rotatesTo] at h

/-- What the principal holds after a statement. -/
lemma principalHash_run {q : Stmt} (hq : q.rotatesOrUpgrades) (a : q.Answer) (s : Store) :
    (run C q a s).2.principalHash kind id = s.principalHash kind id ∨
      ∃ hash, q.writesHash = some hash ∧ (run C q a s).2.principalHash kind id = some hash := by
  have hstep := run_principalHash C hq a s kind id
  generalize (run C q a s).2.principalHash kind id = after? at hstep ⊢
  cases hstep with
  | same => exact .inl rfl
  | rotated hash hto => exact .inr ⟨hash, Stmt.rotatesTo_writesHash hto, rfl⟩
  | swapped u hu => exact .inr ⟨u.arHash, by rw [hu, Stmt.writesHash], rfl⟩

/-- A hash comes into use only where it is written. -/
lemma Used.run {q : Stmt} (hq : q.rotatesOrUpgrades) {a : q.Answer} {s : Store} {hash : Hash}
    (h : Used C kind id token (Credential.run C q a s).2 hash) :
    Used C kind id token s hash ∨ q.writesHash = some hash := by
  rcases h with hheld | ⟨r, hr, hlegacy, har⟩
  · rcases principalHash_run hq a s with hsame | ⟨hash', hwrites, hnew⟩
    · exact .inl (.inl (hsame ▸ hheld))
    · obtain rfl : hash' = hash := Option.some.inj (hnew.symm.trans hheld)
      exact .inr hwrites
  · rcases run_upgrades C q a s hr with hold | ⟨u, rfl, rfl, -, -⟩
    · exact .inl (.inr ⟨r, hold, hlegacy, har⟩)
    · exact .inr (congrArg some har)

section Step

variable (hsha : Function.Injective C.sha256Hex) (hmint : Function.Injective C.mintKey)

include hsha in
/-- What a call has minted and not stored is nowhere. -/
lemma Fresh.spec {w : World lang Store} (hw : UpgradeInv C kind id token w) {i : ℕ} {hash : Hash}
    (h : Fresh C w i hash) :
    hash ≠ C.sha256Hex token ∧ ¬ Used C kind id token w.store hash := by
  obtain ⟨⟨e, he, credential, hminted, rfl⟩, hstored⟩ := h
  obtain ⟨hmem, rfl⟩ := World.mem_eventsOf.mp he
  obtain ⟨hne, hown⟩ := hw.own e hmem credential hminted
  refine ⟨fun heq => hne (hsha heq), fun hused => ?_⟩
  obtain ⟨e', he', hcaller, hwrites, -⟩ := hown hused
  have hnone := hstored e' (World.mem_eventsOf.mpr ⟨he', hcaller⟩)
  rw [hwrites] at hnone
  simp at hnone

variable {w : World lang Store} (hw : UpgradeInv C kind id token w) {i : ℕ} {q : Stmt}
  (hq : Allowed C kind id token w i q) (a : q.Answer)

include hsha hw hq

/-- An allowed statement does not bring the legacy credential back. -/
lemma principalHash_run_legacy
    (h : (run C q a w.store).2.principalHash kind id = some (C.sha256Hex token)) :
    (run C q a w.store).2.principalHash kind id = w.store.principalHash kind id := by
  rcases principalHash_run hq.kept a w.store with hsame | ⟨hash, hwrites, hnew⟩
  · exact hsame
  · have hne := (Fresh.spec hsha hw (hq.fresh hash hwrites)).1
    exact absurd (Option.some.inj (hnew.symm.trans h)) hne

omit hsha hw in
/-- Where a committed rotation came before, the batch of an upgrade changes nothing. -/
lemma principalHash_run_swapped (hlegacy : w.store.principalHash kind id ≠ some (C.sha256Hex token))
    (hswap : Swapped (w.event (machine C) i q a)) :
    (run C q a w.store).2.principalHash kind id = w.store.principalHash kind id := by
  obtain ⟨u, hu⟩ := hswap
  have hu : q = .swapAndRecord u := hu
  have hstep := run_principalHash C hq.kept a w.store kind id
  generalize (run C q a w.store).2.principalHash kind id = after? at hstep ⊢
  cases hstep with
  | same => rfl
  | rotated hash hto => simp [hu, Stmt.rotatesTo] at hto
  | swapped u' hu' _ _ hhash =>
    rw [(hq.upgrade u' hu').1] at hhash
    exact absurd hhash hlegacy

/-- **One statement grows what is shared.** -/
lemma upgradeGrows_after : UpgradeGrows C kind id token w (w.after (machine C) i q a) where
  records r hr := mem_upgrades_run C hq.kept a hr
  given_up r hr hhash hheld := by
    rcases principalHash_run hq.kept a w.store with hsame | ⟨hash, hwrites, hnew⟩
    · exact hsame.symm.trans hheld
    · obtain rfl : hash = r.arHash := Option.some.inj (hnew.symm.trans hheld)
      have hunused := (Fresh.spec hsha hw (hq.fresh _ hwrites)).2
      exact absurd (.inr ⟨r, hr, hhash, rfl⟩) hunused

include hmint in
/-- **One statement keeps the invariant.** -/
lemma upgradeInv_after : UpgradeInv C kind id token (w.after (machine C) i q a) := by
  have hle : w.store.minted ≤ (run C q a w.store).2.minted := by
    rcases run_minted C q a w.store with ⟨-, h⟩ | ⟨-, h⟩ <;> omega
  have hnew : ∀ credential, mintedBy (w.event (machine C) i q a) = some credential →
      q = .issueCredential ∧ C.mintKey w.store.minted = credential := fun _ => mintedBy_event
  refine ⟨fun e he credential hminted => ?_, fun e he e' he' credential hminted hminted' => ?_,
    fun n hn => ⟨fun hused => ?_, (hw.fresh n (hle.trans hn)).2⟩,
    fun e he credential hminted => ?_, fun r hr hhash => ?_, fun hheld hrecord e he => ?_,
    fun e he hrotated hheld => ?_, List.pairwise_cons.mpr ⟨fun e he hrotated hswap => ?_, hw.kept⟩⟩
  · -- minted
    rcases List.mem_cons.mp he with rfl | he
    · obtain ⟨rfl, rfl⟩ := hnew credential hminted
      exact ⟨w.store.minted, Nat.lt_succ_self _, rfl⟩
    · obtain ⟨n, hn, hkey⟩ := hw.minted e he credential hminted
      exact ⟨n, lt_of_lt_of_le hn hle, hkey⟩
  · -- minter
    have hfresh : ∀ e ∈ w.trace, mintedBy e = some credential →
        mintedBy (w.event (machine C) i q a) ≠ some credential := by
      intro e he hold hlatest
      obtain ⟨n, hn, hkey⟩ := hw.minted e he credential hold
      obtain ⟨-, hkey'⟩ := hnew credential hlatest
      have heq := hmint (hkey.trans hkey'.symm)
      omega
    rcases List.mem_cons.mp he with rfl | he <;> rcases List.mem_cons.mp he' with rfl | he'
    · rfl
    · exact absurd hminted (hfresh e' he' hminted')
    · exact absurd hminted' (hfresh e he hminted)
    · exact hw.minter e he e' he' credential hminted hminted'
  · -- fresh
    rcases hused.run hq.kept with hused | hwrites
    · exact (hw.fresh n (hle.trans hn)).1 hused
    · obtain ⟨⟨e, he, credential, hminted, hhash⟩, -⟩ := hq.fresh _ hwrites
      obtain ⟨m, hm, hkey⟩ := hw.minted e (World.mem_eventsOf.mp he).1 credential hminted
      have heq := hmint (hkey.trans (hsha hhash))
      have hlt : m < (run C q a w.store).2.minted := lt_of_lt_of_le hm hle
      have hn : (run C q a w.store).2.minted ≤ n := hn
      omega
  · -- own
    rcases List.mem_cons.mp he with rfl | hearlier
    · obtain ⟨rfl, rfl⟩ := hnew credential hminted
      obtain ⟨hunused, hne⟩ := hw.fresh _ le_rfl
      refine ⟨hne, fun hused => absurd ?_ hunused⟩
      exact (Used.run hq.kept (a := a) hused).resolve_right (by simp [Stmt.writesHash])
    · obtain ⟨hne, hown⟩ := hw.own e hearlier credential hminted
      refine ⟨hne, fun hused => ?_⟩
      rcases hused.run hq.kept with hold | hwrites
      · obtain ⟨e', he', hrest⟩ := hown hold
        exact ⟨e', List.mem_cons_of_mem _ he', hrest⟩
      · obtain ⟨⟨e', he', credential', hminted', hhash⟩, -⟩ := hq.fresh _ hwrites
        obtain ⟨hmem', rfl⟩ := World.mem_eventsOf.mp he'
        obtain rfl := hsha hhash
        exact ⟨_, List.mem_cons_self, hw.minter e' hmem' e hearlier credential' hminted' hminted,
          hwrites, hused⟩
  · -- isSealed
    rcases run_upgrades C q a w.store hr with hold | ⟨u, hu, rfl, -, -⟩
    · exact hw.isSealed r hold hhash
    · exact (hq.upgrade u hu).2
  · -- stale
    have hsame := principalHash_run_legacy hsha hw hq a hheld
    have hrecord : ∃ r ∈ w.store.upgrades, r.legacyHash = C.sha256Hex token := by
      obtain ⟨r, hr, hhash⟩ := hrecord
      rcases run_upgrades C q a w.store hr with hold | ⟨u, hu, rfl, hswapped, -⟩
      · exact ⟨r, hold, hhash⟩
      · obtain ⟨hukind, huid, -⟩ := (hq.upgrade u hu).2
        subst hu
        have hukind : u.kind = kind := hukind
        have huid : u.principalId = id := huid
        rw [hukind, huid] at hswapped
        have heq : u.arHash = C.sha256Hex token := Option.some.inj (hswapped.symm.trans hheld)
        exact absurd heq (Fresh.spec hsha hw (hq.fresh u.arHash rfl)).1
    rcases List.mem_cons.mp he with rfl | he
    · exact hrecord
    · exact hw.stale (hsame ▸ hheld) hrecord e he
  · -- rotated
    have hsame := principalHash_run_legacy hsha hw hq a hheld
    rcases List.mem_cons.mp he with rfl | he
    · obtain ⟨hash, hto, hafter⟩ := hrotated
      have hne := (Fresh.spec hsha hw (hq.fresh hash (Stmt.rotatesTo_writesHash hto))).1
      exact hne (Option.some.inj (hafter.symm.trans hheld))
    · exact hw.rotated e he hrotated (hsame ▸ hheld)
  · -- kept
    exact principalHash_run_swapped hq a (hw.rotated e he hrotated) hswap

end Step

/-! ## The calls -/

/-- Call `i` is safe among upgrades of the token. -/
abbrev UpgradeSafe (C : Crypto) (kind : Kind) (id : PrincipalId) (token : Key)
    (permits : World lang Store → ℕ → Stmt → Prop) (i : ℕ) {α : Type}
    (Q : α → World lang Store → Prop) (p : Prog lang α) (w : World lang Store) : Prop :=
  (upgradeShared C kind id token).Safe (machine C) permits i Q p w

/-- The call has stored no credential. -/
def NothingStored (w : World lang Store) (i : ℕ) : Prop :=
  ∀ e ∈ w.eventsOf i, e.stmt.writesHash = none

section Calls

variable {permits : World lang Store → ℕ → Stmt → Prop} {i : ℕ} {α : Type}
  {Q : α → World lang Store → Prop} {w : World lang Store}

/-- A statement that stores nothing is allowed. -/
lemma Allowed.of_writesHash {q : Stmt} (hkept : q.rotatesOrUpgrades) (hq : q.writesHash = none) :
    Allowed C kind id token w i q where
  kept := hkept
  fresh hash hwrites := by simp [hq] at hwrites
  upgrade u hu := by simp [hu, Stmt.writesHash] at hq

lemma NothingStored.after {w' : World lang Store} (h : NothingStored w i)
    (hown : w'.eventsOf i = w.eventsOf i) {q : Stmt} (hq : q.writesHash = none) (a : q.Answer) :
    NothingStored (w'.after (machine C) i q a) i := by
  intro e he
  rw [World.eventsOf_after_self, hown] at he
  rcases List.mem_cons.mp he with rfl | he
  · exact hq
  · exact h e he

/-- The call has minted the credential. -/
def Minted (w : World lang Store) (i : ℕ) (credential : Key) : Prop :=
  ∃ e ∈ w.eventsOf i, mintedBy e = some credential

lemma Minted.after {w' : World lang Store} {credential : Key} (h : Minted w i credential)
    (hown : w'.eventsOf i = w.eventsOf i) (q : Stmt) (a : q.Answer) :
    Minted (w'.after (machine C) i q a) i credential := by
  obtain ⟨e, he, hminted⟩ := h
  refine ⟨e, ?_, hminted⟩
  rw [World.eventsOf_after_self, hown]
  exact List.mem_cons_of_mem _ he

lemma Minted.fresh {w' : World lang Store} {credential : Key} (h : Minted w i credential)
    (hstored : NothingStored w i) (hown : w'.eventsOf i = w.eventsOf i) :
    Fresh C w' i (C.sha256Hex credential) := by
  obtain ⟨e, he, hminted⟩ := h
  refine ⟨⟨e, hown ▸ he, credential, hminted, rfl⟩, fun e' he' => ?_⟩
  exact hstored e' (hown ▸ he')

/-- A minted credential may be stored by a rotation. -/
lemma Minted.allowed {w' : World lang Store} {credential : Key} (h : Minted w i credential)
    (hnothing : NothingStored w i) (hown : w'.eventsOf i = w.eventsOf i) {q : Stmt}
    (hkept : q.rotatesOrUpgrades) (hq : q.writesHash = some (C.sha256Hex credential))
    (hswap : ∀ u, q ≠ .swapAndRecord u) : Allowed C kind id token w' i q where
  kept := hkept
  fresh hash hwrites := by
    obtain rfl := Option.some.inj (hq.symm.trans hwrites)
    exact h.fresh hnothing hown
  upgrade u hu := absurd hu (hswap u)

/-- A record of the token, and when the principal held its credential during the call. -/
structure Claim (C : Crypto) (kind : Kind) (id : PrincipalId) (token : Key)
    (w : World lang Store) (i : ℕ) (r : GraceRecord) : Prop where
  mem : r ∈ w.store.upgrades
  legacy : r.legacyHash = C.sha256Hex token
  held : ∃ e ∈ w.eventsOf i, e.after.principalHash kind id = some r.arHash

/-- What an upgrade delivers: the credential of the token's record. -/
def Delivered (C : Crypto) (kind : Kind) (id : PrincipalId) (token : Key) (w : World lang Store)
    (i : ℕ) (credential : Key) : Prop :=
  ∃ r, Claim C kind id token w i r ∧ C.sha256Hex credential = r.arHash

/-- What an upgrade returns with. -/
def Delivers (C : Crypto) (kind : Kind) (id : PrincipalId) (token : Key) (i : ℕ) :
    UpgradeResult → World lang Store → Prop
  | .error _, _ => True
  | .ok res, w => Delivered C kind id token w i res.credential

/-- What looking for the claim finds. -/
def Found (C : Crypto) (kind : Kind) (id : PrincipalId) (token : Key) (i : ℕ) :
    Except CodedError (Option GraceRecord) → World lang Store → Prop
  | .error _, _ => True
  | .ok none, w =>
    ∃ e ∈ w.eventsOf i, ∀ r ∈ e.before.upgrades, r.legacyHash ≠ C.sha256Hex token
  | .ok (some r), w => Claim C kind id token w i r ∧ Sealed C kind id token r

variable (hsha : Function.Injective C.sha256Hex) (hmint : Function.Injective C.mintKey)

include hsha hmint

/-- The rule of a statement. -/
lemma UpgradeSafe.ask {q : Stmt} {f : q.Reply → Prog lang α}
    (h : ∀ w', w'.eventsOf i = w.eventsOf i → UpgradeGrows C kind id token w w' →
      UpgradeInv C kind id token w' → Allowed C kind id token w' i q ∧ ∀ a : q.Answer,
        UpgradeSafe C kind id token permits i Q (f (run C q a w'.store).1)
          (w'.after (machine C) i q a)) :
    UpgradeSafe C kind id token permits i Q (await q >>= f) w := by
  refine Shared.Safe.ask fun w' hown hgrows hI _ a => ?_
  obtain ⟨hq, hf⟩ := h w' hown hgrows hI
  refine ⟨⟨upgradeInv_after hsha hmint hI hq a, upgradeGrows_after hsha hI hq a⟩, fun r hr => ?_⟩
  subst hr
  exact hf a

/-- The rule of a statement that stores nothing. -/
lemma UpgradeSafe.read {q : Stmt} {f : q.Reply → Prog lang α} (hkept : q.rotatesOrUpgrades)
    (hq : q.writesHash = none)
    (h : ∀ w', w'.eventsOf i = w.eventsOf i → UpgradeGrows C kind id token w w' →
      UpgradeInv C kind id token w' → ∀ a : q.Answer,
        UpgradeSafe C kind id token permits i Q (f (run C q a w'.store).1)
          (w'.after (machine C) i q a)) :
    UpgradeSafe C kind id token permits i Q (await q >>= f) w :=
  .ask hsha hmint fun w' hown hgrows hI => ⟨.of_writesHash hkept hq, h w' hown hgrows hI⟩

/-- The rule of minting: a call that has stored nothing mints a credential and takes its digest. -/
lemma UpgradeSafe.mint {f : Key → Hash → Prog lang α} (hnothing : NothingStored w i)
    (h : ∀ credential w', Minted w' i credential → NothingStored w' i →
      (∀ e ∈ w.eventsOf i, e ∈ w'.eventsOf i) →
        UpgradeSafe C kind id token permits i Q (f credential (C.sha256Hex credential)) w') :
    UpgradeSafe C kind id token permits i Q (do
      let credential : Key ← await .issueCredential
      let hash : Hash ← await (.sha256Hex credential)
      f credential hash) w := by
  refine .read hsha hmint trivial rfl fun w₁ hown₁ _ _ a₁ => ?_
  have hown₁' := World.eventsOf_after_self (machine C) w₁ i .issueCredential a₁
  have hminted : Minted (w₁.after (machine C) i .issueCredential a₁) i
      (C.mintKey w₁.store.minted) := ⟨_, hown₁' ▸ List.mem_cons_self, rfl⟩
  have hnothing₁ := hnothing.after (C := C) hown₁ (q := .issueCredential) rfl a₁
  refine .read hsha hmint trivial rfl fun w₂ hown₂ _ _ a₂ => h _ _ (hminted.after hown₂ _ a₂)
    (hnothing₁.after hown₂ rfl a₂) fun e he => ?_
  rw [World.eventsOf_after_self, hown₂, hown₁', hown₁]
  exact List.mem_cons_of_mem _ (List.mem_cons_of_mem _ he)

/-- The rotation of a token stores what it has minted. -/
lemma rotateToken_safe (kind' : Kind) (id' : PrincipalId) (hnew : w.eventsOf i = []) :
    UpgradeSafe C kind id token permits i (fun _ _ => True) (rotateToken kind' id') w := by
  apply UpgradeSafe.mint hsha hmint (by simp [NothingStored, hnew])
  intro credential w₁ hminted hnothing _
  refine .ask hsha hmint fun w₂ hown _ _ => ⟨hminted.allowed hnothing hown trivial rfl (by simp),
    fun a => ?_⟩
  split <;> trivial

/-- So does the rotation of a workspace key. -/
lemma rotateWorkspaceKey_upgradeSafe (id' : WorkspaceId) (graceMs : Option Millis)
    (hnew : w.eventsOf i = []) :
    UpgradeSafe C kind id token permits i (fun _ _ => True) (rotateWorkspaceKey id' graceMs) w := by
  have hnothing : NothingStored w i := by simp [NothingStored, hnew]
  simp only [rotateWorkspaceKey]
  split
  · trivial
  · refine .read hsha hmint trivial rfl fun w₁ hown₁ _ _ a₁ => ?_
    split
    · trivial
    · apply UpgradeSafe.mint hsha hmint (hnothing.after hown₁ rfl a₁)
      intro credential w₂ hminted hnothing₂ _
      refine .ask hsha hmint fun w₃ hown₃ _ _ =>
        ⟨hminted.allowed hnothing₂ hown₃ trivial rfl (by simp), fun a => ?_⟩
      split <;> trivial

end Calls

section Upgrade

variable {permits : World lang Store → ℕ → Stmt → Prop} {i : ℕ} {w : World lang Store}
  {args : UpgradeArgs}
  (hsha : Function.Injective C.sha256Hex) (hmint : Function.Injective C.mintKey)

/-- The claim stands while others go on. -/
lemma Claim.grow {w' : World lang Store} {r : GraceRecord} (h : Claim C kind id token w i r)
    (hgrows : UpgradeGrows C kind id token w w')
    (hown : ∀ e ∈ w.eventsOf i, e ∈ w'.eventsOf i) : Claim C kind id token w' i r where
  mem := hgrows.records r h.mem
  legacy := h.legacy
  held := by
    obtain ⟨e, he, hheld⟩ := h.held
    exact ⟨e, hown e he, hheld⟩

/-- What a sealed record of the call opens to. -/
lemma delivers_opened {r : GraceRecord}
    (h : Claim C args.kind args.principalId args.legacyToken w i r)
    (hsealed : Sealed C args.kind args.principalId args.legacyToken r) :
    Delivers C args.kind args.principalId args.legacyToken i
      (args.opened C (C.sha256Hex args.legacyToken) r) w :=
  ⟨r, h, hsealed.2.2⟩

include hsha hmint

/-- Looking for the claim. -/
lemma claimed_safe : UpgradeSafe C args.kind args.principalId args.legacyToken permits i
    (fun result w' => Found C args.kind args.principalId args.legacyToken i result w' ∧
      (NothingStored w i → NothingStored w' i))
    (args.claimed (C.sha256Hex args.legacyToken)) w := by
  refine .read hsha hmint trivial rfl fun w₁ hown₁ _ hI₁ a₁ => ?_
  cases hrecord : w₁.store.record? (C.sha256Hex args.legacyToken) with
  | none =>
    simp only [run, hrecord]
    refine ⟨⟨_, World.event_mem_eventsOf .., fun r hr hhash => ?_⟩, fun h => h.after hown₁ rfl a₁⟩
    have hmiss := Store.record?_eq_some.mpr ⟨hr, hhash⟩
    rw [World.event_before, hrecord] at hmiss
    simp at hmiss
  | some r =>
    simp only [run, hrecord]
    obtain ⟨hr, hhash⟩ := Store.record?_eq_some.mp hrecord
    refine .read hsha hmint trivial rfl fun w₂ hown₂ hgrows hI₂ a₂ => ?_
    have hr₂ : r ∈ w₂.store.upgrades := hgrows.records r hr
    have hnothing : NothingStored w i → NothingStored (w₂.after (machine C) i
        (.principalHash args.kind args.principalId) a₂) i :=
      fun h => (h.after (C := C) hown₁ (q := .readRecord (C.sha256Hex args.legacyToken)) rfl
        a₁).after hown₂ rfl a₂
    split
    · next hcurrent =>
      have hlatest := World.event_mem_eventsOf (machine C) w₂ i
        (.principalHash args.kind args.principalId) a₂
      exact ⟨⟨⟨hr₂, hhash, _, hlatest, hcurrent⟩, hI₂.isSealed r hr₂ hhash⟩, hnothing⟩
    · exact ⟨trivial, hnothing⟩

/-- An upgrade that finds the claim. -/
lemma replayed_safe {r : GraceRecord}
    (h : Claim C args.kind args.principalId args.legacyToken w i r)
    (hsealed : Sealed C args.kind args.principalId args.legacyToken r) :
    UpgradeSafe C args.kind args.principalId args.legacyToken permits i
      (Delivers C args.kind args.principalId args.legacyToken i)
      (args.replay C (C.sha256Hex args.legacyToken) r) w := by
  refine .read hsha hmint trivial rfl fun w₁ hown hgrows _ a => ?_
  split
  · trivial
  · refine delivers_opened (h.grow ⟨hgrows.records, hgrows.given_up⟩ fun e he => ?_) hsealed
    rw [World.eventsOf_after_self, hown]
    exact List.mem_cons_of_mem _ he

/-- What is known after the batch of an upgrade: it has left a record with its hash, or it has
stored the hash nowhere. -/
def AfterBatch (C : Crypto) (kind : Kind) (id : PrincipalId) (token : Key) (w : World lang Store)
    (i : ℕ) (arHash : Hash) : Prop :=
  (∃ r ∈ w.store.upgrades, r.legacyHash = C.sha256Hex token ∧ r.arHash = arHash) ∨
    ∀ e ∈ w.eventsOf i, e.stmt.writesHash = some arHash → ¬ Used C kind id token e.after arHash

/-- An upgrade after its batch. -/
lemma settle_safe {credential : Key} (hminted : Minted w i credential)
    (h : AfterBatch C args.kind args.principalId args.legacyToken w i (C.sha256Hex credential))
    (expiresAt : Seconds) :
    UpgradeSafe C args.kind args.principalId args.legacyToken permits i
      (Delivers C args.kind args.principalId args.legacyToken i)
      (args.settle C (C.sha256Hex args.legacyToken) credential (C.sha256Hex credential) expiresAt)
      w := by
  refine .read hsha hmint trivial rfl fun w₁ hown hgrows hI a => ?_
  split
  · next hcurrent =>
    have hlatest := World.event_mem_eventsOf (machine C) w₁ i
      (.principalHash args.kind args.principalId) a
    rcases h with ⟨r, hr, hhash, har⟩ | hunused
    · exact ⟨r, ⟨hgrows.records r hr, hhash, _, hlatest, har ▸ hcurrent⟩, har.symm⟩
    · -- The principal holds a hash that nobody has stored.
      obtain ⟨e, he, hmint'⟩ := hminted
      obtain ⟨hmem, rfl⟩ := World.mem_eventsOf.mp (hown ▸ he)
      obtain ⟨e', he', hcaller, hwrites, hused⟩ :=
        (hI.own e hmem credential hmint').2 (.inl hcurrent)
      have hmem' : e' ∈ w.eventsOf e.caller := hown ▸ World.mem_eventsOf.mpr ⟨he', hcaller⟩
      exact absurd hused (hunused e' hmem' hwrites)
  · refine Shared.Safe.then (claimed_safe hsha hmint) fun result w₂ hfound => ?_
    obtain ⟨hfound, -⟩ := hfound
    cases result with
    | error e => trivial
    | ok found =>
      cases found with
      | none => trivial
      | some winner => exact delivers_opened hfound.1 hfound.2

omit hmint in
/-- What the batch of an upgrade leaves. -/
lemma afterBatch {u : Upgrade} (hw : UpgradeInv C kind id token w)
    (hq : Allowed C kind id token w i (.swapAndRecord u)) (hkind : u.kind = kind)
    (hid : u.principalId = id)
    (hnone : ∃ e ∈ w.eventsOf i, ∀ r ∈ e.before.upgrades, r.legacyHash ≠ C.sha256Hex token)
    (a : (Stmt.swapAndRecord u).Answer)
    (hstored : (run C (.swapAndRecord u) a w.store).1 = true) :
    AfterBatch C kind id token (w.after (machine C) i (.swapAndRecord u) a) i u.arHash := by
  obtain ⟨hlegacy, -⟩ := hq.upgrade u rfl
  obtain ⟨-, hunused⟩ := Fresh.spec hsha hw (hq.fresh u.arHash rfl)
  by_cases hheld : w.store.principalHash kind id = some (C.sha256Hex token)
  · -- The legacy credential is still there, so there is no record yet.
    refine .inl ⟨u.record, Store.mem_upgrades_swapAndRecord ?_ (fun r hr hhash => ?_) hstored,
      hlegacy, rfl⟩
    · rw [hkind, hid, hheld, hlegacy]
    · obtain ⟨e, he, hmiss⟩ := hnone
      obtain ⟨r', hr', hhash'⟩ := hw.stale hheld ⟨r, hr, hhash.trans hlegacy⟩ e
        (World.mem_eventsOf.mp he).1
      exact hmiss r' hr' hhash'
  · -- Nothing to swap, so the new hash is stored nowhere.
    have hsame := principalHash_run_swapped hq a hheld ⟨u, rfl⟩
    refine .inr fun e he hwrites hused => ?_
    rw [World.eventsOf_after_self] at he
    rcases List.mem_cons.mp he with rfl | he
    · rcases hused with hnew | ⟨r, hr, hhash, har⟩
      · exact hunused (.inl (hsame.symm.trans hnew))
      · rcases run_upgrades C _ a w.store hr with hold | ⟨u', hu', rfl, hnew, -⟩
        · exact hunused (.inr ⟨r, hold, hhash, har⟩)
        · obtain rfl : u = u' := Stmt.swapAndRecord.inj hu'
          rw [hkind, hid] at hnew
          exact hunused (.inl (hsame.symm.trans hnew))
    · have hnothing := (hq.fresh u.arHash rfl).2 e he
      rw [hwrites] at hnothing
      simp at hnothing

variable (hseal : ∀ iv credential token hash,
  C.unsealCredential (C.sealCredential iv credential token hash) token hash = credential)

include hseal

/-- An upgrade that has found no claim. -/
lemma swap_safe (hnothing : NothingStored w i)
    (hnone : ∃ e ∈ w.eventsOf i, ∀ r ∈ e.before.upgrades,
      r.legacyHash ≠ C.sha256Hex args.legacyToken) :
    UpgradeSafe C args.kind args.principalId args.legacyToken permits i
      (Delivers C args.kind args.principalId args.legacyToken i)
      (args.swap C (C.sha256Hex args.legacyToken)) w := by
  apply UpgradeSafe.mint hsha hmint hnothing
  intro credential w₁ hminted hnothing₁ hown
  refine .read hsha hmint trivial rfl fun w₂ hown₂ _ _ iv => ?_
  have hminted₂ := hminted.after (C := C) hown₂
    (.sealCredential credential args.legacyToken (C.sha256Hex args.legacyToken)) iv
  have hnothing₂ := hnothing₁.after (C := C) hown₂
    (q := .sealCredential credential args.legacyToken (C.sha256Hex args.legacyToken)) rfl iv
  refine .read hsha hmint trivial rfl fun w₃ hown₃ _ _ a₃ => ?_
  have hminted₃ := hminted₂.after (C := C) hown₃ .dateNow a₃
  have hnothing₃ := hnothing₂.after (C := C) hown₃ (q := .dateNow) rfl a₃
  refine .ask hsha hmint fun w₄ hown₄ _ hI₄ => ?_
  have hallowed : Allowed C args.kind args.principalId args.legacyToken w₄ i
      (.swapAndRecord ⟨args.kind, args.principalId, args.workspaceId,
        C.sha256Hex args.legacyToken, C.sha256Hex credential,
        C.sealCredential iv credential args.legacyToken (C.sha256Hex args.legacyToken),
        toSeconds w₃.store.now + args.graceSeconds⟩) := by
    refine ⟨trivial, fun hash hwrites => ?_, fun u hu => ?_⟩
    · obtain rfl := Option.some.inj hwrites
      exact hminted₃.fresh hnothing₃ hown₄
    · obtain rfl := Stmt.swapAndRecord.inj hu
      exact ⟨rfl, rfl, rfl, congrArg C.sha256Hex (hseal _ _ _ _)⟩
  refine ⟨hallowed, fun a₄ => ?_⟩
  have hnone₄ : ∃ e ∈ w₄.eventsOf i, ∀ r ∈ e.before.upgrades,
      r.legacyHash ≠ C.sha256Hex args.legacyToken := by
    obtain ⟨e, he, hmiss⟩ := hnone
    refine ⟨e, ?_, hmiss⟩
    rw [hown₄, World.eventsOf_after_self, hown₃, World.eventsOf_after_self, hown₂]
    exact List.mem_cons_of_mem _ (List.mem_cons_of_mem _ (hown e he))
  split
  · next hstored =>
    exact settle_safe hsha hmint (hminted₃.after hown₄ _ a₄)
      (afterBatch hsha hI₄ hallowed rfl rfl hnone₄ a₄ hstored) _
  · trivial

/-- **A whole upgrade** delivers the credential of the record. -/
lemma upgradeLegacyCredential_safe (hnew : w.eventsOf i = []) :
    UpgradeSafe C args.kind args.principalId args.legacyToken permits i
      (Delivers C args.kind args.principalId args.legacyToken i)
      (upgradeLegacyCredential C args) w := by
  have hnothing : NothingStored w i := by simp [NothingStored, hnew]
  unfold upgradeLegacyCredential
  split
  · refine .read hsha hmint trivial rfl fun w₁ hown₁ _ _ a₁ => ?_
    have hnothing₁ := hnothing.after (C := C) hown₁ (q := .sha256Hex args.legacyToken) rfl a₁
    refine Shared.Safe.then (claimed_safe hsha hmint) fun result w₂ hfound => ?_
    obtain ⟨hfound, hnothing₂⟩ := hfound
    cases result with
    | error e => trivial
    | ok found =>
      cases found with
      | some existing => exact replayed_safe hsha hmint hfound.1 hfound.2
      | none =>
        dsimp only
        split
        · exact swap_safe hsha hmint hseal (hnothing₂ hnothing₁) hfound
        · trivial
  · trivial

end Upgrade

section Runs

variable {permits : World lang Store → ℕ → Stmt → Prop} {i : ℕ} {w : World lang Store}
  (hsha : Function.Injective C.sha256Hex) (hmint : Function.Injective C.mintKey)
  (hseal : ∀ iv credential token hash,
    C.unsealCredential (C.sealCredential iv credential token hash) token hash = credential)

/-- What the use of an upgraded credential returns with: a moment of the call at which the record
was unexpired and the principal held its credential. -/
def Authenticated (C : Crypto) (kind : Kind) (id : PrincipalId) (token : Key)
    (w : World lang Store) (i : ℕ) (r : GraceRecord) : Prop :=
  ∃ e ∈ w.eventsOf i, r ∈ e.before.upgrades ∧ r.legacyHash = C.sha256Hex token ∧
    r.unexpired e.before.now = true ∧ e.before.principalHash kind id = some r.arHash

include hsha hmint

/-- The use of an upgraded credential. -/
lemma upgradedLegacyCredential_safe (kind' : Kind) :
    UpgradeSafe C kind id token permits i
      (fun result w => ∀ r, result = some r → Authenticated C kind id token w i r)
      (upgradedLegacyCredential kind' (C.sha256Hex token)) w := by
  refine .read hsha hmint trivial rfl fun w₁ _ _ hI₁ a₁ => ?_
  split
  · exact fun r hr => by simp at hr
  · rename_i r hread
    obtain ⟨hrecord, hlive⟩ := Option.filter_eq_some_iff.mp hread
    obtain ⟨hr, hhash⟩ := Store.record?_eq_some.mp hrecord
    obtain ⟨hkind', hunexpired⟩ : r.kind = kind' ∧ r.unexpired w₁.store.now = true := by
      simpa using hlive
    obtain ⟨hkind, hid, -⟩ := hI₁.isSealed r hr hhash
    refine .read hsha hmint trivial rfl fun w₂ hown₂ hgrows _ a₂ => ?_
    split
    · next hcurrent =>
      intro r' hr'
      obtain rfl := Option.some.inj hr'
      -- What the principal holds now, it has held when the record was read.
      have hnow : w₂.store.principalHash kind id = some r.arHash := by
        rw [← hkind, ← hid, hkind']
        exact hcurrent
      refine ⟨w₁.event (machine C) i (.readLiveRecord kind' (C.sha256Hex token)) a₁, ?_, hr, hhash,
        hunexpired, hgrows.given_up r hr hhash hnow⟩
      rw [World.eventsOf_after_self, hown₂]
      exact List.mem_cons_of_mem _ (World.event_mem_eventsOf ..)
    · exact fun r hr => by simp at hr

/-- What a call returns with. -/
def UpgradeReturns (C : Crypto) (kind : Kind) (id : PrincipalId) (token : Key) (i : ℕ)
    (w : World lang Store) : (c : Call) → c.Result → Prop
  | .upgradeLegacyCredential _, result => Delivers C kind id token i result w
  | .upgradedLegacyCredential _ hash, (result : Option GraceRecord) =>
    hash = C.sha256Hex token → ∀ r, result = some r → Authenticated C kind id token w i r
  | _, _ => True

include hseal

/-- Every call is safe when it is made. -/
lemma upgradeBody_safe (c : Call) (hc : c.Upgrades kind id token) (hnew : w.eventsOf i = []) :
    UpgradeSafe C kind id token permits i (fun result w => UpgradeReturns C kind id token i w c result)
      (c.body C) w := by
  cases c with
  | pushWorkspaceKey | deleteInternalWorkspace => exact hc.elim
  | rotateWorkspaceKey id' graceMs => exact rotateWorkspaceKey_upgradeSafe hsha hmint id' graceMs hnew
  | rotateToken kind' id' => exact rotateToken_safe hsha hmint kind' id' hnew
  | upgradeLegacyCredential args =>
    obtain ⟨rfl, rfl, rfl⟩ := hc
    exact upgradeLegacyCredential_safe hsha hmint hseal hnew
  | upgradedLegacyCredential kind' hash =>
    by_cases hhash : hash = C.sha256Hex token
    · subst hhash
      exact (upgradedLegacyCredential_safe hsha hmint kind').weaken fun result w h _ => h
    · have hreads : (upgradedLegacyCredential kind' hash).Issues Stmt.reads :=
        body_issues C (.upgradedLegacyCredential kind' hash)
      refine (Shared.Safe.of_issues hreads (fun w q hq hI _ a => ?_) w).weaken
        fun _ _ _ h => absurd h hhash
      have hallowed : Allowed C kind id token w i q := by
        cases q <;> first | exact .of_writesHash trivial rfl | exact hq.elim
      exact ⟨upgradeInv_after hsha hmint hI hallowed a, upgradeGrows_after hsha hI hallowed a⟩

end Runs

/-! ## Every run -/

/-- The invariant at the start of a run. -/
lemma upgradeInv_init {s : Store} (h : UpgradeInit C kind id token s) :
    UpgradeInv C kind id token ⟨s, []⟩ :=
  ⟨by simp, by simp, h.fresh, by simp, h.isSealed, fun _ _ => by simp, by simp, .nil⟩

lemma upgradeInv_drift {w : World lang Store} (h : UpgradeInv C kind id token w) (d : Millis) :
    UpgradeInv C kind id token (w.drift (machine C) d) :=
  ⟨h.minted, h.minter, h.fresh, h.own, h.isSealed, h.stale, h.rotated, h.kept⟩

/-- **The upgrade of a legacy credential.**  However upgrades of one token interleave with rotations
and with each other, those that return give one credential, which the principal held during each
call; the token has at most one record, which is never overwritten; no upgrade changes the
credential after a rotation; and the token counts through its record only while that is unexpired
and the principal holds its credential. -/
theorem upgradeSound (C : Crypto) (kind : Kind) (id : PrincipalId) (token : Key)
    (hsha : Function.Injective C.sha256Hex) (hmint : Function.Injective C.mintKey)
    (hseal : ∀ iv credential token hash,
      C.unsealCredential (C.sealCredential iv credential token hash) token hash = credential)
    {g : Config lang Store Call.Result}
    (h : (service C (UpgradeInit C kind id token)).Reachable (upgrades kind id token) g) :
    UpgradeSound C kind id token g ∧
      ∀ g', Relation.ReflTransGen
        ((service C (UpgradeInit C kind id token)).Step (upgrades kind id token)) g g' →
          ∀ r ∈ g.world.store.upgrades, r ∈ g'.world.store.upgrades := by
  obtain ⟨hI, hreturned⟩ := Shared.sound (S := service C (UpgradeInit C kind id token))
    (H := upgradeShared C kind id token)
    (Q := fun c i result w => UpgradeReturns C kind id token i w c result)
    (fun s hs => upgradeInv_init hs) (fun d w hw => upgradeInv_drift hw d)
    (fun d w => ⟨fun _ hr => hr, fun _ _ _ hheld => hheld⟩)
    (fun c hc i w hnew _ => upgradeBody_safe hsha hmint hseal c hc hnew) h
  have hI : UpgradeInv C kind id token g.world := hI
  have hdelivered : ∀ i credential, ReturnedCredential g i credential →
      Delivered C kind id token g.world i credential := by
    rintro i credential ⟨args, res, hi, rfl⟩
    obtain ⟨w₀, hown, hgrows, r, hclaim, hhash⟩ := hreturned i (.upgradeLegacyCredential args)
      (.ok res) hi
    exact ⟨r, hclaim.grow hgrows fun e he => hown ▸ he, hhash⟩
  have hone : ∀ r ∈ g.world.store.upgrades, ∀ r' ∈ g.world.store.upgrades,
      r.legacyHash = r'.legacyHash → r = r' :=
    fun r hr r' hr' hsame => Table.eq_of_clash hr hr' (by simp [clash, key, hsame])
  refine ⟨⟨fun i j credential credential' hi hj => ?_, fun i credential hi => ?_, hone,
    fun e e' hsub hrotated hswapped => ?_, fun i kind' r hi => ?_⟩, fun g' hrun r hr => ?_⟩
  · obtain ⟨r, hclaim, hhash⟩ := hdelivered i credential hi
    obtain ⟨r', hclaim', hhash'⟩ := hdelivered j credential' hj
    have hsame := hone r hclaim.mem r' hclaim'.mem (hclaim.legacy.trans hclaim'.legacy.symm)
    exact hsha (hhash.trans (hsame ▸ hhash'.symm))
  · obtain ⟨r, hclaim, hhash⟩ := hdelivered i credential hi
    exact hhash ▸ hclaim.held
  · have hpair := hI.kept.sublist hsub
    simp only [List.pairwise_cons, List.mem_singleton, forall_eq] at hpair
    exact hpair.1 hrotated hswapped
  · obtain ⟨w₀, hown, -, hauth⟩ := hreturned i
      (.upgradedLegacyCredential kind' (C.sha256Hex token)) (some r) hi
    rw [hown]
    exact hauth rfl r rfl
  · refine System.stable_of_statements (P := Stmt.rotatesOrUpgrades)
      (R := fun w w' => r ∈ w.store.upgrades → r ∈ w'.store.upgrades) (fun _ h => h)
      (fun _ _ _ h h' hr => h' (h hr)) (fun d w hr => hr) (fun c hc => ?_)
      (fun w i q hq _ a hr => mem_upgrades_run C hq a hr) h hrun hr
    have hc : c.Upgrades kind id token := hc
    refine (body_issues C c).mono fun q hq => ?_
    cases c with
    | pushWorkspaceKey | deleteInternalWorkspace => exact hc.elim
    | _ => cases q <;> trivial

/-- An agent with a legacy token. -/
def legacyAgent : Store :=
  { storeWith .empty with principals := Table.empty.insertOrIgnore ⟨.agent, "p", "w", some "k"⟩ }

lemma plainCrypto_mintKey_injective : Function.Injective plainCrypto.mintKey := by
  intro m n h
  have hlength := congrArg String.length h
  simpa [plainCrypto] using hlength

lemma upgradeInit_legacyAgent : UpgradeInit plainCrypto .agent "p" "k" legacyAgent where
  fresh n _ := by
    have hne : plainCrypto.mintKey n ≠ "k" := by
      intro h
      have hlength := congrArg String.length h
      simp only [plainCrypto, String.length_append] at hlength
      have hthree : ("ar_" : String).length = 3 := by decide
      have hone : ("k" : String).length = 1 := by decide
      omega
    have hheld : legacyAgent.principalHash .agent "p" = some "k" := by decide +kernel
    refine ⟨?_, hne⟩
    rintro (h | ⟨r, hr, -⟩)
    · exact hne (Option.some.inj (hheld.symm.trans h)).symm
    · exact absurd hr (Table.not_mem_empty r)
  isSealed r hr := absurd hr (Table.not_mem_empty r)

/-- The system of the example. -/
abbrev upgradeService := service plainCrypto (UpgradeInit plainCrypto .agent "p" "k")

/-- Two upgrades that both find no claim, and a rotation after them. -/
def racingUpgrades : List upgradeService.Move :=
  .start (.upgradeLegacyCredential ⟨"k", .agent, "p", "w", some "k", 1000, true⟩) ::
    .start (.upgradeLegacyCredential ⟨"k", .agent, "p", "w", some "k", 1000, true⟩) ::
    .start (.rotateToken .agent "p") ::
    [0, 1, 0, 1, 0, 1, 0, 1, 0, 1, 0, 1, 0, 1, 0, 1, 1, 1, 2, 2, 2].map fun i => .exec i deletes

theorem upgradeSound_racingUpgrades :
    UpgradeSound plainCrypto .agent "p" "k"
        (upgradeService.runFrom legacyAgent racingUpgrades) ∧
      ∀ g', Relation.ReflTransGen (upgradeService.Step (upgrades .agent "p" "k"))
        (upgradeService.runFrom legacyAgent racingUpgrades) g' →
          ∀ r ∈ (upgradeService.runFrom legacyAgent racingUpgrades).world.store.upgrades,
            r ∈ g'.world.store.upgrades := by
  apply upgradeSound plainCrypto .agent "p" "k" (fun _ _ h => h) plainCrypto_mintKey_injective
    (fun _ _ _ _ => rfl)
  apply System.runFrom_reachable_of _ _ upgradeInit_legacyAgent
  apply System.allowsAll_of_starts _ (fun _ _ _ => trivial) trivial
  intro c hc
  simp only [racingUpgrades, List.mem_cons, List.mem_map] at hc
  rcases hc with h | h | h | ⟨i, -, h⟩ <;> cases h <;> simp [upgrades, Call.Upgrades]

end Credential
