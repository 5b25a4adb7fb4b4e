import Relaycast.Credential.Fencing

/-!
# The generations of rotations

A rotation raises the generation of a workspace in its update, and tells its caller one more than
the generation it has read before.  The two agree as long as nobody writes the row between the read
and the update (`rotationsOrdered_of_unraced`); two rotations that read before either has written
return the same generation (`not_rotationsOrdered_twoRotations`), although the row has gone up
twice.

Every write that raises the generation of a row raises it over all that was stored before, so the
generations of such writes grow along the trace (`RaisesInv`).  What is left for a call is to show
that it returns the generation of its own write.
-/

namespace Credential

open Relational Interleaving

/-! ## What is claimed of rotations -/

/-- Call `i` has returned a key of `W` that it minted, with a generation. -/
def ReturnedKey (g : Config lang Store Call.Result) (W : WorkspaceId) (i : ℕ) (key : Key)
    (generation : ℕ) : Prop :=
  (∃ graceMs, g.threads[i]? =
    some ⟨.rotateWorkspaceKey W graceMs, some (.done (.ok ⟨key, generation⟩))⟩) ∨
  ∃ input r, g.threads[i]? = some ⟨.pushWorkspaceKey W input, some (.done (.ok r))⟩ ∧
    r.mintedApiKey = some key ∧ r.apiKeyGeneration = generation

/-- The generations that calls return with the keys they minted. -/
structure RotationsOrdered (C : Crypto) (W : WorkspaceId) (g : Config lang Store Call.Result) :
    Prop where
  /-- A generation is the stored one right after the call's own key was stored. -/
  own : ∀ i key generation, ReturnedKey g W i key generation →
    ∃ e ∈ g.world.eventsOf i, Installs W (C.sha256Hex key) generation e
  /-- No two calls return the same one. -/
  distinct : ∀ i j key key' generation, ReturnedKey g W i key generation →
    ReturnedKey g W j key' generation → i = j
  /-- The key with the larger one was stored later. -/
  ordered : ∀ i j key key' generation generation', ReturnedKey g W i key generation →
    ReturnedKey g W j key' generation' → generation < generation' →
      ∃ e ∈ g.world.eventsOf i, ∃ e' ∈ g.world.eventsOf j,
        Installs W (C.sha256Hex key) generation e ∧
          Installs W (C.sha256Hex key') generation' e' ∧ [e', e].Sublist g.world.trace

/-- The workspace is not deleted. -/
def Call.KeepsRow (W : WorkspaceId) (c : Call) : Prop := c ≠ .deleteInternalWorkspace W

/-- Any number of rotations of the key of `W` and of fenced pushes to it. -/
def rotations (W : WorkspaceId) : Regime lang Store Call where
  calls c := (∃ graceMs, c = .rotateWorkspaceKey W graceMs) ∨
    ∃ input, c = .pushWorkspaceKey W input ∧ (input.apiKey = none ∨ input.keyGeneration ≠ none)
  permits _ _ _ := True
  crashes := True

/-- What a reading of a row replied. -/
def readRow : Event lang Store → Option KeyRow
  | ⟨_, .readKeyRow _, _, (row : Option KeyRow), _, _⟩ => row
  | _ => none

/-- The update of a rotation finds the generation that the rotation has read. -/
def Unraced (W : WorkspaceId) (w : World lang Store) (i : ℕ) (q : Stmt) : Prop :=
  ∀ hash grace, q = .rotateKey W hash grace → ∀ e ∈ w.eventsOf i, ∀ read, readRow e = some read →
    ∃ row, w.store.workspace? W = some row ∧ row.apiKeyGeneration = read.apiKeyGeneration

/-- The runs in which no rotation of `W` is raced, of any calls but its deletion. -/
def unracedRotations (W : WorkspaceId) : Regime lang Store Call where
  calls := Call.KeepsRow W
  permits := Unraced W
  crashes := True

/-! ## Raising the generation -/

variable {C : Crypto} {W : WorkspaceId}

/-- The event raised the generation of the row to this one. -/
def Raises (W : WorkspaceId) (generation : ℕ) (e : Event lang Store) : Prop :=
  ∃ row row', e.before.workspace? W = some row ∧ e.after.workspace? W = some row' ∧
    row.apiKeyGeneration < generation ∧ row'.apiKeyGeneration = generation

lemma Installs.raises {hash : Hash} {generation : ℕ} {e : Event lang Store}
    (h : Installs W hash generation e) : Raises W generation e := by
  obtain ⟨row, row', hrow, hrow', hlt, -, hgen⟩ := h
  exact ⟨row, row', hrow, hrow', hlt, hgen⟩

lemma Raises.unique {generation generation' : ℕ} {e : Event lang Store}
    (h : Raises W generation e) (h' : Raises W generation' e) : generation = generation' := by
  obtain ⟨-, row, -, hrow, -, hgen⟩ := h
  obtain ⟨-, row', -, hrow', -, hgen'⟩ := h'
  obtain rfl := Option.some.inj (hrow.symm.trans hrow')
  exact hgen.symm.trans hgen'

/-- The generations of the writes grow along the trace, up to the stored one. -/
structure RaisesInv (W : WorkspaceId) (w : World lang Store) : Prop where
  bounded : ∀ e ∈ w.trace, ∀ generation, Raises W generation e →
    ∃ row, w.store.workspace? W = some row ∧ generation ≤ row.apiKeyGeneration
  ordered : w.trace.Pairwise fun e' e => ∀ generation generation', Raises W generation e →
    Raises W generation' e' → generation < generation'

/-- A statement other than the deletion keeps the row, and its generation from falling. -/
lemma generation_run {q : Stmt} (hq : q ≠ .deleteWorkspace W) (a : q.Answer) {s : Store}
    {row : Workspace} (hrow : s.workspace? W = some row) :
    ∃ row', (run C q a s).2.workspace? W = some row' ∧
      row.apiKeyGeneration ≤ row'.apiKeyGeneration := by
  have hstep := run_workspace? C q a s W
  generalize (run C q a s).2.workspace? W = after? at hstep ⊢
  cases hstep with
  | same => exact ⟨row, hrow, le_rfl⟩
  | created hash generation _ hnone => simp [hnone] at hrow
  | bumped hash generation _ hold _ hgen | changedFenced _ hash generation _ _ hold _ hgen =>
    obtain rfl := Option.some.inj (hrow.symm.trans hold)
    exact ⟨_, rfl, hgen.le⟩
  | changed oldHash hash _ hold =>
    obtain rfl := Option.some.inj (hrow.symm.trans hold)
    exact ⟨_, rfl, le_rfl⟩
  | rotated hash grace hold =>
    obtain rfl := Option.some.inj (hrow.symm.trans hold)
    exact ⟨_, rfl, Nat.le_succ _⟩
  | upgraded u _ _ hold =>
    obtain rfl := Option.some.inj (hrow.symm.trans hold)
    exact ⟨_, rfl, le_rfl⟩
  | deleted => exact absurd rfl hq

/-- **One statement.** -/
lemma raisesInv_after {w : World lang Store} (hw : RaisesInv W w) {q : Stmt}
    (hq : q ≠ .deleteWorkspace W) (i : ℕ) (a : q.Answer) :
    RaisesInv W (w.after (machine C) i q a) where
  bounded e he generation hraises := by
    rcases List.mem_cons.mp he with rfl | he
    · obtain ⟨-, row', -, hrow', -, hgen⟩ := hraises
      exact ⟨row', hrow', hgen.ge⟩
    · obtain ⟨row, hrow, hle⟩ := hw.bounded e he generation hraises
      obtain ⟨row', hrow', hle'⟩ := generation_run (C := C) hq a hrow
      exact ⟨row', hrow', hle.trans hle'⟩
  ordered := by
    refine List.pairwise_cons.mpr ⟨fun e he generation generation' hraises hraises' => ?_,
      hw.ordered⟩
    obtain ⟨row, hrow, hle⟩ := hw.bounded e he generation hraises
    obtain ⟨row', -, hrow', -, hlt, -⟩ := hraises'
    obtain rfl : row = row' := Option.some.inj (hrow.symm.trans hrow')
    exact lt_of_le_of_lt hle hlt

/-- The statements of calls that leave the row. -/
lemma Call.KeepsRow.issues {c : Call} (hc : c.KeepsRow W) {q : Stmt} (hq : c.mayIssue q) :
    q ≠ .deleteWorkspace W := by
  rintro rfl
  cases c with
  | deleteInternalWorkspace id =>
    have hid : W = id := by simpa [Call.mayIssue] using hq
    exact hc (hid ▸ rfl)
  | _ => exact hq.elim

/-! ## A rotation -/

/-- The update of a rotation. -/
lemma Store.rotateKey_stored {s : Store} {id : WorkspaceId} {hash : Hash} {grace : Millis}
    {row : Workspace} (hrow : s.workspace? id = some row)
    (hstored : (s.rotateKey id hash grace).1 = true) :
    ∃ row', (s.rotateKey id hash grace).2.workspace? id = some row' ∧ row'.apiKeyHash = hash ∧
      row'.apiKeyGeneration = row.apiKeyGeneration + 1 := by
  unfold rotateKey at hstored ⊢
  split_ifs at hstored ⊢
  rw [workspace?_update_self, hrow]
  exact ⟨_, rfl, rfl, rfl⟩

/-- What calls share while they rotate: the order of the raising writes. -/
abbrev raising (W : WorkspaceId) : Shared lang Store := .ofInv (RaisesInv W)

section Rotation

variable {i : ℕ} {w : World lang Store}

/-- The rule of a statement of a rotation. -/
lemma RaisingSafe.ask {q : Stmt} {α : Type} {Q : α → World lang Store → Prop}
    {f : q.Reply → Prog lang α} (hq : q ≠ .deleteWorkspace W)
    (h : ∀ w', w'.eventsOf i = w.eventsOf i → Unraced W w' i q → ∀ a : q.Answer,
      (raising W).Safe (machine C) (Unraced W) i Q (f (run C q a w'.store).1)
        (w'.after (machine C) i q a)) :
    (raising W).Safe (machine C) (Unraced W) i Q (await q >>= f) w := by
  refine Shared.Safe.ask fun w' hown _ hI hpermits a =>
    ⟨⟨raisesInv_after hI hq i a, trivial⟩, fun r hr => ?_⟩
  subst hr
  exact h w' hown hpermits a

/-- **A rotation** that is not raced returns the generation of its own write. -/
lemma rotateWorkspaceKey_safe (graceMs : Option Millis) :
    (raising W).Safe (machine C) (Unraced W) i
      (fun result w => ∀ r : RotateResult, result = .ok r →
        ∃ e ∈ w.eventsOf i, Installs W (C.sha256Hex r.apiKey) r.apiKeyGeneration e)
      (rotateWorkspaceKey W graceMs) w := by
  simp only [rotateWorkspaceKey]
  split
  · exact fun r hr => by simp at hr
  · refine RaisingSafe.ask (by simp) fun w₁ _ _ a₁ => ?_
    split
    · exact fun r hr => by simp at hr
    · rename_i existing hexisting
      refine RaisingSafe.ask (by simp) fun w₂ hown₂ _ a₂ =>
        RaisingSafe.ask (by simp) fun w₃ hown₃ _ a₃ =>
          RaisingSafe.ask (by simp) fun w₄ hown₄ hunraced a₄ => ?_
      -- The read is among the own events, so the update finds what it replied.
      have hread : w₁.event (machine C) i (.readKeyRow W) a₁ ∈ w₄.eventsOf i := by
        simp [hown₄, hown₃, hown₂, World.eventsOf_after_self]
      obtain ⟨row, hrow, hgen⟩ := hunraced _ _ rfl _ hread existing hexisting
      split
      · next hstored =>
        obtain ⟨row', hrow', hhash, hgen'⟩ := Store.rotateKey_stored hrow hstored
        intro r hr
        obtain rfl := Except.ok.inj hr
        have hlt : row.apiKeyGeneration < row'.apiKeyGeneration := by omega
        obtain ⟨e, he, hinstalls⟩ := exists_installs
          (World.eventsOf_after_self (machine C) w₄ i (.rotateKey W
            (C.sha256Hex (C.mintKey w₂.store.minted)) (graceMs.getD 60000)) a₄) hrow hrow' hlt
        refine ⟨e, he, ?_⟩
        rw [hhash, hgen', hgen] at hinstalls
        exact hinstalls
      · exact fun r hr => by simp at hr

end Rotation

/-! ## Every run -/

/-- What a call returns with. -/
def MintsOwn (C : Crypto) (W : WorkspaceId) (w : World lang Store) (i : ℕ) :
    (c : Call) → c.Result → Prop
  | .rotateWorkspaceKey id _, (result : Except CodedError RotateResult) =>
    id = W → ∀ r, result = .ok r →
      ∃ e ∈ w.eventsOf i, Installs W (C.sha256Hex r.apiKey) r.apiKeyGeneration e
  | _, _ => True

/-- What holds of the trace, and of every call that has returned. -/
lemma mintsOwn_of_unraced (C : Crypto) (init : Store → Prop) {g : Config lang Store Call.Result}
    (h : (service C init).Reachable (unracedRotations W) g) :
    RaisesInv W g.world ∧ ∀ i c a, g.threads[i]? = some ⟨c, some (.done a)⟩ →
      MintsOwn C W g.world i c a := by
  obtain ⟨hI, hreturned⟩ := Shared.sound (S := service C init) (H := raising W)
    (Q := fun c i result w => MintsOwn C W w i c result)
    (fun s _ => ⟨by simp, by simp⟩)
    (fun d w hw => ⟨hw.bounded, hw.ordered⟩) (fun _ _ => trivial)
    (fun c hc i w _ _ => by
      have hkeeps : c.KeepsRow W := hc
      -- Calls that do not rotate `W` only have to keep the order of the writes.
      have hany : (raising W).Safe (machine C) (Unraced W) i (fun _ _ => True) (c.body C) w :=
        Shared.Safe.of_issues (body_issues C c)
          (fun w q hq hI _ a => ⟨raisesInv_after hI (hkeeps.issues hq) i a, trivial⟩) w
      cases c with
      | rotateWorkspaceKey id graceMs =>
        by_cases hid : id = W
        · subst hid
          exact (rotateWorkspaceKey_safe graceMs).weaken fun result w hr _ => hr
        · exact hany.weaken fun _ _ _ h => absurd h hid
      | _ => exact hany) h
  refine ⟨hI, fun i c a hi => ?_⟩
  obtain ⟨w₀, hown, -, hq⟩ := hreturned i c a hi
  cases c with
  | rotateWorkspaceKey id graceMs =>
    intro hid r hr
    rw [hown]
    exact hq hid r hr
  | _ => trivial

/-- Of two raising writes, the one of the smaller generation was executed earlier. -/
lemma RaisesInv.sublist {w : World lang Store} (hw : RaisesInv W w) {e e' : Event lang Store}
    (he : e ∈ w.trace) (he' : e' ∈ w.trace) {generation generation' : ℕ}
    (h : Raises W generation e) (h' : Raises W generation' e') (hlt : generation < generation') :
    [e', e].Sublist w.trace := by
  rcases pair_sublist_or he he' with rfl | hsub | hsub
  · have heq := h.unique h'
    omega
  · have hafter := (hw.ordered.sublist hsub)
    simp only [List.pairwise_cons, List.mem_singleton, forall_eq] at hafter
    have hgt := hafter.1 _ _ h' h
    omega
  · exact hsub

/-- Writes that raise the row to one generation are one. -/
lemma RaisesInv.eq {w : World lang Store} (hw : RaisesInv W w) {e e' : Event lang Store}
    (he : e ∈ w.trace) (he' : e' ∈ w.trace) {generation : ℕ} (h : Raises W generation e)
    (h' : Raises W generation e') : e = e' := by
  rcases pair_sublist_or he he' with rfl | hsub | hsub
  · rfl
  all_goals
    have hafter := hw.ordered.sublist hsub
    simp only [List.pairwise_cons, List.mem_singleton, forall_eq] at hafter
  · exact absurd (hafter.1 _ _ h' h) (lt_irrefl _)
  · exact absurd (hafter.1 _ _ h h') (lt_irrefl _)

/-- **The generations of rotations.**  In every run in which the update of each rotation finds the
generation that the rotation has read, the generations that are returned with minted keys are those
under which the keys were stored; they are distinct, and the larger one belongs to the later key. -/
theorem rotationsOrdered_of_unraced (C : Crypto) (init : Store → Prop) (W : WorkspaceId)
    {g : Config lang Store Call.Result}
    (h : (service C init).Reachable (unracedRotations W) g) : RotationsOrdered C W g := by
  obtain ⟨hI, hrotations⟩ := mintsOwn_of_unraced C init h
  have hpushes := returns_of_reachable C init h
  have hown : ∀ i key generation, ReturnedKey g W i key generation →
      ∃ e ∈ g.world.eventsOf i, Installs W (C.sha256Hex key) generation e := by
    rintro i key generation (⟨graceMs, hi⟩ | ⟨input, r, hi, hmint, rfl⟩)
    · exact hrotations i (.rotateWorkspaceKey W graceMs) (.ok ⟨key, generation⟩) hi rfl _ rfl
    · have hanswered : Answered C W input (g.world.eventsOf i) (.ok r) :=
        hpushes i (.pushWorkspaceKey W input) (.ok r) hi
      exact hanswered.minted r key rfl hmint
  have hmem : ∀ i e, e ∈ g.world.eventsOf i → e ∈ g.world.trace ∧ e.caller = i :=
    fun _ _ => World.mem_eventsOf.mp
  refine ⟨hown, fun i j key key' generation hi hj => ?_,
    fun i j key key' generation generation' hi hj hlt => ?_⟩
  · obtain ⟨e, he, hinstalls⟩ := hown i key generation hi
    obtain ⟨e', he', hinstalls'⟩ := hown j key' generation hj
    have hsame := hI.eq (hmem i e he).1 (hmem j e' he').1 hinstalls.raises hinstalls'.raises
    rw [← (hmem i e he).2, hsame, (hmem j e' he').2]
  · obtain ⟨e, he, hinstalls⟩ := hown i key generation hi
    obtain ⟨e', he', hinstalls'⟩ := hown j key' generation' hj
    exact ⟨e, he, e', he', hinstalls, hinstalls',
      hI.sublist (hmem i e he).1 (hmem j e' he').1 hinstalls.raises hinstalls'.raises hlt⟩

/-- A workspace that was never rotated. -/
def unrotated : Store := storeWith (Table.empty.insertOrIgnore ⟨"w", "k", none, none, 0⟩)

/-- The schedule of two rotations, in the order in which they execute their statements. -/
def twoRotations (order : List ℕ) : List plainService.Move :=
  .start (.rotateWorkspaceKey "w" none) :: .start (.rotateWorkspaceKey "w" none) ::
    order.map fun i => .exec i deletes

/-- Does the update of a rotation find the generation it has read? -/
def findsGeneration (w : World lang Store) (i : ℕ) : Stmt → Bool
  | .rotateKey id .. => (w.eventsOf i).all fun e => (readRow e).all fun read =>
      (w.store.workspace? id).any fun row => row.apiKeyGeneration == read.apiKeyGeneration
  | _ => true

lemma unraced_of_findsGeneration {w : World lang Store} {i : ℕ} {q : Stmt}
    (h : findsGeneration w i q = true) : Unraced W w i q := by
  rintro hash grace rfl e he read hread
  have hall := List.all_eq_true.mp h e he
  rw [hread, Option.all_some, Option.any_eq_true] at hall
  obtain ⟨row, hrow, hgen⟩ := hall
  exact ⟨row, hrow, by simpa using hgen⟩

lemma twoRotations_calls {order : List ℕ} {P : Call → Prop}
    (h : P (.rotateWorkspaceKey "w" none)) (c : Call)
    (hc : System.Move.start c ∈ twoRotations order) : P c := by
  simp only [twoRotations, List.mem_cons, List.mem_map] at hc
  rcases hc with hc | hc | ⟨_, -, hc⟩ <;> cases hc <;> exact h

theorem rotationsOrdered_of_unraced_inTurn :
    RotationsOrdered plainCrypto "w"
      (plainService.runFrom unrotated (twoRotations [0, 0, 0, 0, 1, 1, 1, 1])) := by
  apply rotationsOrdered_of_unraced plainCrypto fun _ => True
  apply System.runFrom_reachable_of _ _ trivial
  apply System.allowsAll_of_passes _ (fun _ _ _ => unraced_of_findsGeneration)
    (twoRotations_calls (by simp [unracedRotations, Call.KeepsRow]))
  decide +kernel

/-- The workspace whose key a call has rotated, and what it has returned. -/
def returnedRotation (g : Config lang Store Call.Result) (i : ℕ) :
    Option (WorkspaceId × RotateResult) :=
  match g.threads[i]? with
  | some ⟨.rotateWorkspaceKey id _, some (.done (.ok r))⟩ => some (id, r)
  | _ => none

lemma returnedKey_of_returnedRotation {g : Config lang Store Call.Result} {i : ℕ}
    {r : RotateResult} (h : returnedRotation g i = some (W, r)) :
    ReturnedKey g W i r.apiKey r.apiKeyGeneration := by
  unfold returnedRotation at h
  split at h
  · next id graceMs r' hi =>
    obtain ⟨rfl, rfl⟩ : id = W ∧ r' = r := by simpa using h
    exact .inl ⟨graceMs, hi⟩
  · simp at h

/-- **Two rotations that read before either has written return the same generation.** -/
theorem not_rotationsOrdered_twoRotations :
    ¬ ∀ g : Config lang Store Call.Result, plainService.Reachable (rotations "w") g →
      RotationsOrdered plainCrypto "w" g := by
  intro h
  have hcalls : ∀ c, System.Move.start c ∈ twoRotations [0, 1, 0, 0, 0, 1, 1, 1] →
      (rotations "w").calls c := twoRotations_calls (.inl ⟨none, rfl⟩)
  have hordered := h _ (plainService.runFrom_reachable_of _ (s := unrotated) trivial
    (System.allowsAll_of_starts _ (fun _ _ _ => trivial) trivial hcalls _))
  have hfirst : returnedRotation (plainService.runFrom unrotated
      (twoRotations [0, 1, 0, 0, 0, 1, 1, 1])) 0 = some ("w", ⟨"ar_", 1⟩) := by decide +kernel
  have hsecond : returnedRotation (plainService.runFrom unrotated
      (twoRotations [0, 1, 0, 0, 0, 1, 1, 1])) 1 = some ("w", ⟨"ar_x", 1⟩) := by decide +kernel
  have hsame := hordered.distinct 0 1 _ _ 1 (returnedKey_of_returnedRotation hfirst)
    (returnedKey_of_returnedRotation hsecond)
  simp at hsame

end Credential
