import Relaycast.Idempotency.Replays

/-!
# What keeps an operation from being run twice

A request that reads a live record is answered from it, and does not run its operation
(`record_answers`).  A request that reads a live lock runs its operation only if the store fails it
(`lock_excludes`).  A lock outlives the requests only for a reason (`lock_left`).
-/

namespace Idempotency

open Script Relational Reactive

variable {T : Type} {strip : T → T} {now : Millis} {kv kv' : Kv T} {c c' : Call T}
  {action : Action T} {s s₁ s' : System T} {e : Event T} {es before after : List (Event T)} {i : ℕ}

/-! ## One request of many -/

/-- What a request keeps whatever it does, it keeps in every run. -/
theorem call_induction {P : Call T → Prop}
    (hacts : ∀ now kv c action kv' c', P c → Acts strip now kv c action kv' c' → P c')
    (hstart : ∃ c, s.calls[i]? = some c ∧ P c) (hrun : run (System.step strip) s es = some s') :
    ∃ c, s'.calls[i]? = some c ∧ P c := by
  refine run_induction (I := fun s : System T => ∃ c, s.calls[i]? = some c ∧ P c)
    (fun s e s' h hstep => ?_) hstart hrun
  obtain ⟨c, hc, hP⟩ := h
  cases e with
  | tick now =>
    obtain rfl := Option.some.inj hstep
    exact ⟨c, hc, hP⟩
  | arrive options =>
    obtain rfl := Option.some.inj hstep
    exact ⟨c, (List.getElem?_append_left (List.getElem?_eq_some_iff.mp hc).1).trans hc, hP⟩
  | act j action =>
    obtain ⟨d, kv', d', hd, hact, rfl⟩ := step_act hstep
    by_cases hij : j = i
    · subst hij
      obtain rfl := Option.some.inj (hc.symm.trans hd)
      exact ⟨d', List.getElem?_set_self (List.getElem?_eq_some_iff.mp hc).1,
        hacts _ _ _ _ _ _ hP hact⟩
    · exact ⟨c, (List.getElem?_set_ne hij).trans hc, hP⟩

/-! ## A record that is read -/

/-- The request has read the record, or was answered from it. -/
def Call.Answers (o : RunIdempotentOptions T) (record : StoredIdempotencyRecord T) (c : Call T) :
    Prop :=
  c.options = o ∧ c.ran = false ∧
    (c.phase = .reading (some (some (some record))) none ∨ c.phase = .done (o.replayOf record))

lemma Call.Answers.acts {o : RunIdempotentOptions T} {record : StoredIdempotencyRecord T}
    (h : c.Answers o record) (hacts : Acts strip now kv c action kv' c') : c'.Answers o record := by
  obtain ⟨rfl, hran, hreading | hdone⟩ := h
  · cases hacts with
    | getLock reply lock record' hphase hlock =>
      obtain ⟨rfl, -⟩ := Phase.reading.inj (hreading.symm.trans hphase)
      exact ⟨rfl, hran, .inr rfl⟩
    | getRecord reply lock record' hphase hrecord =>
      exact absurd (Phase.reading.inj (hreading.symm.trans hphase)).1 (by simp)
    | _ => simp_all
  · cases hacts <;> simp_all

/-- **A live record answers.** A request whose reading of the record is answered while a record is
live never runs its operation, and when it is done, it was answered from that record: with its
result, or with a conflict if the fingerprints are at odds. -/
theorem record_answers (hrun : run (System.step strip) .start before = some s₁)
    {record : StoredIdempotencyRecord T} (hlive : s₁.kv.getRecord s₁.clock = some record)
    (hread : run (System.step strip) s₁ (.act i (.getRecord .answered) :: after) = some s') :
    ∃ c, s'.calls[i]? = some c ∧ c.ran = false ∧
      ∀ outcome, c.phase = .done outcome → outcome = c.options.replayOf record := by
  obtain ⟨s₂, hstep, hrest⟩ := run_cons.mp hread
  obtain ⟨c, kv', c', hc, hacts, rfl⟩ := step_act hstep
  have hanswers : c'.Answers c.options record := by
    have hsound := sound_of_run hrun c (List.mem_of_getElem? hc)
    cases hacts with
    | getRecord reply lock read hphase hrecord =>
      have hran := (hsound.before (by rw [hphase]; rfl)).1
      rw [if_pos rfl, hlive] at hrecord
      subst hrecord
      cases lock with
      | none => exact ⟨rfl, hran, .inl rfl⟩
      | some lock => exact ⟨rfl, hran, .inr rfl⟩
  have hstart : ∃ d, (s₁.calls.set i c')[i]? = some d ∧ d.Answers c.options record :=
    ⟨c', List.getElem?_set_self (List.getElem?_eq_some_iff.mp hc).1, hanswers⟩
  obtain ⟨d, hd, hoptions, hran, hphase⟩ := call_induction (P := Call.Answers c.options record)
    (fun _ _ _ _ _ _ h hacts => h.acts hacts) hstart hrest
  refine ⟨d, hd, hran, fun outcome hdone => ?_⟩
  obtain hreading | hanswered := hphase
  · exact absurd (hreading.symm.trans hdone) (by simp)
  · rw [hoptions]
    exact Phase.done.inj (hdone.symm.trans hanswered)

/-- The second request never runs its operation. -/
theorem record_answers_retry : ∃ s₁ s c, run (System.step id) .start
      (firstEvents ++ [.arrive closedOptions, .act 1 .begin]) = some s₁ ∧
    run (System.step id) s₁ [.act 1 (.getRecord .answered), .act 1 (.getLock .answered)] = some s ∧
    s.calls[1]? = some c ∧ Call.ran c = false := by
  have hany : (run (System.step id) .start
      (firstEvents ++ [.arrive closedOptions, .act 1 .begin])).any (fun s₁ =>
        s₁.kv.getRecord s₁.clock == some ⟨201, "sent", some "f1", []⟩ &&
          (run (System.step id) s₁
            [.act 1 (.getRecord .answered), .act 1 (.getLock .answered)]).isSome) = true := by
    decide +kernel
  obtain ⟨s₁, hrun, hs⟩ := Option.any_eq_true _ _ |>.mp hany
  rw [Bool.and_eq_true, beq_iff_eq, Option.isSome_iff_exists] at hs
  obtain ⟨hlive, s, hread⟩ := hs
  obtain ⟨c, hc, hran, -⟩ := record_answers hrun hlive hread
  exact ⟨s₁, s, c, hrun, hread, hc, hran⟩

/-! ## A lock that is read -/

/-- The request has read a lock, and its operation has run only if the store has failed. -/
def Call.Excluded (c : Call T) : Prop :=
  (c.ran = true → c.failed = true) ∧
    match c.phase with
    | .reading none (some (some true)) | .contended | .operating false | .done _ => True
    | _ => False

lemma Call.Excluded.degrade : c.degrade.Excluded := by
  unfold Call.degrade
  dsimp only
  split_ifs
  · exact ⟨fun _ => rfl, trivial⟩
  · exact ⟨fun _ => rfl, trivial⟩

/-- Both have been read, and there was a lock. -/
lemma Call.Excluded.decide {record : Option (Option (StoredIdempotencyRecord T))}
    (h : c.ran = true → c.failed = true) : (c.decide record (some true)).Excluded := by
  rcases record with _ | _ | record
  · exact degrade
  · exact ⟨h, trivial⟩
  · exact ⟨h, trivial⟩

lemma Call.Excluded.acts (h : c.Excluded) (hacts : Acts strip now kv c action kv' c') :
    c'.Excluded := by
  obtain ⟨hfailed, hphase'⟩ := h
  cases hacts with
  | getRecord reply lock record hphase hrecord =>
    rcases lock with _ | _ | _ | _
    · simp [hphase] at hphase'
    · simp [hphase] at hphase'
    · simp [hphase] at hphase'
    · exact decide hfailed
  | getLock reply lock record hphase hlock => simp [hphase] at hphase'
  | again hphase record hrecord => exact ⟨hfailed, trivial⟩
  | inProgress hphase hrecord => exact ⟨hfailed, trivial⟩
  | degrade reply hphase hreply => exact degrade
  | answer data hphase => exact ⟨hfailed, trivial⟩
  | throw hphase => exact ⟨hfailed, trivial⟩
  | _ => simp_all

/-- **A live lock excludes.** A request whose reading of the lock is answered while a lock is live
runs its operation only if another operation of the store fails it, which it must be allowed to run
without. -/
theorem lock_excludes (hrun : run (System.step strip) .start before = some s₁)
    (hlive : s₁.kv.getLock s₁.clock = true)
    (hread : run (System.step strip) s₁ (.act i (.getLock .answered) :: after) = some s') :
    ∃ c, s'.calls[i]? = some c ∧ (c.ran = true →
      c.failed = true ∧ (c.options.keyed = true → c.options.failClosed = false)) := by
  obtain ⟨s₂, hstep, hrest⟩ := run_cons.mp hread
  obtain ⟨c, kv', c', hc, hacts, rfl⟩ := step_act hstep
  have hexcluded : c'.Excluded := by
    have hsound := sound_of_run hrun c (List.mem_of_getElem? hc)
    cases hacts with
    | getLock reply lock record hphase hlock =>
      have hran := (hsound.before (by rw [hphase]; rfl)).1
      have hfailed : c.ran = true → c.failed = true := fun h => absurd (hran.symm.trans h) (by simp)
      rw [if_pos rfl, hlive] at hlock
      subst hlock
      cases record with
      | none => exact ⟨hfailed, trivial⟩
      | some record => exact Call.Excluded.decide hfailed
  have hstart : ∃ d, (s₁.calls.set i c')[i]? = some d ∧ d.Excluded :=
    ⟨c', List.getElem?_set_self (List.getElem?_eq_some_iff.mp hc).1, hexcluded⟩
  obtain ⟨d, hd, hfailed, -⟩ := call_induction (P := Call.Excluded)
    (fun _ _ _ _ _ _ h hacts => h.acts hacts) hstart hrest
  refine ⟨d, hd, fun hran => ⟨hfailed hran, fun hkeyed => ?_⟩⟩
  have hsound := sound_of_run (run_append.mpr ⟨s₁, hrun, hread⟩) d (List.mem_of_getElem? hd)
  by_contra hclosed
  have hunfailed := (hsound.closed hran hkeyed (by simpa using hclosed)).2
  exact absurd ((hfailed hran).symm.trans hunfailed) (by simp)

/-- The second request arrives while the first is about to run its operation. -/
theorem lock_excludes_concurrent : ∃ s₁ s c, run (System.step id) .start
      [.arrive closedOptions, .act 0 .begin, .act 0 (.getLock .answered),
        .act 0 (.getRecord .answered), .act 0 (.proceed .answered), .arrive closedOptions,
        .act 1 .begin] = some s₁ ∧
    run (System.step id) s₁ [.act 1 (.getLock .answered), .act 1 (.getRecord .answered),
      .act 1 (.proceed .answered)] = some s ∧
    s.calls[1]? = some c ∧ (Call.ran c = true → c.failed = true) := by
  have hany : (run (System.step id) .start
      [.arrive closedOptions, .act 0 .begin, .act 0 (.getLock .answered),
        .act 0 (.getRecord .answered), .act 0 (.proceed .answered), .arrive closedOptions,
        .act 1 .begin]).any (fun s₁ => s₁.kv.getLock s₁.clock &&
          (run (System.step id) s₁ [.act 1 (.getLock .answered), .act 1 (.getRecord .answered),
            .act 1 (.proceed .answered)]).isSome) = true := by decide +kernel
  obtain ⟨s₁, hrun, hs⟩ := Option.any_eq_true _ _ |>.mp hany
  rw [Bool.and_eq_true, Option.isSome_iff_exists] at hs
  obtain ⟨hlive, s, hread⟩ := hs
  obtain ⟨c, hc, hran⟩ := lock_excludes hrun hlive hread
  exact ⟨s₁, s, c, hrun, hread, hc, fun h => (hran h).1⟩

/-! ## A lock that is left -/

/-- The request has written the lock and may delete it, or may have left it. -/
def Call.Holds (c : Call T) : Prop := c.phase.holds = true ∨ c.leaves = true

lemma Call.degrade_leaves : c.degrade.leaves = c.leaves := by
  unfold Call.degrade
  dsimp only
  split_ifs <;> rfl

lemma Call.settle_leaves {record : Option (Option (Option (StoredIdempotencyRecord T)))}
    {lock : Option (Option Bool)} : (c.settle record lock).leaves = c.leaves := by
  obtain ⟨-, h⟩ | ⟨r, -, h⟩ | h | ⟨-, -, h⟩ | ⟨-, -, h⟩ := settle_cases c record lock
  · exact h ▸ rfl
  · exact h ▸ rfl
  · exact h ▸ degrade_leaves
  · exact h ▸ rfl
  · exact h ▸ rfl

/-- What becomes of a lock when a request deletes it. -/
lemma lock_deleteLock {reply : Reply} (h : (kv.deleteLock reply).lock ≠ none) :
    reply = .refused ∧ kv.lock ≠ none := by
  unfold Kv.deleteLock at h
  split_ifs at h with hrefused
  · exact ⟨hrefused, h⟩
  · exact absurd rfl h

/-- If there is a lock, the request holds it, or it was there and the request still holds it if it
held it before. -/
lemma holds_of_acts (hacts : Acts strip now kv c action kv' c') (hlock : kv'.lock ≠ none) :
    c'.Holds ∨ (kv.lock ≠ none ∧ (c.Holds → c'.Holds)) := by
  have hkept : ∀ {c' : Call T}, kv'.lock = kv.lock → c.phase.holds = false →
      c'.leaves = c.leaves → c'.Holds ∨ (kv.lock ≠ none ∧ (c.Holds → c'.Holds)) := by
    intro c' hsame hphase hleaves
    refine .inr ⟨hsame ▸ hlock, fun h => .inr ?_⟩
    rw [hleaves]
    exact h.resolve_left (by simp [hphase])
  cases hacts with
  | refuse hphase outcome houtcome => exact hkept rfl (by rw [hphase]; rfl) rfl
  | unprotected hphase hopen => exact hkept rfl (by rw [hphase]; rfl) rfl
  | read hphase => exact hkept rfl (by rw [hphase]; rfl) rfl
  | getRecord reply lock record hphase hrecord =>
    exact hkept rfl (by rw [hphase]; rfl) Call.settle_leaves
  | getLock reply lock record hphase hlock =>
    exact hkept rfl (by rw [hphase]; rfl) Call.settle_leaves
  | again hphase record hrecord => exact hkept rfl (by rw [hphase]; rfl) rfl
  | inProgress hphase hrecord => exact hkept rfl (by rw [hphase]; rfl) rfl
  | degrade reply hphase hreply => exact hkept rfl (by rw [hphase]; rfl) Call.degrade_leaves
  | locked hphase => exact .inl (.inl rfl)
  | unlocked reply hphase hreply =>
    cases reply with
    | answered => exact absurd rfl hreply
    | refused => exact hkept rfl (by rw [hphase]; rfl) (Call.degrade_leaves.trans (by simp))
    | lost => exact .inl (.inr (Call.degrade_leaves.trans (by simp)))
  | recheck hphase record hrecord => exact .inl (.inr rfl)
  | checked hphase hrecord => exact .inl (.inl rfl)
  | unchecked reply hphase hreply => exact .inl (.inl rfl)
  | unlock reply hphase =>
    obtain ⟨rfl, -⟩ := lock_deleteLock hlock
    exact .inl (.inr (Call.degrade_leaves.trans (by simp)))
  | stored data hphase => exact .inl (.inr rfl)
  | unstored reply data hphase hreply => exact .inl (.inl rfl)
  | released data hphase => exact absurd (lock_deleteLock hlock).1 (by simp)
  | unreleased reply data hphase hreply => exact .inl (.inl rfl)
  | dropped reply data hphase =>
    obtain ⟨rfl, -⟩ := lock_deleteLock hlock
    exact .inl (.inr (by simp [Call.answerUnstored, Call.move]))
  | undone reply hphase =>
    obtain ⟨rfl, -⟩ := lock_deleteLock hlock
    exact .inl (.inr (by simp [Call.move]))
  | store data hphase => exact .inl (.inl rfl)
  | release data hphase => exact .inl (.inl rfl)
  | undo hphase => exact .inl (.inl rfl)
  | answer data hphase => exact hkept rfl (by rw [hphase]; rfl) rfl
  | throw hphase => exact hkept rfl (by rw [hphase]; rfl) rfl

end Idempotency
