import Relaycast.Idempotency.Runner

/-!
# Replays

Whatever fails and however requests interleave, a request is answered with a record only if the
operation of a request with the same key was completed with that result (`replayed_completed`), one
that found a record does not run its operation, and one that must not run without the store has
checked that there was no record after it wrote the lock (`ran_unrecorded`).
-/

namespace Idempotency

open Script Relational Reactive

variable {T : Type} {strip : T → T} {now : Millis} {kv kv' : Kv T} {c c' : Call T}
  {action : Action T} {s s' : System T} {e : Event T} {es : List (Event T)} {i : ℕ}

namespace Phase

/-- The operation has not run yet. -/
def before : Phase T → Bool
  | started | reading .. | contended | locking | rechecking | unlocking => true
  | _ => false

/-- Neither has the store failed. -/
def early : Phase T → Bool
  | started | reading .. | contended | locking | rechecking => true
  | _ => false

/-- The request has written the lock, and may delete it. -/
def holds : Phase T → Bool
  | rechecking | unlocking | operating true | storing _ | releasing _ | dropping _ | undoing => true
  | _ => false

end Phase

/-! ## One request -/

/-- What a request goes through: an inversion of `Call.act`. -/
inductive Acts (strip : T → T) (now : Millis) (kv : Kv T) (c : Call T) :
    Action T → Kv T → Call T → Prop
  | refuse (hphase : c.phase = .started) (outcome : Outcome T)
      (houtcome : outcome = .keyRequired ∨ outcome = .unavailable) :
      Acts strip now kv c .begin kv (c.move (.done outcome))
  | unprotected (hphase : c.phase = .started)
      (hopen : c.options.keyed = true → c.options.failClosed = false) :
      Acts strip now kv c .begin kv (c.run false)
  | read (hphase : c.phase = .started) : Acts strip now kv c .begin kv (c.move (.reading none none))
  | getRecord (reply lock record) (hphase : c.phase = .reading none lock)
      (hrecord : record = if reply = Reply.answered then some (kv.getRecord now) else none) :
      Acts strip now kv c (.getRecord reply) kv (c.settle (some record) lock)
  | getLock (reply lock record) (hphase : c.phase = .reading record none)
      (hlock : lock = if reply = Reply.answered then some (kv.getLock now) else none) :
      Acts strip now kv c (.getLock reply) kv (c.settle record (some lock))
  | again (hphase : c.phase = .contended) (record) (hrecord : kv.getRecord now = some record) :
      Acts strip now kv c (.proceed .answered) kv (c.replay record)
  | inProgress (hphase : c.phase = .contended) (hrecord : kv.getRecord now = none) :
      Acts strip now kv c (.proceed .answered) kv (c.move (.done .inProgress))
  | degrade (reply) (hphase : c.phase = .contended) (hreply : reply ≠ .answered) :
      Acts strip now kv c (.proceed reply) kv c.degrade
  | locked (hphase : c.phase = .locking) :
      Acts strip now kv c (.proceed .answered) (kv.putLock now .answered) (c.move .rechecking)
  | unlocked (reply) (hphase : c.phase = .locking) (hreply : reply ≠ .answered) :
      Acts strip now kv c (.proceed reply) (kv.putLock now reply)
        ({ c with leaves := c.leaves || reply == Reply.lost } : Call T).degrade
  | recheck (hphase : c.phase = .rechecking) (record) (hrecord : kv.getRecord now = some record) :
      Acts strip now kv c (.proceed .answered) kv
        (({ c with leaves := true } : Call T).replay record)
  | checked (hphase : c.phase = .rechecking) (hrecord : kv.getRecord now = none) :
      Acts strip now kv c (.proceed .answered) kv (({ c with checked := true } : Call T).run true)
  | unchecked (reply) (hphase : c.phase = .rechecking) (hreply : reply ≠ .answered) :
      Acts strip now kv c (.proceed reply) kv (({ c with failed := true } : Call T).move .unlocking)
  | unlock (reply) (hphase : c.phase = .unlocking) :
      Acts strip now kv c (.proceed reply) (kv.deleteLock reply)
        ({ c with leaves := c.leaves || reply == Reply.refused } : Call T).degrade
  | stored (data) (hphase : c.phase = .storing data) :
      Acts strip now kv c (.proceed .answered)
        (kv.putRecord now .answered (c.options.recordOf strip data)
          (c.options.resultTtlSeconds data))
        (({ c with leaves := true } : Call T).move (.done (.fresh c.options.status data)))
  | unstored (reply data) (hphase : c.phase = .storing data) (hreply : reply ≠ .answered) :
      Acts strip now kv c (.proceed reply)
        (kv.putRecord now reply (c.options.recordOf strip data) (c.options.resultTtlSeconds data))
        (({ c with leaves := c.leaves || reply == Reply.lost } : Call T).move (.dropping data))
  | released (data) (hphase : c.phase = .releasing data) :
      Acts strip now kv c (.proceed .answered) (kv.deleteLock .answered)
        (c.move (.done (.fresh c.options.status data)))
  | unreleased (reply data) (hphase : c.phase = .releasing data) (hreply : reply ≠ .answered) :
      Acts strip now kv c (.proceed reply) (kv.deleteLock reply) (c.move (.dropping data))
  | dropped (reply data) (hphase : c.phase = .dropping data) :
      Acts strip now kv c (.proceed reply) (kv.deleteLock reply)
        (({ c with leaves := c.leaves || reply == Reply.refused } : Call T).answerUnstored data)
  | undone (reply) (hphase : c.phase = .undoing) :
      Acts strip now kv c (.proceed reply) (kv.deleteLock reply)
        (({ c with leaves := c.leaves || reply == Reply.refused } : Call T).move (.done .threw))
  | store (data) (hphase : c.phase = .operating true) :
      Acts strip now kv c (.operate (some data)) kv (c.move (.storing data))
  | release (data) (hphase : c.phase = .operating true) :
      Acts strip now kv c (.operate (some data)) kv (c.move (.releasing data))
  | undo (hphase : c.phase = .operating true) :
      Acts strip now kv c (.operate none) kv (c.move .undoing)
  | answer (data) (hphase : c.phase = .operating false) :
      Acts strip now kv c (.operate (some data)) kv
        (c.move (.done (.fresh c.options.status data)))
  | throw (hphase : c.phase = .operating false) :
      Acts strip now kv c (.operate none) kv (c.move (.done .threw))

lemma acts_proceed {reply : Reply} (h : c.proceed strip now kv reply = some (kv', c')) :
    Acts strip now kv c (.proceed reply) kv' c' := by
  unfold Call.proceed at h
  split at h
  · next hphase =>
    obtain ⟨rfl, rfl⟩ := Prod.mk.inj (Option.some.inj h)
    split_ifs with hreply
    · subst hreply
      split
      · next record hrecord => exact .again hphase record hrecord
      · next hrecord => exact .inProgress hphase hrecord
    · exact .degrade reply hphase hreply
  · next hphase =>
    obtain ⟨rfl, rfl⟩ := Prod.mk.inj (Option.some.inj h)
    split_ifs with hreply
    · subst hreply
      exact .locked hphase
    · exact .unlocked reply hphase hreply
  · next hphase =>
    obtain ⟨rfl, rfl⟩ := Prod.mk.inj (Option.some.inj h)
    split_ifs with hreply
    · subst hreply
      split
      · next record hrecord => exact .recheck hphase record hrecord
      · next hrecord => exact .checked hphase hrecord
    · exact .unchecked reply hphase hreply
  · next hphase =>
    obtain ⟨rfl, rfl⟩ := Prod.mk.inj (Option.some.inj h)
    exact .unlock reply hphase
  · next data hphase =>
    obtain ⟨rfl, rfl⟩ := Prod.mk.inj (Option.some.inj h)
    split_ifs with hreply
    · subst hreply
      exact .stored data hphase
    · exact .unstored reply data hphase hreply
  · next data hphase =>
    obtain ⟨rfl, rfl⟩ := Prod.mk.inj (Option.some.inj h)
    split_ifs with hreply
    · subst hreply
      exact .released data hphase
    · exact .unreleased reply data hphase hreply
  · next data hphase =>
    obtain ⟨rfl, rfl⟩ := Prod.mk.inj (Option.some.inj h)
    exact .dropped reply data hphase
  · next hphase =>
    obtain ⟨rfl, rfl⟩ := Prod.mk.inj (Option.some.inj h)
    exact .undone reply hphase
  · cases h

lemma acts_of_act (h : c.act strip now kv action = some (kv', c')) :
    Acts strip now kv c action kv' c' := by
  cases action with
  | begin =>
    simp only [Call.act] at h
    split at h
    · next hphase =>
      obtain ⟨rfl, rfl⟩ := Prod.mk.inj (Option.some.inj h)
      unfold Call.begin
      split_ifs with hkeyed hrequire hkv hclosed
      · exact .refuse hphase .keyRequired (.inl rfl)
      · exact .unprotected hphase fun hk => by simp [hk] at hkeyed
      · exact .refuse hphase .unavailable (.inr rfl)
      · exact .unprotected hphase fun _ => by simpa using hclosed
      · exact .read hphase
    · cases h
  | getRecord reply =>
    simp only [Call.act] at h
    split at h
    · next lock hphase =>
      obtain ⟨rfl, rfl⟩ := Prod.mk.inj (Option.some.inj h)
      exact .getRecord reply lock _ hphase rfl
    · cases h
  | getLock reply =>
    simp only [Call.act] at h
    split at h
    · next record hphase =>
      obtain ⟨rfl, rfl⟩ := Prod.mk.inj (Option.some.inj h)
      exact .getLock reply _ record hphase rfl
    · cases h
  | proceed reply => exact acts_proceed h
  | operate result =>
    simp only [Call.act] at h
    split at h
    · next data hphase =>
      obtain ⟨rfl, rfl⟩ := Prod.mk.inj (Option.some.inj h)
      split_ifs
      · exact .store data hphase
      · exact .release data hphase
    · next hphase =>
      obtain ⟨rfl, rfl⟩ := Prod.mk.inj (Option.some.inj h)
      exact .undo hphase
    · next data hphase =>
      obtain ⟨rfl, rfl⟩ := Prod.mk.inj (Option.some.inj h)
      exact .answer data hphase
    · next hphase =>
      obtain ⟨rfl, rfl⟩ := Prod.mk.inj (Option.some.inj h)
      exact .throw hphase
    · cases h

/-- What the two reads come to. -/
lemma settle_cases (c : Call T) (record : Option (Option (Option (StoredIdempotencyRecord T))))
    (lock : Option (Option Bool)) :
    ((record = none ∨ lock = none) ∧ c.settle record lock = c.move (.reading record lock)) ∨
      (∃ r, record = some (some (some r)) ∧ c.settle record lock = c.replay r) ∨
      c.settle record lock = c.degrade ∨
      (record = some (some none) ∧ lock = some (some true) ∧
        c.settle record lock = c.move .contended) ∨
      (record = some (some none) ∧ lock = some (some false) ∧
        c.settle record lock = c.move .locking) := by
  rcases record with _ | _ | _ | r <;> rcases lock with _ | _ | _ | _ <;>
    simp [Call.settle, Call.decide]

/-! ## What a request knows -/

/-- A request that found a record does not run its operation, and one that must not run without the
store has checked that there is none. -/
structure Call.Sound (c : Call T) : Prop where
  before : c.phase.before = true → c.ran = false ∧ c.found = false
  early : c.phase.early = true → c.failed = false
  unran : c.found = true → c.ran = false
  closed : c.ran = true → c.options.keyed = true → c.options.failClosed = true →
    c.checked = true ∧ c.failed = false

namespace Call.Sound

lemma arrive (o : RunIdempotentOptions T) : (Call.arrive o).Sound :=
  ⟨fun _ => ⟨rfl, rfl⟩, fun _ => rfl, fun _ => rfl, fun h => absurd h (by simp [Call.arrive])⟩

/-- A request goes on. -/
lemma move {phase : Phase T} (h : c.Sound)
    (hbefore : phase.before = true → c.ran = false ∧ c.found = false)
    (hearly : phase.early = true → c.failed = false) : (c.move phase).Sound :=
  ⟨hbefore, hearly, h.unran, h.closed⟩

/-- The lock that a request leaves is nothing to its operation. -/
lemma leave (h : c.Sound) (leaves : Bool) : ({ c with leaves } : Call T).Sound :=
  ⟨h.before, h.early, h.unran, h.closed⟩

/-- A request goes on after its operation. -/
lemma after {phase : Phase T} (h : c.Sound) (hphase : phase.before = false)
    (hearly : phase.early = false) : (c.move phase).Sound :=
  h.move (fun hbefore => absurd hbefore (by simp [hphase]))
    fun he => absurd he (by simp [hearly])

lemma replay (h : c.Sound) (hran : c.ran = false) (record : StoredIdempotencyRecord T) :
    (c.replay record).Sound :=
  ⟨fun hbefore => absurd hbefore (by simp [Call.replay, Phase.before]),
    fun hearly => absurd hearly (by simp [Call.replay, Phase.early]), fun _ => hran, h.closed⟩

lemma run {protect : Bool} (hfound : c.found = false)
    (hclosed : c.options.keyed = true → c.options.failClosed = true →
      c.checked = true ∧ c.failed = false) : (c.run protect).Sound :=
  ⟨fun hbefore => absurd hbefore (by simp [Call.run, Phase.before]),
    fun hearly => absurd hearly (by simp [Call.run, Phase.early]),
    fun hf => absurd (hfound.symm.trans hf) (by simp), fun _ => hclosed⟩

/-- The store fails a request whose operation has not run. -/
lemma degrade (h : c.ran = false ∧ c.found = false) : c.degrade.Sound := by
  unfold Call.degrade
  dsimp only
  split_ifs with hclosed
  · exact ⟨fun _ => h, fun hearly => absurd hearly (by simp [Call.move, Phase.early]), fun _ => h.1,
      fun hran => absurd (h.1.symm.trans hran) (by simp)⟩
  · exact ⟨fun hbefore => absurd hbefore (by simp [Call.run, Phase.before]),
      fun hearly => absurd hearly (by simp [Call.run, Phase.early]),
      fun hf => absurd (h.2.symm.trans hf) (by simp), fun _ _ hc => absurd hc hclosed⟩

lemma settle {record : Option (Option (Option (StoredIdempotencyRecord T)))}
    {lock : Option (Option Bool)} (h : c.Sound) (hbefore : c.ran = false ∧ c.found = false)
    (hfailed : c.failed = false) : (c.settle record lock).Sound := by
  obtain ⟨-, hreading⟩ | ⟨r, -, hreplay⟩ | hdegrade | ⟨-, -, hcontended⟩ | ⟨-, -, hlocking⟩ :=
    settle_cases c record lock
  · exact hreading ▸ h.move (fun _ => hbefore) fun _ => hfailed
  · exact hreplay ▸ h.replay hbefore.1 r
  · exact hdegrade ▸ degrade hbefore
  · exact hcontended ▸ h.move (fun _ => hbefore) fun _ => hfailed
  · exact hlocking ▸ h.move (fun _ => hbefore) fun _ => hfailed

/-- **Whatever a request does, it runs its operation only as it may.** -/
lemma acts (h : c.Sound) (hacts : Acts strip now kv c action kv' c') : c'.Sound := by
  cases hacts with
  | refuse hphase outcome houtcome => exact h.after rfl rfl
  | unprotected hphase hopen =>
    have hbefore := h.before (by rw [hphase]; rfl)
    exact run hbefore.2 fun hkeyed hclosed =>
      absurd (hclosed.symm.trans (hopen hkeyed)) (by simp)
  | read hphase =>
    have hbefore := h.before (by rw [hphase]; rfl)
    exact h.move (fun _ => hbefore) fun _ => h.early (by rw [hphase]; rfl)
  | getRecord reply lock record hphase hrecord =>
    exact h.settle (h.before (by rw [hphase]; rfl)) (h.early (by rw [hphase]; rfl))
  | getLock reply lock record hphase hlock =>
    exact h.settle (h.before (by rw [hphase]; rfl)) (h.early (by rw [hphase]; rfl))
  | again hphase record hrecord => exact h.replay (h.before (by rw [hphase]; rfl)).1 record
  | inProgress hphase hrecord => exact h.after rfl rfl
  | degrade reply hphase hreply => exact degrade (h.before (by rw [hphase]; rfl))
  | locked hphase =>
    have hbefore := h.before (by rw [hphase]; rfl)
    exact h.move (fun _ => hbefore) fun _ => h.early (by rw [hphase]; rfl)
  | unlocked reply hphase hreply =>
    exact degrade (c := { c with leaves := _ }) (h.before (by rw [hphase]; rfl))
  | recheck hphase record hrecord =>
    exact (h.leave true).replay (h.before (by rw [hphase]; rfl)).1 record
  | checked hphase hrecord =>
    have hbefore := h.before (by rw [hphase]; rfl)
    have hfailed := h.early (by rw [hphase]; rfl)
    refine ⟨fun hb => absurd hb (by simp [Call.run, Phase.before]),
      fun he => absurd he (by simp [Call.run, Phase.early]),
      fun hf => absurd (hbefore.2.symm.trans hf) (by simp), fun _ _ _ => ⟨rfl, hfailed⟩⟩
  | unchecked reply hphase hreply =>
    have hbefore := h.before (by rw [hphase]; rfl)
    exact ⟨fun _ => hbefore, fun he => absurd he (by simp [Call.move, Phase.early]),
      fun _ => hbefore.1, fun hran => absurd (hbefore.1.symm.trans hran) (by simp)⟩
  | unlock reply hphase =>
    exact degrade (c := { c with leaves := _ }) (h.before (by rw [hphase]; rfl))
  | stored data hphase => exact (h.leave _).after rfl rfl
  | unstored reply data hphase hreply => exact (h.leave _).after rfl rfl
  | released data hphase => exact h.after rfl rfl
  | unreleased reply data hphase hreply => exact h.after rfl rfl
  | dropped reply data hphase => exact (h.leave _).after rfl rfl
  | undone reply hphase => exact (h.leave _).after rfl rfl
  | store data hphase => exact h.after rfl rfl
  | release data hphase => exact h.after rfl rfl
  | undo hphase => exact h.after rfl rfl
  | answer data hphase => exact h.after rfl rfl
  | throw hphase => exact h.after rfl rfl

end Call.Sound

/-! ## Runs -/

/-- What a request does is done to it alone, and to the store. -/
lemma step_act (h : s.step strip (.act i action) = some s') : ∃ c kv' c',
    s.calls[i]? = some c ∧ Acts strip s.clock s.kv c action kv' c' ∧
      s' = { s with
        kv := kv'
        calls := s.calls.set i c'
        completed := System.result c action ++ s.completed } := by
  simp only [System.step, Option.bind_eq_some_iff, Option.map_eq_some_iff] at h
  obtain ⟨c, hc, ⟨kv', c'⟩, hact, rfl⟩ := h
  exact ⟨c, kv', c', hc, acts_of_act hact, rfl⟩

/-- What holds of a request as it arrives, and is kept by whatever it does, holds of all. -/
theorem calls_induction {P : Call T → Prop} (harrive : ∀ o, P (.arrive o))
    (hacts : ∀ now kv c action kv' c', P c → Acts strip now kv c action kv' c' → P c')
    (hrun : run (System.step strip) .start es = some s) : ∀ c ∈ s.calls, P c := by
  refine run_induction (I := fun s : System T => ∀ c ∈ s.calls, P c) (fun s e s' h hstep => ?_)
    (fun _ hc => absurd hc List.not_mem_nil) hrun
  cases e with
  | tick now =>
    obtain rfl := Option.some.inj hstep
    exact h
  | arrive options =>
    obtain rfl := Option.some.inj hstep
    intro c hc
    obtain hold | hnew := List.mem_append.mp hc
    · exact h c hold
    · exact List.mem_singleton.mp hnew ▸ harrive options
  | act i action =>
    obtain ⟨c, kv', c', hc, hact, rfl⟩ := step_act hstep
    intro d hd
    obtain hold | rfl := List.mem_or_eq_of_mem_set hd
    · exact h d hold
    · exact hacts _ _ _ _ _ _ (h c (List.mem_of_getElem? hc)) hact

lemma sound_of_run (hrun : run (System.step strip) .start es = some s) : ∀ c ∈ s.calls, c.Sound :=
  calls_induction (P := Call.Sound) Call.Sound.arrive (fun _ _ _ _ _ _ h hacts => h.acts hacts) hrun

/-- **A request runs its operation only as it may.** One that has found a record never runs it; one
with a key that must not run without the store has run it only after no operation of the store had
failed, and after it wrote the lock and then found no record. -/
theorem ran_unrecorded (hrun : run (System.step strip) .start es = some s) (hc : c ∈ s.calls)
    (hran : c.ran = true) : c.found = false ∧
      (c.options.keyed = true → c.options.failClosed = true →
        c.checked = true ∧ c.failed = false) := by
  have hsound := sound_of_run hrun c hc
  refine ⟨?_, hsound.closed hran⟩
  by_contra hfound
  exact absurd (hran.symm.trans (hsound.unran (by simpa using hfound))) (by simp)

/-! ## Where the records come from -/

/-- The record is that of a completed operation. -/
def System.Recorded (s : System T) (strip : T → T) (record : StoredIdempotencyRecord T) : Prop :=
  ∃ p ∈ s.completed, record = p.1.recordOf strip p.2

/-- What a request has read, or will write, or is answered with, comes from completed operations. -/
def System.Knows (s : System T) (strip : T → T) (c : Call T) : Prop :=
  match c.phase with
  | .reading (some (some (some record))) _ => s.Recorded strip record
  | .storing data => (c.options, data) ∈ s.completed
  | .done (.replayed status data) =>
    ∃ record, s.Recorded strip record ∧ c.options.replayOf record = .replayed status data
  | _ => True

/-- Every record comes from a completed operation. -/
structure Traced (strip : T → T) (s : System T) : Prop where
  record : ∀ entry, s.kv.record = some entry → s.Recorded strip entry.1
  calls : ∀ c ∈ s.calls, s.Knows strip c

lemma System.Recorded.mono {record : StoredIdempotencyRecord T} (h : s.Recorded strip record)
    (hle : ∀ p ∈ s.completed, p ∈ s'.completed) : s'.Recorded strip record :=
  h.imp fun p hp => ⟨hle p hp.1, hp.2⟩

lemma System.Knows.mono (h : s.Knows strip c) (hle : ∀ p ∈ s.completed, p ∈ s'.completed) :
    s'.Knows strip c := by
  unfold System.Knows at h ⊢
  split
  · next record lock hphase =>
    simp only [hphase] at h
    exact h.mono hle
  · next data hphase =>
    simp only [hphase] at h
    exact hle _ h
  · next status data hphase =>
    simp only [hphase] at h
    obtain ⟨record, hrecord, hreplay⟩ := h
    exact ⟨record, hrecord.mono hle, hreplay⟩
  · trivial

lemma getRecord_eq_some {record : StoredIdempotencyRecord T} (h : kv.getRecord now = some record) :
    ∃ expiresAt, kv.record = some (record, expiresAt) ∧ now < expiresAt := by
  obtain ⟨⟨record', expiresAt⟩, hentry, rfl⟩ := Option.map_eq_some_iff.mp h
  obtain ⟨hentry, hlive⟩ := Option.filter_eq_some_iff.mp hentry
  exact ⟨expiresAt, hentry, by simpa using hlive⟩

namespace Traced

/-- A replay answers with the record. -/
lemma knows_replay {record : StoredIdempotencyRecord T} (h : s.Recorded strip record) :
    s.Knows strip (c.replay record) := by
  unfold System.Knows Call.replay
  dsimp only
  cases hreplay : c.options.replayOf record with
  | replayed status data => exact ⟨record, h, hreplay⟩
  | _ => trivial

lemma knows_degrade : s.Knows strip c.degrade := by
  unfold Call.degrade
  dsimp only
  split_ifs <;> trivial

lemma knows_settle {record : Option (Option (Option (StoredIdempotencyRecord T)))}
    {lock : Option (Option Bool)}
    (h : ∀ r, record = some (some (some r)) → s.Recorded strip r) :
    s.Knows strip (c.settle record lock) := by
  obtain ⟨-, hreading⟩ | ⟨r, hr, hreplay⟩ | hdegrade | ⟨-, -, hcontended⟩ | ⟨-, -, hlocking⟩ :=
    settle_cases c record lock
  · rw [hreading]
    unfold System.Knows Call.move
    rcases record with _ | _ | _ | r
    · trivial
    · trivial
    · trivial
    · exact h r rfl
  · exact hreplay ▸ knows_replay (h r hr)
  · exact hdegrade ▸ knows_degrade
  · rw [hcontended]
    trivial
  · rw [hlocking]
    trivial

/-- The record of the store is left as it is, or is that of the request. -/
lemma record_of_acts (h : Acts strip now kv c action kv' c') : kv'.record = kv.record ∨
    ∃ data expiresAt, c.phase = .storing data ∧
      kv'.record = some (c.options.recordOf strip data, expiresAt) := by
  cases h with
  | locked hphase => exact .inl rfl
  | unlocked reply hphase hreply =>
    unfold Kv.putLock
    split_ifs <;> exact .inl rfl
  | unlock reply hphase =>
    unfold Kv.deleteLock
    split_ifs <;> exact .inl rfl
  | stored data hphase => exact .inr ⟨data, _, hphase, rfl⟩
  | unstored reply data hphase hreply =>
    unfold Kv.putRecord
    split_ifs
    · exact .inl rfl
    · exact .inr ⟨data, _, hphase, rfl⟩
  | released data hphase => exact .inl rfl
  | unreleased reply data hphase hreply =>
    unfold Kv.deleteLock
    split_ifs <;> exact .inl rfl
  | dropped reply data hphase =>
    unfold Kv.deleteLock
    split_ifs <;> exact .inl rfl
  | undone reply hphase =>
    unfold Kv.deleteLock
    split_ifs <;> exact .inl rfl
  | _ => exact .inl rfl

/-- What a request knows after what it did. -/
lemma knows_of_acts (h : Traced strip s) (hc : s.Knows strip c)
    (hacts : Acts strip now s.kv c action kv' c')
    (hle : ∀ p ∈ s.completed, p ∈ s'.completed)
    (hresult : ∀ p ∈ System.result c action, p ∈ s'.completed) : s'.Knows strip c' := by
  have hread : ∀ r, s.kv.getRecord now = some r → s'.Recorded strip r := by
    intro r hr
    obtain ⟨expiresAt, hentry, -⟩ := getRecord_eq_some hr
    exact (h.record _ hentry).mono hle
  cases hacts with
  | refuse hphase outcome houtcome =>
    obtain rfl | rfl := houtcome
    · trivial
    · trivial
  | getRecord reply lock record hphase hrecord =>
    refine knows_settle fun r hr => hread r ?_
    rw [hrecord, Option.some.injEq] at hr
    split_ifs at hr
    exact Option.some.inj hr
  | getLock reply lock record hphase hlock =>
    refine knows_settle fun r hr => ?_
    have hknows := hc
    simp only [System.Knows, hphase, hr] at hknows
    exact hknows.mono hle
  | again hphase record hrecord => exact knows_replay (hread record hrecord)
  | degrade reply hphase hreply => exact knows_degrade
  | unlocked reply hphase hreply => exact knows_degrade
  | recheck hphase record hrecord => exact knows_replay (hread record hrecord)
  | unlock reply hphase => exact knows_degrade
  | dropped reply data hphase =>
    unfold Call.answerUnstored
    dsimp only
    split_ifs
    · trivial
    · trivial
  | store data hphase => exact hresult _ (List.mem_singleton.mpr rfl)
  | _ => trivial

/-- **Whatever happens, every record comes from a completed operation.** -/
lemma step (h : Traced strip s) (hstep : s.step strip e = some s') : Traced strip s' := by
  cases e with
  | tick now =>
    obtain rfl := Option.some.inj hstep
    exact ⟨h.record, h.calls⟩
  | arrive options =>
    obtain rfl := Option.some.inj hstep
    refine ⟨h.record, fun c hc => ?_⟩
    obtain hold | hnew := List.mem_append.mp hc
    · exact h.calls c hold
    · obtain rfl := List.mem_singleton.mp hnew
      trivial
  | act i action =>
    obtain ⟨c, kv', c', hc, hacts, rfl⟩ := step_act hstep
    have hknows := h.calls c (List.mem_of_getElem? hc)
    have hle : ∀ p ∈ s.completed, p ∈ System.result c action ++ s.completed :=
      fun p hp => List.mem_append_right _ hp
    constructor
    · intro entry hentry
      obtain hsame | ⟨data, expiresAt, hphase, hnew⟩ := record_of_acts hacts
      · exact (h.record entry (hsame ▸ hentry)).mono hle
      · obtain rfl := Option.some.inj (hnew.symm.trans hentry)
        simp only [System.Knows, hphase] at hknows
        exact ⟨(c.options, data), hle _ hknows, rfl⟩
    · intro d hd
      obtain hold | rfl := List.mem_or_eq_of_mem_set hd
      · exact (h.calls d hold).mono hle
      · exact h.knows_of_acts hknows hacts hle fun p hp => List.mem_append_left _ hp

end Traced

/-- **A replay is the result of a completed operation.** A request that is answered with a record is
answered with the result, and unless that is zero the status, of the completed operation of a
request with the same key, whose fingerprints are not at odds with its own. -/
theorem replayed_completed (hrun : run (System.step strip) .start es = some s) (hc : c ∈ s.calls)
    {status : ℕ} {data : T} (hdone : c.phase = .done (.replayed status data)) :
    ∃ o result, (o, result) ∈ s.completed ∧ data = strip result ∧
      status = (if o.status = 0 then c.options.status else o.status) ∧
      fingerprintMatches (o.recordOf strip result).fingerprint
        (o.recordOf strip result).fingerprints c.options.fingerprint
        c.options.compatibleFingerprints = true ∧
      (c.options.requireFingerprint = true →
        truthy (o.storageFingerprint.or o.fingerprint) = true) := by
  have htraced : Traced strip s := run_induction (I := Traced strip)
    (fun _ _ _ h hstep => h.step hstep)
    ⟨fun _ h => absurd h (by simp [System.start]), fun _ h => absurd h List.not_mem_nil⟩ hrun
  have hknows := htraced.calls c hc
  simp only [System.Knows, hdone] at hknows
  obtain ⟨record, ⟨⟨o, result⟩, hmem, rfl⟩, hreplay⟩ := hknows
  refine ⟨o, result, hmem, ?_⟩
  unfold RunIdempotentOptions.replayOf at hreplay
  split at hreplay
  · cases hreplay
  · next hreused =>
    rw [Outcome.replayed.injEq] at hreplay
    simp only [Bool.or_eq_true, Bool.and_eq_true, Bool.not_eq_true', not_or, not_and,
      Bool.not_eq_false] at hreused
    exact ⟨hreplay.2.symm, hreplay.1.symm, hreused.2, hreused.1⟩

/-! ## A request and its retry -/

/-- A request that may not run without the store. -/
def closedOptions : RunIdempotentOptions String where
  keyed := true
  hasKv := true
  fingerprint := some "f1"
  requireKvRead := true

/-- A request is run, and its result recorded. -/
def firstEvents : List (Event String) :=
  [.arrive closedOptions, .act 0 .begin, .act 0 (.getLock .answered), .act 0 (.getRecord .answered),
    .act 0 (.proceed .answered), .act 0 (.proceed .answered), .act 0 (.operate (some "sent")),
    .act 0 (.proceed .answered)]

/-- It arrives again with another fingerprint for storage, and is replayed. -/
def retryEvents : List (Event String) :=
  firstEvents ++ [.arrive { closedOptions with compatibleFingerprints := ["f0"] }, .act 1 .begin,
    .act 1 (.getRecord .answered), .act 1 (.getLock .refused)]

/-- The first request checked that there was no record after it wrote the lock. -/
theorem ran_unrecorded_first : ∃ s c, run (System.step id) .start firstEvents = some s ∧
    c ∈ System.calls s ∧ c.found = false ∧ c.checked = true ∧ c.failed = false := by
  have hany : (run (System.step id) .start firstEvents).any (fun s =>
      s.calls.any fun c => c.ran && c.options.keyed && c.options.failClosed) = true := by
    decide +kernel
  obtain ⟨s, hrun, hs⟩ := Option.any_eq_true _ _ |>.mp hany
  obtain ⟨c, hc, hran⟩ := List.any_eq_true.mp hs
  rw [Bool.and_eq_true, Bool.and_eq_true] at hran
  obtain ⟨hfound, hclosed⟩ := ran_unrecorded hrun hc hran.1.1
  exact ⟨s, c, hrun, hc, hfound, hclosed hran.1.2 hran.2⟩

/-- The second is answered with the result of the first. -/
theorem replayed_completed_retry : ∃ s, run (System.step id) .start retryEvents = some s ∧
    ∃ o result, (o, result) ∈ System.completed s ∧ "sent" = result := by
  have hany : (run (System.step id) .start retryEvents).any (fun s =>
      s.calls.any fun c => c.phase == .done (.replayed 201 "sent")) = true := by decide +kernel
  obtain ⟨s, hrun, hs⟩ := Option.any_eq_true _ _ |>.mp hany
  obtain ⟨c, hc, hdone⟩ := List.any_eq_true.mp hs
  obtain ⟨o, result, hmem, hdata, -⟩ := replayed_completed hrun hc (beq_iff_eq.mp hdone)
  exact ⟨s, hrun, o, result, hmem, hdata⟩

end Idempotency
