import Relaycast.Grant.Admission

/-!
# What reconciling the registry leaves

After the registry is reconciled it has no connection that the control plane does not hold, and
every connection that the control plane holds is attached, superseded, or has been closed
(`rehydrate_reconciled`), whatever the registry knew before.

A superseded connection is kept so that a frame that is on its way still reaches the registry of
nodes.  But every call begins with a reconciliation, and one that finds a superseded connection
still open closes it and forgets it.  So as long as no call is rolled back, the only frames that are
handled are those of attached connections (`handled_attached`).
-/

namespace Grant

open Script Relational Reactive

namespace ActorRealtime

variable {o : Options} {env : Surroundings} {event : Option (SocketId × Phase)}
  {s s' : ActorRealtime} {socketId id : SocketId} {row : ActorSocketRow}

lemma isAttached_iff : s.isAttached id = true ↔
    ∃ identity, (id, identity) ∈ s.attached.entries := by
  rw [isAttached, Option.isSome_iff_exists]
  simp only [Dict.get?_eq_some]

/-! ## Rows and connections -/

/-- Every row belongs to an attached connection, but for some. -/
def Rowed (E : SocketId → Prop) (s : ActorRealtime) : Prop :=
  ∀ r ∈ s.table, s.isAttached r.socketId = true ∨ E r.socketId

variable {E E' : SocketId → Prop}

namespace Rowed

lemma mono (h : Rowed E s) (hE : ∀ id, E id → E' id) : Rowed E' s :=
  fun r hr => (h r hr).imp (fun h => h) (hE r.socketId)

/-- A connection whose row goes with it. -/
lemma drop (h : Rowed E s) (k : SocketId) (superseded : Dict Identity) :
    Rowed (fun id => E id ∧ id ≠ k)
      ({ s with attached := s.attached.erase k, superseded }.deleteRow k) := by
  intro r hr
  obtain ⟨hr, hne⟩ := List.mem_filter.mp hr
  have hne' : r.socketId ≠ k := by simpa using hne
  rcases h r hr with hattached | hE
  · obtain ⟨identity, hmem⟩ := isAttached_iff.mp hattached
    exact .inl (isAttached_iff.mpr ⟨identity, Dict.mem_erase.mpr ⟨hne', hmem⟩⟩)
  · exact .inr ⟨hE, hne'⟩

lemma deleteRow (h : Rowed E s) (k : SocketId) :
    Rowed (fun id => E id ∧ id ≠ k) (s.deleteRow k) := by
  intro r hr
  obtain ⟨hr, hne⟩ := List.mem_filter.mp hr
  exact (h r hr).imp (fun h => h) fun hE => ⟨hE, by simpa using hne⟩

lemma teardown (h : Rowed E s) (k : SocketId) :
    Rowed (fun id => E id ∧ id ≠ k) (s.teardown k) := by
  unfold ActorRealtime.teardown
  split_ifs <;> exact h.drop k _

lemma forgetDropped (h : Rowed E s) (dropped : SocketId → Bool) :
    Rowed E (s.forgetDropped dropped) := by
  unfold ActorRealtime.forgetDropped
  generalize s.attached.entries.filter (drops dropped) = entries
  induction entries generalizing s with
  | nil => exact h
  | cons entry entries ih => exact ih ((h.drop entry.1 _).mono fun _ hE => hE.1)

lemma set (h : Rowed E s) (k : SocketId) (identity : Identity) :
    Rowed (fun id => E id ∧ id ≠ k) { s with attached := s.attached.set k identity } := by
  intro r hr
  by_cases hk : r.socketId = k
  · exact .inl (isAttached_iff.mpr ⟨identity, Dict.mem_set.mpr (.inl ⟨hk, rfl⟩)⟩)
  · rcases h r hr with hattached | hE
    · obtain ⟨identity', hmem⟩ := isAttached_iff.mp hattached
      exact .inl (isAttached_iff.mpr ⟨identity', Dict.mem_set.mpr (.inr ⟨hk, hmem⟩)⟩)
    · exact .inr ⟨hE, hk⟩

lemma replay (h : Rowed E s) (hs' : s.replay o env row = some s') :
    Rowed (fun id => E id ∧ id ≠ row.socketId) s' := by
  have hset := h.set row.socketId row.identity
  unfold ActorRealtime.replay at hs'
  split_ifs at hs'
  · obtain rfl := Option.some.inj hs'
    exact hset.forgetDropped _
  · obtain rfl := Option.some.inj hs'
    exact hset

lemma replayOrClose (h : Rowed E s) :
    Rowed (fun id => E id ∧ id ≠ row.socketId) (s.replayOrClose o env row) := by
  unfold ActorRealtime.replayOrClose
  split
  · next hs' => exact h.replay hs'
  · exact h.deleteRow _

/-! ### The rows of an earlier activation -/

/-- Once a row is looked at, it belongs to an attached connection, is gone, or is put off. -/
lemma replayRow {rows : List ActorSocketRow} {p : ActorRealtime × List ActorSocketRow}
    (h : Rowed (fun id => id ∈ (p.2 ++ row :: rows).map ActorSocketRow.socketId) p.1) :
    Rowed (fun id => id ∈ ((replayRow o env event p row).2 ++ rows).map ActorSocketRow.socketId)
      (replayRow o env event p row).1 := by
  have hrest : ∀ id, id ∈ (p.2 ++ row :: rows).map ActorSocketRow.socketId ∧ id ≠ row.socketId →
      id ∈ (p.2 ++ rows).map ActorSocketRow.socketId := by
    rintro id ⟨hid, hne⟩
    simp only [List.map_append, List.map_cons, List.mem_append, List.mem_cons] at hid ⊢
    tauto
  unfold ActorRealtime.replayRow
  split_ifs with hattached
  · intro r hr
    rcases h r hr with hr' | hid
    · exact .inl hr'
    · by_cases hne : r.socketId = row.socketId
      · exact .inl (hne ▸ hattached)
      · exact .inr (hrest _ ⟨hid, hne⟩)
  · exact (h.deleteRow row.socketId).mono hrest
  · exact h.mono fun id hid => by simpa using hid
  · exact h.replayOrClose.mono hrest

/-- The socket that is disconnecting. -/
def Leaving (event : Option (SocketId × Phase)) (id : SocketId) : Prop :=
  event = some (id, .disconnect)

/-- Once a row whose socket is gone is looked at, it is gone, but for that of the socket that is
disconnecting. -/
lemma settleVanished {rows : List ActorSocketRow}
    (h : Rowed (fun id => id ∈ (row :: rows).map ActorSocketRow.socketId ∨ Leaving event id) s) :
    Rowed (fun id => id ∈ rows.map ActorSocketRow.socketId ∨ Leaving event id)
      (settleVanished o env event s row) := by
  have hrest : ∀ id, (id ∈ (row :: rows).map ActorSocketRow.socketId ∨ Leaving event id) ∧
      id ≠ row.socketId → id ∈ rows.map ActorSocketRow.socketId ∨ Leaving event id := by
    rintro id ⟨hid | hid, hne⟩
    · rw [List.map_cons, List.mem_cons] at hid
      exact .inl (hid.resolve_left hne)
    · exact .inr hid
  unfold ActorRealtime.settleVanished
  split_ifs with hevent
  · refine h.mono fun id hid => ?_
    by_cases hne : id = row.socketId
    · exact .inr (hne ▸ hevent)
    · exact hrest id ⟨hid, hne⟩
  · exact (h.deleteRow _).mono hrest
  · split
    · exact (h.deleteRow _).mono hrest
    · next hs' => exact ((h.replay hs').teardown _).mono fun id hid => hrest id hid.1

/-- After the rows of an earlier activation are replayed, every row belongs to an attached
connection, but for that of the socket that is disconnecting. -/
lemma replayRows (h : s.replayed = true → Rowed (fun _ => False) s) :
    Rowed (Leaving event) (s.replayRows o env event) := by
  unfold ActorRealtime.replayRows
  split_ifs with hreplayed
  · exact (h hreplayed).mono fun _ => False.elim
  · have hfirst : ∀ (rows : List ActorSocketRow) (p : ActorRealtime × List ActorSocketRow),
        Rowed (fun id => id ∈ (p.2 ++ rows).map ActorSocketRow.socketId) p.1 →
        Rowed (fun id => id ∈ (rows.foldl (ActorRealtime.replayRow o env event) p).2.map
          ActorSocketRow.socketId) (rows.foldl (ActorRealtime.replayRow o env event) p).1 := by
      intro rows
      induction rows with
      | nil => exact fun p hp => by simpa using hp
      | cons row rows ih => exact fun p hp => ih _ hp.replayRow
    have hsecond : ∀ (rows : List ActorSocketRow) (s : ActorRealtime),
        Rowed (fun id => id ∈ rows.map ActorSocketRow.socketId ∨ Leaving event id) s →
        Rowed (Leaving event) (rows.foldl (ActorRealtime.settleVanished o env event) s) := by
      intro rows
      induction rows with
      | nil => exact fun s hs => by simpa using hs
      | cons row rows ih => exact fun s hs => ih _ hs.settleVanished
    refine hsecond _ _ ((hfirst s.allRows ({ s with replayed := true }, []) ?_).mono
      fun _ hid => .inl hid)
    intro r hr
    exact .inr (List.mem_map.mpr ⟨r, (List.perm_insertionSort _ _).mem_iff.mpr hr, rfl⟩)

/-- The table and the attached connections are all that matters. -/
lemma congr (h : Rowed E s) (htable : s'.table = s.table) (hattached : s'.attached = s.attached) :
    Rowed E s' := by
  intro r hr
  rw [htable] at hr
  have hr' := h r hr
  unfold isAttached at hr' ⊢
  rwa [hattached]

/-- A connection that is not attached has no row. -/
lemma settleConnection (h : Rowed (Leaving event) s) (c : SocketId) :
    settleConnection o env event s c = s ∧
        (s.isAttached c = true ∨ event.any (·.1 == c) = true) ∨
      settleConnection o env event s c = s.close c ACTOR_RESTARTED_CLOSE_CODE := by
  unfold ActorRealtime.settleConnection
  split_ifs with hattached
  · exact .inl ⟨rfl, by simpa using hattached⟩
  · have hnone : s.row? c = none := by
      refine List.find?_eq_none.mpr fun r hr hid => hattached ?_
      obtain rfl : r.socketId = c := by simpa using hid
      rcases h r hr with hr' | hleaving
      · simp [hr']
      · have hevent : event = some (r.socketId, .disconnect) := hleaving
        simp [hevent]
    rw [hnone]
    exact .inr rfl

end Rowed

/-! ## The loop over the connections -/

/-- What the loop over the connections does where every row belongs to an attached connection: it
closes those that are not attached. -/
structure Closes (event : Option (SocketId × Phase)) (cs : List SocketId)
    (s s' : ActorRealtime) : Prop where
  attached : s'.attached = s.attached
  superseded : s'.superseded = s.superseded
  table : s'.table = s.table
  replayed : s'.replayed = s.replayed
  live : ∀ id ∈ s'.live, id ∈ s.live
  open' : ∀ id ∈ s'.live, id ∈ cs → s.isAttached id = true ∨ event.any (·.1 == id) = true

lemma closes_settleConnections (h : Rowed (Rowed.Leaving event) s) (cs : List SocketId) :
    Closes event cs s (cs.foldl (settleConnection o env event) s) := by
  induction cs generalizing s with
  | nil => exact ⟨rfl, rfl, rfl, rfl, fun _ h => h, fun _ _ h => by cases h⟩
  | cons c cs ih =>
    rw [List.foldl_cons]
    rcases (h.settleConnection c : _ ∨ settleConnection o env event s c = _) with
      ⟨heq, hopen⟩ | heq
    · rw [heq]
      obtain ⟨hattached, hsuperseded, htable, hreplayed, hlive, hopen'⟩ := ih h
      refine ⟨hattached, hsuperseded, htable, hreplayed, hlive, fun id hid hmem => ?_⟩
      rcases List.mem_cons.mp hmem with rfl | hmem
      · exact hopen
      · exact hopen' id hid hmem
    · rw [heq]
      have hclosed : Rowed (Rowed.Leaving event) (s.close c ACTOR_RESTARTED_CLOSE_CODE) :=
        h.congr rfl rfl
      obtain ⟨hattached, hsuperseded, htable, hreplayed, hlive, hopen'⟩ := ih hclosed
      have hfilter : ∀ id ∈ (s.close c ACTOR_RESTARTED_CLOSE_CODE).live, id ∈ s.live ∧ id ≠ c := by
        intro id hid
        obtain ⟨hid, hne⟩ := List.mem_filter.mp hid
        exact ⟨hid, by simpa using hne⟩
      refine ⟨hattached, hsuperseded, htable, hreplayed,
        fun id hid => (hfilter id (hlive id hid)).1, fun id hid hmem => ?_⟩
      rcases List.mem_cons.mp hmem with rfl | hmem
      · exact absurd rfl (hfilter id (hlive id hid)).2
      · exact hopen' id hid hmem

/-! ## The live sockets -/

/-- Live sockets are only lost by being closed. -/
structure Closing (s₀ s : ActorRealtime) : Prop where
  live : ∀ id ∈ s.live, id ∈ s₀.live
  log : ∃ newer, s.log = newer ++ s₀.log ∧
    ∀ id ∈ s₀.live, id ∈ s.live ∨ ∃ code, .closed id code ∈ newer

namespace Closing

variable {s₀ : ActorRealtime}

lemma refl (s : ActorRealtime) : Closing s s := ⟨fun _ h => h, [], rfl, fun _ h => .inl h⟩

/-- A step that closes nothing. -/
lemma keep (h : Closing s₀ s) (hlive : s'.live = s.live)
    (hlog : ∃ newer, s'.log = newer ++ s.log) : Closing s₀ s' := by
  obtain ⟨hshrinks, newer, hnewer, hclosed⟩ := h
  obtain ⟨newer', hnewer'⟩ := hlog
  refine ⟨fun id hid => hshrinks id (hlive ▸ hid), newer' ++ newer, ?_, fun id hid => ?_⟩
  · rw [hnewer', hnewer, List.append_assoc]
  · rw [hlive]
    exact (hclosed id hid).imp (fun h => h)
      (Exists.imp fun _ hmem => List.mem_append_right _ hmem)

lemma close (h : Closing s₀ s) (k : SocketId) (code : ℕ) : Closing s₀ (s.close k code) := by
  obtain ⟨hshrinks, newer, hnewer, hclosed⟩ := h
  refine ⟨fun id hid => hshrinks id (List.mem_of_mem_filter hid), .closed k code :: newer, ?_,
    fun id hid => ?_⟩
  · exact congrArg (_ :: ·) hnewer
  · rcases hclosed id hid with hlive | ⟨code', hmem⟩
    · by_cases hk : id = k
      · exact .inr ⟨code, by rw [hk]; exact List.mem_cons_self⟩
      · exact .inl (List.mem_filter.mpr ⟨hlive, by simpa using hk⟩)
    · exact .inr ⟨code', List.mem_cons_of_mem _ hmem⟩

lemma foldl {α : Type} {f : ActorRealtime → α → ActorRealtime} {xs : List α}
    (hf : ∀ s, ∀ x ∈ xs, Closing s₀ s → Closing s₀ (f s x)) (h : Closing s₀ s) :
    Closing s₀ (xs.foldl f s) := by
  induction xs generalizing s with
  | nil => exact h
  | cons x xs ih =>
    exact ih (fun s y hy => hf s y (List.mem_cons_of_mem _ hy)) (hf s x List.mem_cons_self h)

lemma teardown (h : Closing s₀ s) (k : SocketId) : Closing s₀ (s.teardown k) := by
  unfold ActorRealtime.teardown
  split_ifs
  · exact h.keep rfl ⟨[_], rfl⟩
  · exact h.keep rfl ⟨[], rfl⟩

lemma forgetDropped (h : Closing s₀ s) (dropped : SocketId → Bool) :
    Closing s₀ (s.forgetDropped dropped) :=
  Closing.foldl (fun _ _ _ h => h.keep rfl ⟨[], rfl⟩) h

lemma replay (h : Closing s₀ s) (hs' : s.replay o env row = some s') : Closing s₀ s' := by
  have hset : Closing s₀ { s with attached := s.attached.set row.socketId row.identity } :=
    h.keep rfl ⟨[], rfl⟩
  unfold ActorRealtime.replay at hs'
  split_ifs at hs'
  · obtain rfl := Option.some.inj hs'
    exact hset.forgetDropped _
  · obtain rfl := Option.some.inj hs'
    exact hset

lemma replayOrClose (h : Closing s₀ s) : Closing s₀ (s.replayOrClose o env row) := by
  unfold ActorRealtime.replayOrClose
  split
  · next hs' => exact h.replay hs'
  · exact (h.keep rfl ⟨[], rfl⟩ : Closing s₀ (s.deleteRow row.socketId)).close _ _

lemma replayRows (h : Closing s₀ s) : Closing s₀ (s.replayRows o env event) := by
  have hfirst : ∀ (rows : List ActorSocketRow) (p : ActorRealtime × List ActorSocketRow),
      Closing s₀ p.1 → Closing s₀ (rows.foldl (replayRow o env event) p).1 := by
    intro rows
    induction rows with
    | nil => exact fun p hp => hp
    | cons row rows ih =>
      refine fun p hp => ih _ ?_
      unfold replayRow
      split_ifs
      · exact hp
      · exact hp.keep rfl ⟨[], rfl⟩
      · exact hp
      · exact hp.replayOrClose
  unfold ActorRealtime.replayRows
  split_ifs
  · exact h
  · refine Closing.foldl (fun s row _ h => ?_) (hfirst _ _ (h.keep rfl ⟨[], rfl⟩))
    unfold settleVanished
    split_ifs
    · exact h
    · exact h.keep rfl ⟨[], rfl⟩
    · split
      · exact h.keep rfl ⟨[], rfl⟩
      · next hs' => exact (h.replay hs').teardown _

lemma settleConnection (h : Closing s₀ s) (c : SocketId) :
    Closing s₀ (settleConnection o env event s c) := by
  unfold ActorRealtime.settleConnection
  split_ifs
  · exact h
  · split
    · exact h.replayOrClose
    · exact h.close _ _

lemma settleAttached (h : Closing s₀ s) (k : SocketId) :
    Closing s₀ (settleAttached event s k) := by
  unfold ActorRealtime.settleAttached
  split_ifs
  · exact h
  · exact h.teardown k

end Closing

/-! ## The end of a reconciliation -/

/-- The socket is accounted for, if it is live. -/
def Accounted (event : Option (SocketId × Phase)) (s : ActorRealtime) (id : SocketId) : Prop :=
  id ∈ s.live → s.isAttached id = true ∨ (s.superseded.get? id).isSome = true ∨
    event.any (·.1 == id) = true

lemma isSome_superseded_iff : (s.superseded.get? id).isSome = true ↔
    ∃ identity, (id, identity) ∈ s.superseded.entries := by
  rw [Option.isSome_iff_exists]
  simp only [Dict.get?_eq_some]

/-- A connection that is dropped is superseded. -/
lemma Accounted.forgetDropped (h : Accounted event s id) (dropped : SocketId → Bool) :
    Accounted event (s.forgetDropped dropped) id := by
  unfold ActorRealtime.forgetDropped
  generalize s.attached.entries.filter (drops dropped) = entries
  induction entries generalizing s with
  | nil => exact h
  | cons entry entries ih =>
    refine ih fun hlive => ?_
    rcases h hlive with hattached | hsuperseded | hevent
    · by_cases hid : id = entry.1
      · exact .inr (.inl (isSome_superseded_iff.mpr ⟨entry.2, Dict.mem_set.mpr (.inl ⟨hid, rfl⟩)⟩))
      · obtain ⟨identity, hmem⟩ := isAttached_iff.mp hattached
        exact .inl (isAttached_iff.mpr ⟨identity, Dict.mem_erase.mpr ⟨hid, hmem⟩⟩)
    · obtain ⟨identity, hmem⟩ := isSome_superseded_iff.mp hsuperseded
      refine .inr (.inl (isSome_superseded_iff.mpr ?_))
      by_cases hid : id = entry.1
      · exact ⟨entry.2, Dict.mem_set.mpr (.inl ⟨hid, rfl⟩)⟩
      · exact ⟨identity, Dict.mem_set.mpr (.inr ⟨hid, hmem⟩)⟩
    · exact .inr (.inr hevent)

/-- The row's own connection is accounted for, and every other that was. -/
lemma accounted_replayOrClose (h : Accounted event s id ∨ id = row.socketId) :
    Accounted event (s.replayOrClose o env row) id := by
  unfold ActorRealtime.replayOrClose
  split
  · next hs' =>
    have hset : Accounted event { s with attached := s.attached.set row.socketId row.identity }
        id := by
      intro hlive
      by_cases hid : id = row.socketId
      · exact .inl (isAttached_iff.mpr ⟨row.identity, Dict.mem_set.mpr (.inl ⟨hid, rfl⟩)⟩)
      · refine (h.resolve_right hid hlive).imp_left fun hattached => ?_
        obtain ⟨identity, hmem⟩ := isAttached_iff.mp hattached
        exact isAttached_iff.mpr ⟨identity, Dict.mem_set.mpr (.inr ⟨hid, hmem⟩)⟩
    unfold replay at hs'
    split_ifs at hs'
    · obtain rfl := Option.some.inj hs'
      exact hset.forgetDropped _
    · obtain rfl := Option.some.inj hs'
      exact hset
  · intro hlive
    obtain ⟨hlive, hne⟩ := List.mem_filter.mp hlive
    exact h.resolve_right (by simpa using hne) hlive

/-- A connection that the loop comes to is accounted for afterwards, and stays so. -/
lemma accounted_settleConnection {c : SocketId} (h : Accounted event s id ∨ id = c) :
    Accounted event (settleConnection o env event s c) id := by
  unfold settleConnection
  split_ifs with hopen
  · intro hlive
    rcases h with h | rfl
    · exact h hlive
    · rw [Bool.or_eq_true] at hopen
      exact hopen.imp (fun h => h) .inr
  · split
    · next row hrow =>
      have hid : row.socketId = c := by simpa using List.find?_some hrow
      exact accounted_replayOrClose (hid ▸ h)
    · intro hlive
      obtain ⟨hlive, hne⟩ := List.mem_filter.mp hlive
      exact h.resolve_right (by simpa using hne) hlive

lemma accounted_settleConnections {cs : List SocketId} (h : Accounted event s id ∨ id ∈ cs) :
    Accounted event (cs.foldl (settleConnection o env event) s) id := by
  induction cs generalizing s with
  | nil => exact h.resolve_right (by simp)
  | cons c cs ih =>
    rw [List.foldl_cons]
    refine ih ?_
    rcases h with h | h
    · exact .inl (accounted_settleConnection (.inl h))
    · rcases List.mem_cons.mp h with rfl | h
      · exact .inl (accounted_settleConnection (.inr rfl))
      · exact .inr h

/-- Tearing down what is gone touches no live connection. -/
lemma accounted_settleAttached (k : SocketId) (h : Accounted event s id) :
    Accounted event (settleAttached event s k) id := by
  unfold settleAttached
  split_ifs with hkept
  · exact h
  · have hgone : k ∉ s.live := fun hlive => hkept (.inr (List.contains_iff_mem.mpr hlive))
    have htorn : (s.teardown k).live = s.live ∧ (s.teardown k).attached = s.attached.erase k ∧
        (s.teardown k).superseded = s.superseded.erase k := by
      unfold teardown
      split_ifs <;> exact ⟨rfl, rfl, rfl⟩
    intro hlive
    rw [htorn.1] at hlive
    have hne : id ≠ k := fun hid => hgone (hid ▸ hlive)
    rcases h hlive with hattached | hsuperseded | hevent
    · obtain ⟨identity, hmem⟩ := isAttached_iff.mp hattached
      exact .inl (isAttached_iff.mpr ⟨identity, htorn.2.1 ▸ Dict.mem_erase.mpr ⟨hne, hmem⟩⟩)
    · obtain ⟨identity, hmem⟩ := isSome_superseded_iff.mp hsuperseded
      exact .inr (.inl (isSome_superseded_iff.mpr
        ⟨identity, htorn.2.2 ▸ Dict.mem_erase.mpr ⟨hne, hmem⟩⟩))
    · exact .inr (.inr hevent)

lemma live_settleAttached (k : SocketId) : (settleAttached event s k).live = s.live := by
  unfold settleAttached teardown
  split_ifs <;> rfl

lemma live_settleRegistry : (s.settleRegistry event).live = s.live := by
  unfold settleRegistry
  generalize s.attached.entries.map Prod.fst = keys
  induction keys generalizing s with
  | nil => rfl
  | cons k keys ih => exact ih.trans (live_settleAttached k)

/-- A connection that is attached afterwards was attached before. -/
lemma attached_settleAttached (k : SocketId)
    (h : (settleAttached event s k).isAttached id = true) : s.isAttached id = true ∧
      (id = k → s.live.contains id = true ∨ Rowed.Leaving event id) := by
  unfold settleAttached at h
  split_ifs at h with hkept
  · exact ⟨h, fun hid => hid ▸ hkept.symm⟩
  · have htorn : (s.teardown k).attached = s.attached.erase k := by
      unfold teardown
      split_ifs <;> rfl
    obtain ⟨identity, hmem⟩ := isAttached_iff.mp h
    rw [htorn, Dict.mem_erase] at hmem
    exact ⟨isAttached_iff.mpr ⟨identity, hmem.2⟩, fun hid => absurd hid hmem.1⟩

/-- What is attached in the end is live, but for the socket that is disconnecting. -/
lemma attached_settleRegistry (h : (s.settleRegistry event).isAttached id = true) :
    s.isAttached id = true ∧ (id ∈ s.live ∨ Rowed.Leaving event id) := by
  have hloop : ∀ (keys : List SocketId) (s : ActorRealtime),
      (keys.foldl (settleAttached event) s).isAttached id = true → s.isAttached id = true ∧
        (id ∈ keys → s.live.contains id = true ∨ Rowed.Leaving event id) := by
    intro keys
    induction keys with
    | nil => exact fun s h => ⟨h, fun hid => by cases hid⟩
    | cons k keys ih =>
      intro s h
      obtain ⟨hattached, hrest⟩ := ih _ h
      obtain ⟨hbefore, hk⟩ := attached_settleAttached k hattached
      refine ⟨hbefore, fun hid => ?_⟩
      rw [live_settleAttached] at hrest
      rcases List.mem_cons.mp hid with hid | hid
      · exact hk hid
      · exact hrest hid
  obtain ⟨hbefore, hkept⟩ := hloop _ s h
  obtain ⟨identity, hmem⟩ := isAttached_iff.mp hbefore
  refine ⟨hbefore, (hkept (List.mem_map.mpr ⟨_, hmem, rfl⟩)).imp_left fun hlive => ?_⟩
  exact List.contains_iff_mem.mp hlive

/-- Superseded connections that are live are kept, and no others. -/
lemma mem_forgetGone {x : SocketId × Identity} : x ∈ s.forgetGone.superseded.entries ↔
    x ∈ s.superseded.entries ∧ x.1 ∈ s.live := by
  rw [forgetGone]
  dsimp only
  rw [mem_foldl_erase]
  refine and_congr_right fun hx => ?_
  rw [List.mem_filter, List.mem_map]
  constructor
  · intro h
    by_contra hlive
    exact h ⟨⟨x, hx, rfl⟩, by simpa using hlive⟩
  · rintro hlive ⟨-, hgone⟩
    simp [hlive] at hgone

/-- **After a reconciliation the registry and the control plane agree**, whatever was known before:
what is attached is held by the control plane, and what the control plane holds is attached or
superseded, or has just been closed; the socket whose call it is is left to the call. -/
theorem rehydrate_reconciled (o : Options) (env : Surroundings)
    (event : Option (SocketId × Phase)) (s : ActorRealtime) :
    (∀ id, (s.rehydrate o env event).isAttached id = true →
      id ∈ env.connections ∨ event.any (·.1 == id) = true) ∧
    ∀ id ∈ env.connections, (s.rehydrate o env event).isAttached id = true ∨
      ((s.rehydrate o env event).superseded.get? id).isSome = true ∨
      event.any (·.1 == id) = true ∨
      ∃ newer code, (s.rehydrate o env event).log = newer ++ s.log ∧ .closed id code ∈ newer := by
  set s₀ := { s with live := env.connections ++ (event.map Prod.fst).toList } with hs₀
  set s₂ := (s₀.replayRows o env event).settleConnections o env event with hs₂
  have hclosing : Closing s₀ s₂ := Closing.foldl (fun _ c _ h => h.settleConnection c)
    (Closing.refl s₀).replayRows
  have hlive : ∀ id ∈ s₂.live, id ∈ env.connections ∨ event.any (·.1 == id) = true := by
    intro id hid
    refine (List.mem_append.mp (hclosing.live id hid)).imp_right fun hid => ?_
    obtain ⟨event', hevent, rfl⟩ := Option.map_eq_some_iff.mp (Option.mem_toList.mp hid)
    simp [hevent]
  have hfinal : Closing s₀ (s₂.settleRegistry event).forgetGone :=
    (Closing.foldl (fun _ k _ h => h.settleAttached k) hclosing).keep rfl ⟨[], rfl⟩
  refine ⟨fun id hattached => ?_, fun id hid => ?_⟩
  · have hsettled : (s₂.settleRegistry event).isAttached id = true := hattached
    obtain ⟨-, hkept⟩ := attached_settleRegistry hsettled
    rcases hkept with hkept | hleaving
    · exact hlive id hkept
    · have hevent : event = some (id, .disconnect) := hleaving
      exact .inr (by simp [hevent])
  · have haccounted : Accounted event (s₂.settleRegistry event) id := by
      have hloop : Accounted event s₂ id := accounted_settleConnections (.inr hid)
      unfold settleRegistry
      generalize s₂.attached.entries.map Prod.fst = keys
      clear_value s₂
      clear hs₂ hclosing hlive hfinal
      induction keys generalizing s₂ with
      | nil => exact hloop
      | cons k keys ih => exact ih _ (accounted_settleAttached k hloop)
    obtain ⟨newer, hnewer, hclosed⟩ := hfinal.log
    rcases hclosed id (List.mem_append_left _ hid) with hopen | ⟨code, hmem⟩
    · rcases haccounted hopen with hattached | hsuperseded | hevent
      · exact .inl hattached
      · obtain ⟨identity, hmem⟩ := isSome_superseded_iff.mp hsuperseded
        exact .inr (.inl (isSome_superseded_iff.mpr
          ⟨identity, mem_forgetGone.mpr ⟨hmem, hopen⟩⟩))
      · exact .inr (.inr (.inl hevent))
    · exact .inr (.inr (.inr ⟨newer, code, hnewer, hmem⟩))

/-! ## Frames of superseded connections -/

/-- An attached connection that is live stays. -/
lemma kept_settleRegistry (hattached : s.isAttached id = true) (hlive : id ∈ s.live) :
    (s.settleRegistry event).isAttached id = true := by
  unfold settleRegistry
  generalize s.attached.entries.map Prod.fst = keys
  induction keys generalizing s with
  | nil => exact hattached
  | cons k keys ih =>
    refine ih ?_ (by rwa [live_settleAttached])
    unfold settleAttached
    split_ifs with hkept
    · exact hattached
    · have hne : id ≠ k := fun hid =>
        hkept (.inr (List.contains_iff_mem.mpr (hid ▸ hlive)))
      have htorn : (s.teardown k).attached = s.attached.erase k := by
        unfold teardown
        split_ifs <;> rfl
      obtain ⟨identity, hmem⟩ := isAttached_iff.mp hattached
      exact isAttached_iff.mpr ⟨identity, htorn ▸ Dict.mem_erase.mpr ⟨hne, hmem⟩⟩

lemma Rowed.settleRegistry (h : Rowed E s) : Rowed E (s.settleRegistry event) := by
  unfold ActorRealtime.settleRegistry
  generalize s.attached.entries.map Prod.fst = keys
  induction keys generalizing s with
  | nil => exact h
  | cons k keys ih =>
    refine ih ?_
    unfold settleAttached
    split_ifs
    · exact h
    · exact (h.teardown k).mono fun _ hid => hid.1

/-- Every row of an activation that has replayed the rows of the one before belongs to an attached
connection. -/
def Rows (s : ActorRealtime) : Prop := s.replayed = true → Rowed (fun _ => False) s

/-- After a reconciliation, every row belongs to an attached connection, but for that of the socket
that is disconnecting; and so does every superseded connection, but for the socket whose call it
is. -/
lemma Rows.rehydrate (h : Rows s) (o : Options) (env : Surroundings)
    (event : Option (SocketId × Phase)) :
    Rowed (Rowed.Leaving event) (s.rehydrate o env event) ∧
      ∀ id, ((s.rehydrate o env event).superseded.get? id).isSome = true →
        (s.rehydrate o env event).isAttached id = true ∨ event.any (·.1 == id) = true := by
  set s₀ := { s with live := env.connections ++ (event.map Prod.fst).toList } with hs₀
  have hrowed : Rowed (Rowed.Leaving event) (s₀.replayRows o env event) :=
    Rowed.replayRows fun hreplayed => (h hreplayed).congr rfl rfl
  have hclosing : Closing s₀ (s₀.replayRows o env event) := (Closing.refl s₀).replayRows
  set s₁ := s₀.replayRows o env event with hs₁
  obtain ⟨hattached, -, htable, -, hlive, hopen⟩ :
    Closes event env.connections s₁ (s₁.settleConnections o env event) :=
    closes_settleConnections hrowed env.connections
  set s₂ := s₁.settleConnections o env event with hs₂
  have hrowed₂ : Rowed (Rowed.Leaving event) s₂ := hrowed.congr htable hattached
  refine ⟨hrowed₂.settleRegistry.congr rfl rfl, fun id hid => ?_⟩
  obtain ⟨identity, hmem⟩ := isSome_superseded_iff.mp hid
  obtain ⟨-, hstays⟩ := (mem_forgetGone (s := s₂.settleRegistry event)).mp hmem
  rw [live_settleRegistry] at hstays
  have hstart : id ∈ s₀.live := hclosing.live id (hlive id hstays)
  have hsocket : id ∈ env.connections ∨ event.any (·.1 == id) = true := by
    refine (List.mem_append.mp hstart).imp_right fun hid => ?_
    obtain ⟨event', hevent, rfl⟩ := Option.map_eq_some_iff.mp (Option.mem_toList.mp hid)
    simp [hevent]
  rcases hsocket with hconnection | hevent
  · refine (hopen id hstays hconnection).imp_left fun hatt => ?_
    have hatt₂ : s₂.isAttached id = true := by
      unfold isAttached at hatt ⊢
      rwa [hattached]
    exact kept_settleRegistry hatt₂ hstays
  · exact .inr hevent

lemma Rowed.attach (h : Rowed E s) (k : SocketId) (identity : Identity) (insertedAt : Millis) :
    Rowed E (s.attach k identity insertedAt) := by
  have hset := h.set k identity
  intro r hr
  rcases mem_insertRow hr with hr | rfl
  · exact (hset r hr).imp (fun h => h) And.left
  · exact .inl (isAttached_iff.mpr ⟨identity, Dict.mem_set.mpr (.inl ⟨rfl, rfl⟩)⟩)

lemma Rowed.connectAs (h : Rowed E s) (p : SocketPrincipal) (now : Millis) :
    Rowed E (s.connectAs o env socketId p now) := by
  unfold ActorRealtime.connectAs
  dsimp only
  split_ifs
  · exact h.congr rfl rfl
  · exact h.congr rfl rfl
  · exact h.congr rfl rfl
  · unfold admitSocket
    split
    · exact h.congr rfl rfl
    · have hused : Rowed E (((s.note (.checked p now)).pruneNonces now).useNonce p) :=
        h.congr rfl rfl
      exact (hused.attach socketId p.identity env.insertedAt).congr rfl rfl

lemma Rowed.syncRow (h : Rowed E s) (k : SocketId) (state : Option (Option String)) :
    Rowed E (s.syncRow k state) := by
  unfold ActorRealtime.syncRow
  split
  · split_ifs
    · intro r' hr'
      obtain ⟨r, hr, rfl⟩ := List.mem_map.mp hr'
      have hr'' := h r hr
      split_ifs <;> exact hr''
    · exact h
  · exact h

/-- **A call that is not rolled back keeps every row with its connection.** -/
lemma Rows.run (h : Rows s) (o : Options) (env : Surroundings) (w : Work) :
    Rowed (fun _ => False) (w.run o s env) := by
  have hnobody : ∀ id, ¬ Rowed.Leaving none id := fun id hid => by cases hid
  have hplain : Rowed (fun _ => False) (s.rehydrate o env none) :=
    (h.rehydrate o env none).1.mono hnobody
  cases w with
  | upgrade identity now random => exact hplain.congr rfl rfl
  | connect k metadata now =>
    have hbefore : Rowed (fun _ => False) (s.rehydrate o env (some (k, .connect))) :=
      (h.rehydrate o env (some (k, .connect))).1.mono fun id hid => by cases hid
    have hready : Rowed (fun _ => False)
        (if (s.rehydrate o env (some (k, .connect))).isAttached k then
          (s.rehydrate o env (some (k, .connect))).teardown k
        else s.rehydrate o env (some (k, .connect))) := by
      split_ifs
      · exact (hbefore.teardown k).mono fun _ hid => hid.1
      · exact hbefore
    simp only [Work.run, onConnect]
    split
    · exact hready.congr rfl rfl
    · exact hready.connectAs _ now
  | message k dropped state =>
    simp only [Work.run, onMessage]
    split
    · exact hplain
    · have hnoted : Rowed (fun _ => False) ((s.rehydrate o env none).note (.handled k)) :=
        hplain.congr rfl rfl
      split_ifs
      · exact (hnoted.forgetDropped dropped).syncRow k state
      · exact hnoted
  | disconnect k =>
    have hbefore := (h.rehydrate o env (some (k, .disconnect))).1
    have hlive : Rowed (Rowed.Leaving (some (k, .disconnect)))
        { s.rehydrate o env (some (k, .disconnect)) with
          live := (s.rehydrate o env (some (k, .disconnect))).live.filter (· != k) } :=
      hbefore.congr rfl rfl
    refine (hlive.teardown k).mono fun id hid => hid.2 ?_
    obtain ⟨rfl, -⟩ := Prod.mk.inj (Option.some.inj hid.1)
    rfl
  | engine dropped states =>
    have hforgotten := hplain.forgetDropped dropped
    simp only [Work.run]
    generalize (s.rehydrate o env none).forgetDropped dropped = s' at hforgotten
    induction states generalizing s' with
    | nil => exact hforgotten
    | cons entry states ih => exact ih _ (hforgotten.syncRow entry.1 entry.2)

end ActorRealtime

open ActorRealtime

variable {o : Options} {s : ActorRealtime}

/-- Is a call rolled back? -/
def Call.rolledBack : Call → Bool
  | .work _ _ rolledBack => rolledBack
  | .sleep => false

/-- **No frame of a superseded connection is handled**, as long as no call is rolled back: once the
registry is reconciled, as it is at the beginning of every call, a connection that is looked up
among the superseded ones, too, is found only if it is attached. -/
theorem handled_attached {calls : List Call} (hrun : run (Call.step o) .start calls = some s)
    (hkept : ∀ c ∈ calls, c.rolledBack = false) (env : Surroundings) (id : SocketId) :
    ((s.rehydrate o env none).attached.get? id).or
        ((s.rehydrate o env none).superseded.get? id) =
      (s.rehydrate o env none).attached.get? id := by
  have hrows : Rows s := by
    have hstart : Rows ActorRealtime.start := fun _ r hr => by cases hr
    refine along_induction (fun s c s' h hC hstep => ?_) hstart (along_of_forall hkept) hrun
    cases c with
    | work env w rolledBack =>
      obtain rfl := Option.some.inj hstep
      obtain rfl : rolledBack = false := hC
      exact fun _ => h.run o env w
    | sleep =>
      obtain rfl := Option.some.inj hstep
      intro hreplayed
      cases hreplayed
  cases hattached : (s.rehydrate o env none).attached.get? id with
  | some identity => rfl
  | none =>
    cases hsuperseded : (s.rehydrate o env none).superseded.get? id with
    | none => rfl
    | some identity =>
      have hfound := (hrows.rehydrate o env none).2 id (by rw [hsuperseded]; rfl)
      rcases hfound with hfound | hevent
      · rw [isAttached, hattached] at hfound
        cases hfound
      · cases hevent

/-- The node connects a second time, and its registration supersedes the first socket. -/
def supersedingCalls : List Call :=
  [.work (demoSurroundings []) (.connect "s1" (some demoGrant.metadata) 2000) false,
    .work (demoSurroundings ["s1"]) (.connect "s2" (some (signSocketPrincipal
      demoOptions.hmacSha256 demoOptions.grantSecret (.node "ws" "n1") 3000
        (List.replicate 16 8)).metadata) 3000) false,
    .work (demoSurroundings ["s1", "s2"]) (.message "s2" (· == "s1") (some (some "p"))) false]

/-- The first socket is superseded, and a frame of it finds nothing. -/
theorem handled_attached_superseded : ∃ s,
    run (Call.step demoOptions) .start supersedingCalls = some s ∧
      (ActorRealtime.superseded s).get? "s1" = some (.node "ws" "n1") ∧
      ((s.rehydrate demoOptions (demoSurroundings ["s1", "s2"]) none).attached.get? "s1").or
        ((s.rehydrate demoOptions (demoSurroundings ["s1", "s2"]) none).superseded.get? "s1") =
      none := by
  have hany : (run (Call.step demoOptions) .start supersedingCalls).any (fun s =>
      s.superseded.get? "s1" == some (.node "ws" "n1") &&
        (s.rehydrate demoOptions (demoSurroundings ["s1", "s2"]) none).attached.get? "s1" ==
          none) = true := by decide +kernel
  obtain ⟨s, hrun, hs⟩ := Option.any_eq_true _ _ |>.mp hany
  rw [Bool.and_eq_true, beq_iff_eq, beq_iff_eq] at hs
  have hkept : ∀ c ∈ supersedingCalls, c.rolledBack = false := by
    simp [supersedingCalls, Call.rolledBack]
  exact ⟨s, hrun, hs.1, (handled_attached hrun hkept _ "s1").trans hs.2⟩

end Grant
