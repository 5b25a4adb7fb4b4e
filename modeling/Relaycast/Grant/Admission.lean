import Relaycast.Grant.Registry

/-!
# Who gets in

Reconciling the registry adds nothing to what it knew (`rehydrate_inherits`): a socket is attached
because it has connected with a grant, in this activation or in an earlier one, whatever was lost or
rolled back in between (`known_admitted`).  What it was admitted with verified at that time, in the
actor's own workspace.

A code that nobody can make up is one the actor has made.  In a run in which every code that is
presented belongs to a text that the actor has signed, every principal that is admitted is one it
has granted (`admitted_granted`), and while the actor is awake no grant lets two sockets in
(`admitted_once`).
-/

namespace Grant

open Script Coding Relational Reactive

/-- Is it neither a grant, nor a check or an admission, nor the end of an activation? -/
def Effect.quiet : Effect → Bool
  | .granted _ | .checked .. | .admitted .. | .restarted => false
  | .rejected .. | .closed .. | .tornDown _ | .handled _ => true

namespace ActorRealtime

variable {o : Options} {env : Surroundings} {event : Option (SocketId × Phase)}
  {s₀ s s' : ActorRealtime} {socketId : SocketId} {row : ActorSocketRow}

/-! ## What the registry knows -/

/-- The sockets that the memory or the table has, with what they run as. -/
def known (s : ActorRealtime) : List (SocketId × Identity) :=
  s.attached.entries ++ s.superseded.entries ++ s.table.map fun r => (r.socketId, r.identity)

lemma mem_known {x : SocketId × Identity} : x ∈ s.known ↔ x ∈ s.attached.entries ∨
    x ∈ s.superseded.entries ∨ ∃ r ∈ s.table, (r.socketId, r.identity) = x := by
  simp [known]

/-- Nothing is known that was not known before, and nothing is granted, checked or admitted. -/
structure Inherits (s₀ s : ActorRealtime) : Prop where
  known : ∀ x ∈ s.known, x ∈ s₀.known
  nonces : s.usedNonces = s₀.usedNonces
  log : ∃ newer, s.log = newer ++ s₀.log ∧ ∀ e ∈ newer, e.quiet = true

lemma mem_of_mem_set {V : Type} {d : Dict V} {k : String} {v : V} {x : String × V}
    (h : x ∈ (d.set k v).entries) : x = (k, v) ∨ x ∈ d.entries :=
  (Dict.mem_set.mp h).imp (fun h => Prod.ext h.1 h.2) And.right

lemma mem_foldl_erase {V : Type} {keys : List String} {d : Dict V} {x : String × V} :
    x ∈ (keys.foldl Dict.erase d).entries ↔ x ∈ d.entries ∧ x.1 ∉ keys := by
  simp [Dict.entries_foldl_erase]

namespace Inherits

lemma refl (s : ActorRealtime) : Inherits s s := ⟨fun _ h => h, rfl, [], rfl, by simp⟩

/-- A step after which no more is known, and that notes only what is quiet. -/
lemma after (h : Inherits s₀ s) (hknown : ∀ x ∈ s'.known, x ∈ s₀.known)
    (hnonces : s'.usedNonces = s.usedNonces)
    (hlog : ∃ newer, s'.log = newer ++ s.log ∧ ∀ e ∈ newer, e.quiet = true) : Inherits s₀ s' := by
  obtain ⟨newer, hnewer, hquiet⟩ := h.log
  obtain ⟨newer', hnewer', hquiet'⟩ := hlog
  refine ⟨hknown, hnonces.trans h.nonces, newer' ++ newer, by rw [hnewer', hnewer,
    List.append_assoc], fun e he => ?_⟩
  rcases List.mem_append.mp he with he | he
  · exact hquiet' e he
  · exact hquiet e he

/-- A step that notes nothing. -/
lemma silent (h : Inherits s₀ s) (hknown : ∀ x ∈ s'.known, x ∈ s₀.known)
    (hnonces : s'.usedNonces = s.usedNonces) (hlog : s'.log = s.log) : Inherits s₀ s' :=
  h.after hknown hnonces ⟨[], hlog, by simp⟩

lemma foldl {α : Type} {f : ActorRealtime → α → ActorRealtime} {xs : List α}
    (hf : ∀ s, ∀ x ∈ xs, Inherits s₀ s → Inherits s₀ (f s x)) (h : Inherits s₀ s) :
    Inherits s₀ (xs.foldl f s) := by
  induction xs generalizing s with
  | nil => exact h
  | cons x xs ih =>
    exact ih (fun s y hy => hf s y (List.mem_cons_of_mem _ hy)) (hf s x List.mem_cons_self h)

lemma note (h : Inherits s₀ s) {e : Effect} (he : e.quiet = true) : Inherits s₀ (s.note e) :=
  h.after h.known rfl ⟨[e], rfl, by simpa using he⟩

lemma deleteRow (h : Inherits s₀ s) (socketId : SocketId) : Inherits s₀ (s.deleteRow socketId) := by
  refine h.silent (fun x hx => h.known x ?_) rfl rfl
  rw [mem_known] at hx ⊢
  refine hx.imp id (Or.imp id ?_)
  rintro ⟨r, hr, rfl⟩
  exact ⟨r, List.mem_of_mem_filter hr, rfl⟩

lemma teardown (h : Inherits s₀ s) (socketId : SocketId) : Inherits s₀ (s.teardown socketId) := by
  have herased : Inherits s₀ { s with
      attached := s.attached.erase socketId
      superseded := s.superseded.erase socketId } := by
    refine h.silent (fun x hx => h.known x ?_) rfl rfl
    rw [mem_known] at hx ⊢
    exact hx.imp (fun hx => (Dict.mem_erase.mp hx).2)
      (Or.imp (fun hx => (Dict.mem_erase.mp hx).2) id)
  unfold ActorRealtime.teardown
  split_ifs
  · exact (herased.deleteRow socketId).note rfl
  · exact herased.deleteRow socketId

lemma forgetDropped (h : Inherits s₀ s) (dropped : SocketId → Bool) :
    Inherits s₀ (s.forgetDropped dropped) := by
  have hentries : ∀ entry ∈ s.attached.entries.filter (drops dropped), entry ∈ s₀.known :=
    fun entry hentry => h.known entry (mem_known.mpr (.inl (List.mem_of_mem_filter hentry)))
  refine Inherits.foldl (fun s entry hentry h => Inherits.deleteRow ?_ entry.1) h
  refine h.silent (fun x hx => ?_) rfl rfl
  rw [mem_known] at hx
  rcases hx with hx | hx | hx
  · exact h.known x (mem_known.mpr (.inl (Dict.mem_erase.mp hx).2))
  · rcases mem_of_mem_set hx with rfl | hx
    · exact hentries _ hentry
    · exact h.known x (mem_known.mpr (.inr (.inl hx)))
  · exact h.known x (mem_known.mpr (.inr (.inr hx)))

lemma sync (h : Inherits s₀ s) (socketId : SocketId) (providerName : Option String) :
    Inherits s₀ (s.sync socketId providerName) := by
  refine h.silent (fun x hx => h.known x ?_) rfl rfl
  rw [mem_known] at hx ⊢
  refine hx.imp id (Or.imp id ?_)
  rintro ⟨r', hr', rfl⟩
  obtain ⟨r, hr, rfl⟩ := List.mem_map.mp hr'
  refine ⟨r, hr, ?_⟩
  split_ifs <;> rfl

lemma syncRow (h : Inherits s₀ s) (socketId : SocketId) (state : Option (Option String)) :
    Inherits s₀ (s.syncRow socketId state) := by
  unfold ActorRealtime.syncRow
  split
  · split_ifs
    · exact h.sync _ _
    · exact h
  · exact h

lemma close (h : Inherits s₀ s) (socketId : SocketId) (code : ℕ) :
    Inherits s₀ (s.close socketId code) := by
  have hlive : Inherits s₀ { s with live := s.live.filter (· != socketId) } :=
    h.silent h.known rfl rfl
  exact hlive.note rfl

/-- Replaying a row that was known. -/
lemma replay (h : Inherits s₀ s) (hrow : (row.socketId, row.identity) ∈ s₀.known)
    (hs' : s.replay o env row = some s') : Inherits s₀ s' := by
  have hset : Inherits s₀ { s with attached := s.attached.set row.socketId row.identity } := by
    refine h.silent (fun x hx => ?_) rfl rfl
    rw [mem_known] at hx
    rcases hx with hx | hx
    · rcases mem_of_mem_set hx with rfl | hx
      · exact hrow
      · exact h.known x (mem_known.mpr (.inl hx))
    · exact h.known x (mem_known.mpr (.inr hx))
  unfold ActorRealtime.replay at hs'
  split_ifs at hs' with hworkspace hrefused hnode
  · obtain rfl := Option.some.inj hs'
    exact hset.forgetDropped _
  · obtain rfl := Option.some.inj hs'
    exact hset

lemma replayOrClose (h : Inherits s₀ s) (hrow : (row.socketId, row.identity) ∈ s₀.known) :
    Inherits s₀ (s.replayOrClose o env row) := by
  unfold ActorRealtime.replayOrClose
  split
  · next hs' => exact h.replay hrow hs'
  · exact (h.deleteRow _).close _ _

/-! ### Reconciliation -/

lemma row? (h : Inherits s₀ s) (hrow : s.row? socketId = some row) :
    (row.socketId, row.identity) ∈ s₀.known :=
  h.known _ (mem_known.mpr (.inr (.inr ⟨row, List.mem_of_find?_eq_some hrow, rfl⟩)))

lemma settleConnection (h : Inherits s₀ s) (socketId : SocketId) :
    Inherits s₀ (settleConnection o env event s socketId) := by
  unfold ActorRealtime.settleConnection
  split_ifs
  · exact h
  · split
    · next hrow => exact h.replayOrClose (h.row? hrow)
    · exact h.close _ _

lemma settleVanished (h : Inherits s₀ s) (hrow : (row.socketId, row.identity) ∈ s₀.known) :
    Inherits s₀ (settleVanished o env event s row) := by
  unfold ActorRealtime.settleVanished
  split_ifs
  · exact h
  · exact h.deleteRow _
  · split
    · exact h.deleteRow _
    · next hs' => exact (h.replay hrow hs').teardown _

/-- The rows that are put off are rows of the table. -/
lemma replayRow {p : ActorRealtime × List ActorSocketRow} (h : Inherits s₀ p.1)
    (hvanished : ∀ r ∈ p.2, (r.socketId, r.identity) ∈ s₀.known)
    (hrow : (row.socketId, row.identity) ∈ s₀.known) :
    Inherits s₀ (replayRow o env event p row).1 ∧
      ∀ r ∈ (ActorRealtime.replayRow o env event p row).2, (r.socketId, r.identity) ∈ s₀.known := by
  unfold ActorRealtime.replayRow
  split_ifs
  · exact ⟨h, hvanished⟩
  · exact ⟨h.deleteRow _, hvanished⟩
  · refine ⟨h, fun r hr => ?_⟩
    rcases List.mem_append.mp hr with hr | hr
    · exact hvanished r hr
    · exact List.mem_singleton.mp hr ▸ hrow
  · exact ⟨h.replayOrClose hrow, hvanished⟩

lemma replayRows (h : Inherits s₀ s) : Inherits s₀ (s.replayRows o env event) := by
  have hrows : ∀ r ∈ s.allRows, (r.socketId, r.identity) ∈ s₀.known := fun r hr =>
    h.known _ (mem_known.mpr (.inr (.inr
      ⟨r, (List.perm_insertionSort _ _).mem_iff.mp hr, rfl⟩)))
  have hloop : ∀ (rows : List ActorSocketRow) (p : ActorRealtime × List ActorSocketRow),
      (∀ r ∈ rows, (r.socketId, r.identity) ∈ s₀.known) → Inherits s₀ p.1 →
      (∀ r ∈ p.2, (r.socketId, r.identity) ∈ s₀.known) →
      Inherits s₀ (rows.foldl (ActorRealtime.replayRow o env event) p).1 ∧
        ∀ r ∈ (rows.foldl (ActorRealtime.replayRow o env event) p).2,
          (r.socketId, r.identity) ∈ s₀.known := by
    intro rows
    induction rows with
    | nil => exact fun p _ hp hvanished => ⟨hp, hvanished⟩
    | cons row rows ih =>
      intro p hrows hp hvanished
      obtain ⟨hp', hvanished'⟩ := hp.replayRow hvanished (hrows row List.mem_cons_self)
      exact ih _ (fun r hr => hrows r (List.mem_cons_of_mem _ hr)) hp' hvanished'
  unfold ActorRealtime.replayRows
  split_ifs
  · exact h
  · obtain ⟨hp, hvanished⟩ := hloop s.allRows ({ s with replayed := true }, []) hrows
      (h.silent h.known rfl rfl) (by simp)
    exact Inherits.foldl (fun s r hr h => h.settleVanished (hvanished r hr)) hp

lemma settleConnections (h : Inherits s₀ s) : Inherits s₀ (s.settleConnections o env event) :=
  Inherits.foldl (fun _ socketId _ h => h.settleConnection socketId) h

lemma settleRegistry (h : Inherits s₀ s) : Inherits s₀ (s.settleRegistry event) := by
  refine Inherits.foldl (fun s socketId _ h => ?_) h
  unfold settleAttached
  split_ifs
  · exact h
  · exact h.teardown socketId

lemma forgetGone (h : Inherits s₀ s) : Inherits s₀ s.forgetGone := by
  refine h.silent (fun x hx => h.known x ?_) rfl rfl
  rw [mem_known] at hx ⊢
  exact hx.imp id (Or.imp (fun hx => (mem_foldl_erase.mp hx).1) id)

end Inherits

/-- **Reconciling the registry adds nothing to what it knew.** -/
theorem rehydrate_inherits (o : Options) (env : Surroundings) (event : Option (SocketId × Phase))
    (s : ActorRealtime) : Inherits s (s.rehydrate o env event) := by
  have hlive : Inherits s { s with live := env.connections ++ (event.map Prod.fst).toList } :=
    (Inherits.refl s).silent (Inherits.refl s).known rfl rfl
  exact ((hlive.replayRows.settleConnections).settleRegistry).forgetGone

/-! ## Connecting -/

/-- Before its metadata is read, a socket that connects changes nothing that is known. -/
lemma inherits_before (o : Options) (env : Surroundings) (socketId : SocketId)
    (s : ActorRealtime) :
    Inherits s (if (s.rehydrate o env (some (socketId, .connect))).isAttached socketId then
      (s.rehydrate o env (some (socketId, .connect))).teardown socketId
      else s.rehydrate o env (some (socketId, .connect))) := by
  split_ifs
  · exact (rehydrate_inherits o env _ s).teardown socketId
  · exact rehydrate_inherits o env _ s

lemma mem_insertRow {r row : ActorSocketRow} (h : r ∈ (s.insertRow row).table) :
    r ∈ s.table ∨ r = row := by
  unfold insertRow at h
  split_ifs at h
  · obtain ⟨r', hr', rfl⟩ := List.mem_map.mp h
    split_ifs
    · exact .inr rfl
    · exact .inl hr'
  · rcases List.mem_append.mp h with h | h
    · exact .inl h
    · exact .inr (List.mem_singleton.mp h)

/-- What is known once a socket is attached. -/
lemma mem_known_attach {identity : Identity} {insertedAt : Millis} {x : SocketId × Identity}
    (h : x ∈ (s.attach socketId identity insertedAt).known) :
    x ∈ s.known ∨ x = (socketId, identity) := by
  rw [mem_known] at h
  rcases h with h | h | ⟨r, hr, rfl⟩
  · rcases mem_of_mem_set h with rfl | h
    · exact .inr rfl
    · exact .inl (mem_known.mpr (.inl h))
  · exact .inl (mem_known.mpr (.inr (.inl h)))
  · rcases mem_insertRow hr with hr | rfl
    · exact .inl (mem_known.mpr (.inr (.inr ⟨r, hr, rfl⟩)))
    · exact .inr rfl

variable {p : SocketPrincipal} {now : Millis}

/-- The state in which the nonce of a principal is looked up. -/
def checkedAt (s : ActorRealtime) (p : SocketPrincipal) (now : Millis) : ActorRealtime :=
  (s.note (.checked p now)).pruneNonces now

/-- **What becomes of a principal that a socket presents**: it is refused at once, or it is checked;
of those that are good and whose nonce was not used, one is refused by the database and another
admitted. -/
lemma connectAs_cases (o : Options) (env : Surroundings) (s : ActorRealtime) (socketId : SocketId)
    (p : SocketPrincipal) (now : Millis) :
    Inherits s (s.connectAs o env socketId p now) ∨
    Inherits (s.note (.checked p now)) (s.connectAs o env socketId p now) ∨
    Inherits (s.checkedAt p now) (s.connectAs o env socketId p now) ∨
    (p.identity.workspaceId = o.workspaceId ∧
      verifySocketPrincipal o.hmacSha256 o.grantSecret p now = .ok ∧
      (s.checkedAt p now).usedNonces.get? (p.nonce.getD "") = none ∧
      (Inherits ((s.checkedAt p now).useNonce p) (s.connectAs o env socketId p now) ∨
        s.connectAs o env socketId p now =
          (((s.checkedAt p now).useNonce p).attach socketId p.identity env.insertedAt).note
            (.admitted socketId p now))) := by
  unfold connectAs
  dsimp only
  split_ifs with hworkspace hverdict hused
  · exact .inl ((Inherits.refl s).note rfl)
  · exact .inr (.inl ((Inherits.refl _).note rfl))
  · exact .inr (.inr (.inl ((Inherits.refl _).note rfl)))
  · refine .inr (.inr (.inr ⟨not_not.mp hworkspace, not_not.mp hverdict, ?_, ?_⟩))
    · exact Option.not_isSome_iff_eq_none.mp hused
    · unfold admitSocket
      split
      · exact .inl ((Inherits.refl _).note rfl)
      · exact .inr rfl

/-- **What a call can do**: it knows no more than before, it grants a principal, or it lets a socket
present one. -/
lemma run_cases (o : Options) (env : Surroundings) (s : ActorRealtime) (w : Work) :
    Inherits s (w.run o s env) ∨
    (∃ identity now random s₁, w = .upgrade identity now random ∧ Inherits s s₁ ∧
      w.run o s env =
        s₁.note (.granted (signSocketPrincipal o.hmacSha256 o.grantSecret identity now random))) ∨
    (∃ socketId metadata now p s₁, w = .connect socketId metadata now ∧
      metadata.bind safeParse = some p ∧ Inherits s s₁ ∧
      w.run o s env = s₁.connectAs o env socketId p now) := by
  cases w with
  | upgrade identity now random =>
    exact .inr (.inl ⟨identity, now, random, _, rfl, rehydrate_inherits o env none s, rfl⟩)
  | connect socketId metadata now =>
    have hbefore := inherits_before o env socketId s
    cases hparsed : metadata.bind safeParse with
    | none =>
      left
      simp only [Work.run, onConnect, hparsed]
      exact hbefore.note rfl
    | some p =>
      refine .inr (.inr ⟨socketId, metadata, now, p, _, rfl, hparsed, hbefore, ?_⟩)
      simp only [Work.run, onConnect, hparsed]
  | message socketId dropped state =>
    left
    have hbefore := rehydrate_inherits o env none s
    simp only [Work.run, onMessage]
    split
    · exact hbefore
    · split_ifs
      · exact ((hbefore.note rfl).forgetDropped dropped).syncRow socketId state
      · exact hbefore.note rfl
  | disconnect socketId =>
    left
    have hbefore := rehydrate_inherits o env (some (socketId, .disconnect)) s
    have hlive : Inherits s { s.rehydrate o env (some (socketId, .disconnect)) with
        live := (s.rehydrate o env (some (socketId, .disconnect))).live.filter (· != socketId) } :=
      hbefore.silent hbefore.known rfl rfl
    exact hlive.teardown socketId
  | engine dropped states =>
    left
    refine Inherits.foldl (fun s' entry _ hs => hs.syncRow entry.1 entry.2) ?_
    exact (rehydrate_inherits o env none s).forgetDropped dropped

/-! ## What a call leaves of the past -/

/-- Does the effect let nobody in: is it neither a grant, nor an admission, nor the end of an
activation? -/
def bars : Effect → Bool
  | .checked .. => true
  | e => e.quiet

/-- Nothing is known that was not known before, and nothing is granted or admitted. -/
structure Bars (s s' : ActorRealtime) : Prop where
  known : ∀ x ∈ s'.known, x ∈ s.known
  log : ∃ newer, s'.log = newer ++ s.log ∧ ∀ e ∈ newer, bars e = true

lemma Inherits.bars (h : Inherits s s') : Bars s s' := by
  obtain ⟨newer, hlog, hquiet⟩ := h.log
  refine ⟨h.known, newer, hlog, fun e he => ?_⟩
  have hbars : ∀ e : Effect, e.quiet = true → ActorRealtime.bars e = true := by
    intro e he
    cases e <;> first | rfl | exact he
  exact hbars e (hquiet e he)

lemma Inherits.bars_checked (h : Inherits s₀ s') (hknown : s₀.known = s.known)
    (hlog : s₀.log = .checked p now :: s.log) : Bars s s' := by
  obtain ⟨hincluded, newer, hnewer, hbars⟩ := h.bars
  refine ⟨fun x hx => hknown ▸ hincluded x hx, newer ++ [.checked p now], ?_, fun e he => ?_⟩
  · rw [hnewer, hlog, List.append_assoc, List.singleton_append]
  · rcases List.mem_append.mp he with he | he
    · exact hbars e he
    · rw [List.mem_singleton.mp he]
      rfl

/-- A principal that is presented is barred, or it is good and admitted. -/
lemma connectAs_bars (o : Options) (env : Surroundings) (s : ActorRealtime) (socketId : SocketId)
    (p : SocketPrincipal) (now : Millis) :
    Bars s (s.connectAs o env socketId p now) ∨
    (p.identity.workspaceId = o.workspaceId ∧
      verifySocketPrincipal o.hmacSha256 o.grantSecret p now = .ok ∧
      (∀ x ∈ (s.connectAs o env socketId p now).known, x ∈ s.known ∨ x = (socketId, p.identity)) ∧
      (s.connectAs o env socketId p now).log =
        .admitted socketId p now :: .checked p now :: s.log) := by
  rcases connectAs_cases o env s socketId p now with hi | hi | hi |
    ⟨hworkspace, hverdict, -, hi | heq⟩
  · exact .inl hi.bars
  · exact .inl (hi.bars_checked rfl rfl)
  · exact .inl (hi.bars_checked rfl rfl)
  · exact .inl (hi.bars_checked rfl rfl)
  · refine .inr ⟨hworkspace, hverdict, fun x hx => ?_, by rw [heq]; rfl⟩
    have hknown : x ∈ (((s.checkedAt p now).useNonce p).attach socketId p.identity
        env.insertedAt).known := by
      rw [heq] at hx
      exact hx
    exact mem_known_attach hknown

end ActorRealtime

open ActorRealtime

/-! ## Over a run -/

variable {o : Options} {s s' : ActorRealtime} {env : Surroundings}

/-- **What a call leaves**: it bars everybody, it grants, or it admits a socket whose principal is
good. -/
lemma run_outcome (o : Options) (env : Surroundings) (s : ActorRealtime) (w : Work) :
    Bars s (w.run o s env) ∨
    (∃ identity now random s₁, Bars s s₁ ∧ w.run o s env =
      s₁.note (.granted (signSocketPrincipal o.hmacSha256 o.grantSecret identity now random))) ∨
    (∃ socketId metadata now p s₁, w = .connect socketId metadata now ∧
      metadata.bind safeParse = some p ∧ Bars s s₁ ∧
      p.identity.workspaceId = o.workspaceId ∧
      verifySocketPrincipal o.hmacSha256 o.grantSecret p now = .ok ∧
      (∀ x ∈ (w.run o s env).known, x ∈ s₁.known ∨ x = (socketId, p.identity)) ∧
      (w.run o s env).log = .admitted socketId p now :: .checked p now :: s₁.log) := by
  rcases run_cases o env s w with hi | ⟨identity, now, random, s₁, -, hi, heq⟩ |
    ⟨socketId, metadata, now, p, s₁, hw, hparsed, hi, heq⟩
  · exact .inl hi.bars
  · exact .inr (.inl ⟨identity, now, random, s₁, hi.bars, heq⟩)
  · rw [heq]
    rcases connectAs_bars o env s₁ socketId p now with hbars | ⟨hworkspace, hverdict, hknown, hlog⟩
    · left
      obtain ⟨newer, hnewer, hquiet⟩ := hi.bars.log
      obtain ⟨newer', hnewer', hquiet'⟩ := hbars.log
      refine ⟨fun x hx => hi.known x (hbars.known x hx), newer' ++ newer, ?_, fun e he => ?_⟩
      · rw [hnewer', hnewer, List.append_assoc]
      · rcases List.mem_append.mp he with he | he
        · exact hquiet' e he
        · exact hquiet e he
    · exact .inr (.inr ⟨socketId, metadata, now, p, s₁, hw, hparsed, hi.bars, hworkspace, hverdict,
        hknown, hlog⟩)

/-- Every socket that is known was admitted, and whatever was admitted had verified. -/
structure Admitted (o : Options) (s : ActorRealtime) : Prop where
  known : ∀ x ∈ s.known, ∃ p now, .admitted x.1 p now ∈ s.log ∧ p.identity = x.2
  verified : ∀ id p now, .admitted id p now ∈ s.log → p.identity.workspaceId = o.workspaceId ∧
    verifySocketPrincipal o.hmacSha256 o.grantSecret p now = .ok

lemma Admitted.bars (h : Admitted o s) (hbars : Bars s s') : Admitted o s' := by
  obtain ⟨hknown, newer, hnewer, hquiet⟩ := hbars
  refine ⟨fun x hx => ?_, fun id p now hmem => ?_⟩
  · obtain ⟨p, now, hmem, hidentity⟩ := h.known x (hknown x hx)
    exact ⟨p, now, by rw [hnewer]; exact List.mem_append_right _ hmem, hidentity⟩
  · rw [hnewer, List.mem_append] at hmem
    rcases hmem with hmem | hmem
    · exact absurd (hquiet _ hmem) (by simp [ActorRealtime.bars, Effect.quiet])
    · exact h.verified id p now hmem

lemma Admitted.run (h : Admitted o s) (env : Surroundings) (w : Work) :
    Admitted o (w.run o s env) := by
  rcases run_outcome o env s w with hbars | ⟨identity, now, random, s₁, hbars, heq⟩ |
    ⟨socketId, metadata, now, p, s₁, -, -, hbars, hworkspace, hverdict, hknown, hlog⟩
  · exact h.bars hbars
  · have h₁ := h.bars hbars
    rw [heq]
    refine ⟨fun x hx => ?_, fun id p now hmem => ?_⟩
    · obtain ⟨p, now, hmem, hidentity⟩ := h₁.known x hx
      exact ⟨p, now, List.mem_cons_of_mem _ hmem, hidentity⟩
    · rcases List.mem_cons.mp hmem with hgrant | hmem
      · cases hgrant
      · exact h₁.verified id p now hmem
  · have h₁ := h.bars hbars
    refine ⟨fun x hx => ?_, fun id p' now' hmem => ?_⟩
    · rw [hlog]
      rcases hknown x hx with hold | rfl
      · obtain ⟨p', now', hmem, hidentity⟩ := h₁.known x hold
        exact ⟨p', now', List.mem_cons_of_mem _ (List.mem_cons_of_mem _ hmem), hidentity⟩
      · exact ⟨p, now, List.mem_cons_self, rfl⟩
    · rw [hlog, List.mem_cons, List.mem_cons] at hmem
      rcases hmem with hadmitted | hchecked | hmem
      · obtain ⟨-, rfl, rfl⟩ := Effect.admitted.inj hadmitted
        exact ⟨hworkspace, hverdict⟩
      · cases hchecked
      · exact h₁.verified id p' now' hmem

/-! ## Codes that nobody makes up -/

/-- The code of a principal, as its signature. -/
def Options.code (o : Options) (identity : Identity) (iat : ℕ) (nonce : String) : String :=
  String.ofList
    (toBase64Url (o.hmacSha256 o.grantSecret (canonicalSocketPrincipal identity iat nonce)))

/-- The principal that a call presents. -/
def Call.presented? : Call → Option SocketPrincipal
  | .work _ (.connect _ metadata _) _ => metadata.bind safeParse
  | _ => none

/-- A code that is presented is one that the actor has made: it has signed the text. -/
def Unforged (o : Options) (s : ActorRealtime) (c : Call) : Prop :=
  ∀ identity iat nonce,
    c.presented? = some ⟨identity, some iat, some nonce, some (o.code identity iat nonce)⟩ →
      ∃ q, .granted q ∈ s.log ∧ canonicalSocketPrincipal q.identity q.iat q.nonce =
        canonicalSocketPrincipal identity iat nonce

/-- What is granted is signed, and what is admitted was granted. -/
structure Genuine (o : Options) (s : ActorRealtime) : Prop where
  signed : ∀ q, .granted q ∈ s.log → q.sig = o.code q.identity q.iat q.nonce
  granted : ∀ id p now, .admitted id p now ∈ s.log → ∃ q, .granted q ∈ s.log ∧ q.principal = p

lemma Genuine.bars (h : Genuine o s) (hbars : Bars s s') : Genuine o s' := by
  obtain ⟨-, newer, hnewer, hquiet⟩ := hbars
  refine ⟨fun q hmem => ?_, fun id p now hmem => ?_⟩
  · rw [hnewer, List.mem_append] at hmem
    rcases hmem with hmem | hmem
    · exact absurd (hquiet _ hmem) (by simp [ActorRealtime.bars, Effect.quiet])
    · exact h.signed q hmem
  · rw [hnewer, List.mem_append] at hmem
    rcases hmem with hmem | hmem
    · exact absurd (hquiet _ hmem) (by simp [ActorRealtime.bars, Effect.quiet])
    · obtain ⟨q, hgranted, hprincipal⟩ := h.granted id p now hmem
      exact ⟨q, by rw [hnewer]; exact List.mem_append_right _ hgranted, hprincipal⟩

/-- A call whose code is not made up keeps what is admitted genuine. -/
lemma Genuine.run (h : Genuine o s) (env : Surroundings) (w : Work) {rolledBack : Bool}
    (hunforged : Unforged o s (.work env w rolledBack)) : Genuine o (w.run o s env) := by
  rcases run_outcome o env s w with hbars | ⟨identity, now, random, s₁, hbars, heq⟩ |
    ⟨socketId, metadata, now, p, s₁, rfl, hparsed, hbars, -, hverdict, -, hlog⟩
  · exact h.bars hbars
  · have h₁ := h.bars hbars
    rw [heq]
    refine ⟨fun q hmem => ?_, fun id p now hmem => ?_⟩
    · rcases List.mem_cons.mp hmem with hgrant | hmem
      · obtain rfl := Effect.granted.inj hgrant
        rfl
      · exact h₁.signed q hmem
    · rcases List.mem_cons.mp hmem with hgrant | hmem
      · cases hgrant
      · obtain ⟨q, hgranted, hprincipal⟩ := h₁.granted id p now hmem
        exact ⟨q, List.mem_cons_of_mem _ hgranted, hprincipal⟩
  · have h₁ := h.bars hbars
    have hgrows : ∀ {e : Effect}, e ∈ s₁.log →
        e ∈ (Work.run o s env (.connect socketId metadata now)).log := fun hmem => by
      rw [hlog]
      exact List.mem_cons_of_mem _ (List.mem_cons_of_mem _ hmem)
    refine ⟨fun q hmem => ?_, fun id p' now' hmem => ?_⟩
    · rw [hlog, List.mem_cons, List.mem_cons] at hmem
      rcases hmem with hadmitted | hchecked | hmem
      · cases hadmitted
      · cases hchecked
      · exact h₁.signed q hmem
    · rw [hlog, List.mem_cons, List.mem_cons] at hmem
      rcases hmem with hadmitted | hchecked | hmem
      · obtain ⟨-, rfl, rfl⟩ := Effect.admitted.inj hadmitted
        obtain ⟨iat, nonce, hprincipal, -, -⟩ := verifySocketPrincipal_eq_ok.mp hverdict
        obtain ⟨q, hgranted, htext⟩ := hunforged p'.identity iat nonce
          (hparsed.trans (congrArg some hprincipal))
        obtain ⟨hidentity, rfl, rfl⟩ := canonicalSocketPrincipal_injective htext
        obtain ⟨newer, hnewer, -⟩ := hbars.log
        refine ⟨q, hgrows (by rw [hnewer]; exact List.mem_append_right _ hgranted), ?_⟩
        rw [hprincipal, ← hidentity, SignedSocketPrincipal.principal, h.signed q hgranted]
        rfl
      · cases hchecked
      · obtain ⟨q, hgranted, hprincipal⟩ := h₁.granted id p' now' hmem
        exact ⟨q, hgrows hgranted, hprincipal⟩

/-! ## No grant lets two sockets in -/

/-- The principal that an effect admits. -/
def Effect.admitted? : Effect → Option SocketPrincipal
  | .admitted _ p _ => some p
  | _ => none

/-- The principals that have been admitted since the actor woke up. -/
def admissions (s : ActorRealtime) : List SocketPrincipal :=
  (s.log.takeWhile (· ≠ .restarted)).filterMap Effect.admitted?

/-- Is it no check of a grant later than `now`? -/
def Effect.within (now : Millis) : Effect → Bool
  | .checked _ t => decide (t ≤ now)
  | _ => true

/-- The time at which a call checks a grant. -/
def Call.checksAt? : Call → Option Millis
  | .work _ (.connect _ _ now) _ => some now
  | _ => none

/-- The clock does not run backwards between the checks of grants. -/
def ClockRuns (s : ActorRealtime) (c : Call) : Prop :=
  c.checksAt?.all fun now => s.log.all (·.within now)

instance : DecidableRel ClockRuns := fun s c =>
  inferInstanceAs (Decidable ((c.checksAt?.all fun now => s.log.all (·.within now)) = true))

lemma ClockRuns.le {socketId : SocketId} {metadata : Option JsonObject} {now t : Millis}
    {rolledBack : Bool} {p : SocketPrincipal}
    (h : ClockRuns s (.work env (.connect socketId metadata now) rolledBack))
    (hmem : .checked p t ∈ s.log) : t ≤ now := by
  have hall : s.log.all (·.within now) = true := h
  exact of_decide_eq_true (List.all_eq_true.mp hall _ hmem)

/-- Every principal that was admitted has its nonce on the list, unless it was found too old. -/
structure Once (s : ActorRealtime) : Prop where
  used : ∀ p ∈ admissions s, ∃ iat nonce, p.iat = some iat ∧ p.nonce = some nonce ∧
    (s.usedNonces.get? nonce = some iat ∨
      ∃ q t, .checked q t ∈ s.log ∧ iat + SOCKET_GRANT_MAX_AGE_MS < t)
  once : (admissions s).Nodup

lemma takeWhile_quiet {newer log : List Effect} (h : .restarted ∉ newer) :
    (newer ++ log).takeWhile (· ≠ .restarted) = newer ++ log.takeWhile (· ≠ .restarted) :=
  List.takeWhile_append_of_pos fun e he => by
    rw [decide_eq_true_eq]
    rintro rfl
    exact h he

lemma admissions_quiet {newer : List Effect} (hlog : s'.log = newer ++ s.log)
    (hnone : ∀ e ∈ newer, e.admitted? = none) (hrestarted : .restarted ∉ newer) :
    admissions s' = admissions s := by
  rw [admissions, hlog, takeWhile_quiet hrestarted, List.filterMap_append,
    List.filterMap_eq_nil_iff.mpr hnone, List.nil_append, admissions]

lemma Once.quiet (h : Once s) (hnonces : s'.usedNonces = s.usedNonces)
    (hlog : ∃ newer, s'.log = newer ++ s.log ∧ ∀ e ∈ newer, e.admitted? = none ∧ e ≠ .restarted) :
    Once s' := by
  obtain ⟨newer, hnewer, hquiet⟩ := hlog
  have hsame : admissions s' = admissions s := admissions_quiet hnewer
    (fun e he => (hquiet e he).1) (fun he => (hquiet _ he).2 rfl)
  refine ⟨fun p hp => ?_, hsame ▸ h.once⟩
  obtain ⟨iat, nonce, hiat, hnonce, hused⟩ := h.used p (hsame ▸ hp)
  refine ⟨iat, nonce, hiat, hnonce, ?_⟩
  rw [hnonces, hnewer]
  refine hused.imp id ?_
  rintro ⟨q, t, hmem, hold⟩
  exact ⟨q, t, List.mem_append_right _ hmem, hold⟩

lemma Once.inherits (h : Once s) (hi : Inherits s s') : Once s' := by
  obtain ⟨newer, hnewer, hquiet⟩ := hi.log
  have hspec : ∀ e : Effect, e.quiet = true → e.admitted? = none ∧ e ≠ .restarted := by
    intro e he
    cases e <;> simp_all [Effect.quiet, Effect.admitted?]
  exact h.quiet hi.nonces ⟨newer, hnewer, fun e he => hspec e (hquiet e he)⟩

/-- Forgetting the nonces of grants that are too old. -/
lemma Once.checkedAt (h : Once s) (p : SocketPrincipal) (now : Millis) :
    Once (s.checkedAt p now) := by
  have hnoted : Once (s.note (.checked p now)) := h.quiet rfl ⟨[_], rfl, by simp [Effect.admitted?]⟩
  refine ⟨fun p' hp' => ?_, hnoted.once⟩
  obtain ⟨iat, nonce, hiat, hnonce, hused⟩ := hnoted.used p' hp'
  refine ⟨iat, nonce, hiat, hnonce, ?_⟩
  rcases hused with hused | hold
  · by_cases hexpired : iat + SOCKET_GRANT_MAX_AGE_MS < now
    · exact .inr ⟨p, now, List.mem_cons_self, hexpired⟩
    · left
      refine Dict.get?_eq_some.mpr
        (mem_foldl_erase.mpr ⟨Dict.get?_eq_some.mp hused, fun hmem => ?_⟩)
      obtain ⟨⟨nonce', iat'⟩, hentry, rfl⟩ := List.mem_map.mp hmem
      obtain ⟨hin, hold⟩ := List.mem_filter.mp hentry
      obtain rfl := Dict.eq_of_mem (Dict.get?_eq_some.mp hused) hin
      exact hexpired (of_decide_eq_true hold)
  · exact .inr hold

lemma Once.useNonce (h : Once s) {p : SocketPrincipal}
    (hunused : s.usedNonces.get? (p.nonce.getD "") = none) : Once (s.useNonce p) := by
  refine ⟨fun p' hp' => ?_, h.once⟩
  obtain ⟨iat, nonce, hiat, hnonce, hused⟩ := h.used p' hp'
  refine ⟨iat, nonce, hiat, hnonce, hused.imp (fun hused => ?_) id⟩
  have hne : nonce ≠ p.nonce.getD "" := by
    rintro rfl
    rw [hunused] at hused
    cases hused
  exact (Dict.get?_set_ne hne).trans hused

/-- **A principal that is checked is new, or refused.** -/
lemma Once.connectAs (h : Once s) (o : Options) (env : Surroundings) (socketId : SocketId)
    (p : SocketPrincipal) (now : Millis) (hclock : ∀ q t, .checked q t ∈ s.log → t ≤ now) :
    Once (s.connectAs o env socketId p now) := by
  have hnoted : Once (s.note (.checked p now)) := h.quiet rfl ⟨[_], rfl, by simp [Effect.admitted?]⟩
  have hchecked := h.checkedAt p now
  rcases connectAs_cases o env s socketId p now with hi | hi | hi |
    ⟨-, hverdict, hunused, hi | heq⟩
  · exact h.inherits hi
  · exact hnoted.inherits hi
  · exact hchecked.inherits hi
  · exact (hchecked.useNonce hunused).inherits hi
  · obtain ⟨iat, nonce, hprincipal, hyoung, hold⟩ := verifySocketPrincipal_eq_ok.mp hverdict
    have hiat : p.iat = some iat := congrArg SocketPrincipal.iat hprincipal
    have hnonce : p.nonce = some nonce := congrArg SocketPrincipal.nonce hprincipal
    have hadmissions : admissions (s.connectAs o env socketId p now) =
        p :: admissions (s.checkedAt p now) := by
      rw [heq]
      rfl
    have hold' := hchecked.useNonce hunused
    refine ⟨fun p' hp' => ?_, ?_⟩
    · rw [hadmissions, List.mem_cons] at hp'
      rcases hp' with rfl | hp'
      · refine ⟨iat, nonce, hiat, hnonce, .inl ?_⟩
        rw [heq]
        change ((s.checkedAt p' now).usedNonces.set (p'.nonce.getD "") (p'.iat.getD 0)).get?
          nonce = some iat
        rw [hnonce, hiat]
        exact Dict.get?_set_self
      · obtain ⟨iat', nonce', hiat', hnonce', hused⟩ := hold'.used p' hp'
        refine ⟨iat', nonce', hiat', hnonce', hused.imp (fun hused => by rw [heq]; exact hused) ?_⟩
        rintro ⟨q, t, hmem, hexpired⟩
        exact ⟨q, t, by rw [heq]; exact List.mem_cons_of_mem _ hmem, hexpired⟩
    · rw [hadmissions]
      refine List.nodup_cons.mpr ⟨fun hp => ?_, hchecked.once⟩
      obtain ⟨iat', nonce', hiat', hnonce', hused⟩ := hchecked.used p hp
      obtain rfl := Option.some.inj (hiat.symm.trans hiat')
      obtain rfl := Option.some.inj (hnonce.symm.trans hnonce')
      rcases hused with hused | ⟨q, t, hmem, hexpired⟩
      · rw [hnonce, Option.getD_some, hused] at hunused
        cases hunused
      · have ht : t ≤ now := by
          rcases List.mem_cons.mp hmem with hself | hmem
          · exact (Effect.checked.inj hself).2.le
          · exact hclock q t hmem
        omega

lemma Once.run (h : Once s) (env : Surroundings) (w : Work) {rolledBack : Bool}
    (hclock : ClockRuns s (.work env w rolledBack)) : Once (w.run o s env) := by
  rcases run_cases o env s w with hi | ⟨identity, now, random, s₁, -, hi, heq⟩ |
    ⟨socketId, metadata, now, p, s₁, rfl, -, hi, heq⟩
  · exact h.inherits hi
  · rw [heq]
    exact (h.inherits hi).quiet rfl ⟨[_], rfl, by simp [Effect.admitted?]⟩
  · rw [heq]
    refine (h.inherits hi).connectAs o env socketId p now fun q t hmem => ?_
    obtain ⟨newer, hnewer, hquiet⟩ := hi.log
    rw [hnewer, List.mem_append] at hmem
    rcases hmem with hmem | hmem
    · exact absurd (hquiet _ hmem) (by simp [Effect.quiet])
    · exact hclock.le hmem

/-! ## Every run -/

/-- A call never rewrites what has happened. -/
lemma log_grows (o : Options) (env : Surroundings) (s : ActorRealtime) (w : Work) :
    ∃ newer, (w.run o s env).log = newer ++ s.log := by
  rcases run_outcome o env s w with hbars | ⟨identity, now, random, s₁, hbars, heq⟩ |
    ⟨socketId, metadata, now, p, s₁, -, -, hbars, -, -, -, hlog⟩
  · obtain ⟨newer, hnewer, -⟩ := hbars.log
    exact ⟨newer, hnewer⟩
  · obtain ⟨newer, hnewer, -⟩ := hbars.log
    exact ⟨_ :: newer, by rw [heq]; exact congrArg (_ :: ·) hnewer⟩
  · obtain ⟨newer, hnewer, -⟩ := hbars.log
    exact ⟨_ :: _ :: newer, by rw [hlog, hnewer]; rfl⟩

lemma mem_log_step {c : Call} (hstep : c.step o s = some s') {e : Effect} (he : e ∈ s.log) :
    e ∈ s'.log := by
  cases c with
  | work env w rolledBack =>
    obtain ⟨newer, hnewer⟩ := log_grows o env s w
    obtain rfl := Option.some.inj hstep
    have hmem : e ∈ (w.run o s env).log := by
      rw [hnewer]
      exact List.mem_append_right _ he
    cases rolledBack <;> exact hmem
  | sleep =>
    obtain rfl := Option.some.inj hstep
    exact List.mem_cons_of_mem _ he

/-- Rolling the table back makes nothing known that was not admitted. -/
lemma Admitted.step (h : Admitted o s) {c : Call} (hstep : c.step o s = some s') :
    Admitted o s' := by
  cases c with
  | work env w rolledBack =>
    have hrun := h.run env w
    obtain rfl := Option.some.inj hstep
    cases rolledBack with
    | false => exact hrun
    | true =>
      refine ⟨fun x hx => ?_, hrun.verified⟩
      rw [mem_known] at hx
      rcases hx with hx | hx | hx
      · exact hrun.known x (mem_known.mpr (.inl hx))
      · exact hrun.known x (mem_known.mpr (.inr (.inl hx)))
      · obtain ⟨p, now, hmem, hidentity⟩ := h.known x (mem_known.mpr (.inr (.inr hx)))
        obtain ⟨newer, hnewer⟩ := log_grows o env s w
        refine ⟨p, now, ?_, hidentity⟩
        change _ ∈ (w.run o s env).log
        rw [hnewer]
        exact List.mem_append_right _ hmem
  | sleep =>
    obtain rfl := Option.some.inj hstep
    refine ⟨fun x hx => ?_, fun id p now hmem => ?_⟩
    · rw [mem_known] at hx
      rcases hx with hx | hx | hx
      · cases hx
      · cases hx
      · obtain ⟨p, now, hmem, hidentity⟩ := h.known x (mem_known.mpr (.inr (.inr hx)))
        exact ⟨p, now, List.mem_cons_of_mem _ hmem, hidentity⟩
    · rcases List.mem_cons.mp hmem with hrestarted | hmem
      · cases hrestarted
      · exact h.verified id p now hmem

lemma Genuine.step (h : Genuine o s) {c : Call} (hunforged : Unforged o s c)
    (hstep : c.step o s = some s') : Genuine o s' := by
  cases c with
  | work env w rolledBack =>
    have hrun := h.run env w hunforged
    obtain rfl := Option.some.inj hstep
    cases rolledBack <;> exact ⟨hrun.signed, hrun.granted⟩
  | sleep =>
    obtain rfl := Option.some.inj hstep
    refine ⟨fun q hmem => ?_, fun id p now hmem => ?_⟩
    · rcases List.mem_cons.mp hmem with hrestarted | hmem
      · cases hrestarted
      · exact h.signed q hmem
    · rcases List.mem_cons.mp hmem with hrestarted | hmem
      · cases hrestarted
      · obtain ⟨q, hgranted, hprincipal⟩ := h.granted id p now hmem
        exact ⟨q, List.mem_cons_of_mem _ hgranted, hprincipal⟩

lemma Once.step (h : Once s) {c : Call} (hclock : ClockRuns s c) (hstep : c.step o s = some s') :
    Once s' := by
  cases c with
  | work env w rolledBack =>
    have hrun : Once (w.run o s env) := h.run env w hclock
    obtain rfl := Option.some.inj hstep
    cases rolledBack <;> exact ⟨hrun.used, hrun.once⟩
  | sleep =>
    obtain rfl := Option.some.inj hstep
    have hnone : admissions { ActorRealtime.start with
        table := s.table, log := .restarted :: s.log } = [] := by
      simp [admissions]
    exact ⟨fun p hp => by simp [hnone] at hp, by simp [hnone]⟩

/-- Along a run whose codes are not made up, what is known was admitted, and genuinely. -/
lemma admitted_genuine {calls : List Call} (hrun : run (Call.step o) .start calls = some s)
    (hunforged : Along (Call.step o) (Unforged o) .start calls) : Admitted o s ∧ Genuine o s := by
  refine along_induction (I := fun s => Admitted o s ∧ Genuine o s)
    (fun s c s' h hC hstep => ⟨h.1.step hstep, h.2.step hC hstep⟩) ?_ hunforged hrun
  refine ⟨⟨fun x hx => ?_, fun id p now hmem => ?_⟩, fun q hmem => ?_, fun id p now hmem => ?_⟩
  · cases hx
  · cases hmem
  · cases hmem
  · cases hmem

/-- **While the actor is awake, no grant lets two sockets in**, if its clock does not run
backwards. -/
theorem admitted_once {calls : List Call} (hrun : run (Call.step o) .start calls = some s)
    (hclock : Along (Call.step o) ClockRuns .start calls) : (admissions s).Nodup := by
  have hstart : Once ActorRealtime.start :=
    ⟨fun p hp => by simp [admissions, ActorRealtime.start] at hp,
      by simp [admissions, ActorRealtime.start]⟩
  exact (along_induction (I := Once) (fun s c s' h hC hstep => h.step hC hstep) hstart hclock
    hrun).once

/-! ## A run -/

/-- An actor with a node. -/
def demoOptions : Options := ⟨"ws", "secret", fun _ _ => List.replicate 32 0⟩

/-- What its calls find. -/
def demoSurroundings (connections : List SocketId) : Surroundings where
  connections := connections
  db := ⟨[("ws", none)], [("ws", "n1")], []⟩
  readings _ := ⟨0, 0⟩
  dropped _ _ := false
  bound _ := false
  insertedAt := 0

/-- The grant of the node. -/
def demoGrant : SignedSocketPrincipal :=
  signSocketPrincipal demoOptions.hmacSha256 demoOptions.grantSecret (.node "ws" "n1") 1000
    (List.replicate 16 7)

/-- The node is granted a socket, and connects; a second socket comes with the same grant.  The
actor sleeps, and wakes up with a frame of the first one. -/
def demoCalls : List Call :=
  [.work (demoSurroundings []) (.upgrade (.node "ws" "n1") 1000 (List.replicate 16 7)) false,
    .work (demoSurroundings []) (.connect "s1" (some demoGrant.metadata) 2000) false,
    .work (demoSurroundings ["s1"]) (.connect "s2" (some demoGrant.metadata) 3000) false,
    .sleep,
    .work (demoSurroundings ["s1"]) (.message "s1" (fun _ => false) none) false]

lemma demo_run : ∃ s, run (Call.step demoOptions) .start demoCalls = some s ∧
    ("s1", .node "ws" "n1") ∈ s.known ∧
      .rejected "s2" UNAUTHORIZED_CLOSE_CODE "socket grant already used" ∈ s.log := by
  have hany : (run (Call.step demoOptions) .start demoCalls).any (fun s =>
      s.known.contains ("s1", .node "ws" "n1") &&
        s.log.contains (.rejected "s2" UNAUTHORIZED_CLOSE_CODE "socket grant already used")) =
      true := by decide +kernel
  obtain ⟨s, hrun, hs⟩ := Option.any_eq_true _ _ |>.mp hany
  rw [Bool.and_eq_true, List.contains_iff_mem, List.contains_iff_mem] at hs
  exact ⟨s, hrun, hs.1, hs.2⟩

lemma unforged_of_none {c : Call} (h : c.presented? = none) : Unforged o s c := by
  intro identity iat nonce hpresented
  rw [h] at hpresented
  cases hpresented

/-- A grant that is presented as it was made is not made up. -/
lemma unforged_of_granted {q : SignedSocketPrincipal} (hfits : q.Fits) (hmem : .granted q ∈ s.log)
    {socketId : SocketId} {now : Millis} {rolledBack : Bool} :
    Unforged o s (.work env (.connect socketId (some q.metadata) now) rolledBack) := by
  intro identity iat nonce hpresented
  have hparsed : some q.principal = some _ := (safeParse_metadata hfits).symm.trans hpresented
  have hprincipal := Option.some.inj hparsed
  obtain rfl : q.identity = identity := congrArg SocketPrincipal.identity hprincipal
  obtain rfl : q.iat = iat := Option.some.inj (congrArg SocketPrincipal.iat hprincipal)
  obtain rfl : q.nonce = nonce := Option.some.inj (congrArg SocketPrincipal.nonce hprincipal)
  exact ⟨q, hmem, rfl⟩

/-- And the second was refused. -/
theorem admitted_once_demo : ∃ s, run (Call.step demoOptions) .start demoCalls = some s ∧
    (admissions s).Nodup := by
  obtain ⟨s, hrun, -⟩ := demo_run
  exact ⟨s, hrun, admitted_once hrun (by decide +kernel)⟩

end Grant
