import Relaycast.EventLog.Batches

/-!
# A client that pages through the log

A page is the lowest rows after the client's last number, so nothing at or below the last number of
a page is missing from it; and what is stored later has a higher number than anything before it.  A
client that pages by the last number it has seen therefore receives every row at or below that
number that is still there, each once and in order (`follow_complete`).
-/

namespace EventLog

open Relational Interleaving

/-! ## One page -/

section Page

variable {log : Log} {X : WorkspaceId} {since limit : ℕ} {r : Row}

/-- The rows a page is taken from. -/
def Log.after (log : Log) (X : WorkspaceId) (since : ℕ) : List Row :=
  (log.select fun r => r.workspaceId == X && decide (since < r.seq)).insertionSort
    fun r r' => r.seq ≤ r'.seq

lemma Log.mem_after : r ∈ log.after X since ↔ r ∈ log ∧ r.workspaceId = X ∧ since < r.seq := by
  simp [Log.after]

lemma Log.pairwise_after (log : Log) (X : WorkspaceId) (since : ℕ) :
    (log.after X since).Pairwise fun r r' => r.seq < r'.seq := by
  have : Std.Total fun r r' : Row => r.seq ≤ r'.seq := ⟨fun r r' => le_total r.seq r'.seq⟩
  have : IsTrans Row fun r r' => r.seq ≤ r'.seq := ⟨fun _ _ _ => le_trans⟩
  have hsorted : (log.after X since).Pairwise fun r r' => r.seq ≤ r'.seq :=
    List.pairwise_insertionSort _ _
  have hkeys : ((log.after X since).map key).Nodup := by
    have hnodup : (log.rows.map key).Nodup := log.nodup_map fun _ _ h => beq_iff_eq.mpr h
    exact ((List.perm_insertionSort _ _).map key).nodup_iff.mpr
      ((List.filter_sublist.map key).nodup hnodup)
  refine (hsorted.and (List.pairwise_map.mp hkeys)).imp_of_mem fun {r r'} hr hr' h => ?_
  refine lt_of_le_of_ne h.1 fun heq => h.2 ?_
  exact Prod.ext ((Log.mem_after.mp hr).2.1.trans (Log.mem_after.mp hr').2.1.symm) heq

lemma Log.page_eq : log.page X since limit = (log.after X since).take limit := rfl

/-- The last number of a page, or the one the client had. -/
lemma lastSeen_map (since : ℕ) (rows : List Row) :
    lastSeen since (rows.map Row.record) = (rows.getLast?.map Row.seq).getD since := by
  rw [lastSeen, List.getLast?_map, Option.map_map]
  rfl

/-- Nothing up to its last number is missing from a page. -/
lemma Log.mem_page (hr : r ∈ log.after X since)
    (hle : r.seq ≤ lastSeen since ((log.page X since limit).map Row.record)) :
    r ∈ log.page X since limit := by
  have hpairs := log.pairwise_after X since
  have hsplit : (log.after X since).take limit ++ (log.after X since).drop limit =
      log.after X since := List.take_append_drop _ _
  rw [← hsplit] at hr hpairs
  rcases List.mem_append.mp hr with hr | hr
  · exact hr
  · rw [lastSeen_map, Log.page_eq] at hle
    cases hlast : ((log.after X since).take limit).getLast? with
    | none =>
      rw [hlast] at hle
      have hlt := (Log.mem_after.mp (List.mem_of_mem_drop hr)).2.2
      exact absurd hle (Nat.not_le.mpr hlt)
    | some r' =>
      rw [hlast] at hle
      have hlt := (List.pairwise_append.mp hpairs).2.2 r' (List.mem_of_getLast? hlast) r hr
      exact absurd hle (Nat.not_le.mpr hlt)

end Page

/-! ## What a client has received -/

/-- What a client that started after `since` has received when it stands at `cursor`: rows of the
log, in the order of their numbers, and every one that is still there up to `cursor`. -/
structure Followed (own : List (Event lang Log)) (log : Log) (X : WorkspaceId) (since : ℕ)
    (received : List EventRecord) (cursor : ℕ) : Prop where
  /-- Each was in the log when the client read it. -/
  genuine : ∀ x ∈ received, ∃ e ∈ own, ∃ r ∈ e.before, r.workspaceId = X ∧ r.record = x
  /-- None is received twice, and they come in order. -/
  ordered : (received.map EventRecord.seq).Pairwise (· < ·)
  within : ∀ x ∈ received, since < x.seq ∧ x.seq ≤ cursor
  /-- None that is still in the log has been missed. -/
  complete : ∀ r ∈ log, r.workspaceId = X → since < r.seq → r.seq ≤ cursor → r.record ∈ received
  reached : cursor = since ∨ (since ≤ cursor ∧ cursor ≤ log.highWater X)

namespace Followed

variable {own own' : List (Event lang Log)} {log log' : Log} {X : WorkspaceId} {since cursor : ℕ}
  {received : List EventRecord}

/-- What is stored later has a higher number. -/
lemma moved (h : Followed own log X since received cursor) (hown : own ⊆ own')
    (hlog : Extends log log') : Followed own' log' X since received cursor where
  genuine x hx := by
    obtain ⟨e, he, hrow⟩ := h.genuine x hx
    exact ⟨e, hown he, hrow⟩
  ordered := h.ordered
  within := h.within
  complete r hr hX hlt hle := by
    rcases hlog.newer r hr with hr | hhigh
    · exact h.complete r hr hX hlt hle
    · rcases h.reached with rfl | ⟨-, hreached⟩
      · omega
      · rw [hX] at hhigh
        omega
  reached := by
    rcases h.reached with hnone | ⟨hle, hreached⟩
    · exact .inl hnone
    · exact .inr ⟨hle, Nat.le_trans hreached (hlog.kept X)⟩

/-- A client that has received nothing. -/
lemma start : Followed own log X since [] since where
  genuine := by simp
  ordered := by simp
  within := by simp
  complete r _ _ hlt hle := by omega
  reached := .inl rfl

/-- One piece after another. -/
lemma append {middle : ℕ} {more : List EventRecord} (h : Followed own log X since received middle)
    (h' : Followed own log X middle more cursor) :
    Followed own log X since (received ++ more) cursor := by
  have hmiddle : since ≤ middle := by
    rcases h.reached with heq | ⟨hle, -⟩
    · exact Nat.le_of_eq heq.symm
    · exact hle
  have hcursor : middle ≤ cursor := by
    rcases h'.reached with heq | ⟨hle, -⟩
    · exact Nat.le_of_eq heq.symm
    · exact hle
  refine ⟨fun x hx => ?_, ?_, fun x hx => ?_, fun r hr hX hlt hle => ?_, ?_⟩
  · rcases List.mem_append.mp hx with hx | hx
    · exact h.genuine x hx
    · exact h'.genuine x hx
  · rw [List.map_append]
    refine List.pairwise_append.mpr ⟨h.ordered, h'.ordered, fun n hn n' hn' => ?_⟩
    obtain ⟨x, hx, rfl⟩ := List.mem_map.mp hn
    obtain ⟨x', hx', rfl⟩ := List.mem_map.mp hn'
    exact Nat.lt_of_le_of_lt (h.within x hx).2 (h'.within x' hx').1
  · rcases List.mem_append.mp hx with hx | hx
    · have hwithin := h.within x hx
      omega
    · have hwithin := h'.within x hx
      omega
  · rcases Nat.lt_or_ge middle r.seq with hbeyond | hwithin
    · exact List.mem_append_right _ (h'.complete r hr hX hbeyond hle)
    · exact List.mem_append_left _ (h.complete r hr hX hlt hwithin)
  · rcases h'.reached with rfl | ⟨-, hreached⟩
    · exact h.reached
    · exact .inr ⟨Nat.le_trans hmiddle hcursor, hreached⟩

/-- A page. -/
lemma page {limit : ℕ} {e : Event lang Log} (he : e ∈ own) (hlog : e.before = log) :
    Followed own log X since ((log.page X since limit).map Row.record)
      (lastSeen since ((log.page X since limit).map Row.record)) := by
  have hmem : ∀ r ∈ log.page X since limit, r ∈ log ∧ r.workspaceId = X ∧ since < r.seq :=
    fun r hr => Log.mem_after.mp (List.mem_of_mem_take hr)
  have hpairs : (log.page X since limit).Pairwise fun r r' => r.seq < r'.seq :=
    (log.pairwise_after X since).sublist (List.take_sublist _ _)
  have hlast : ∀ r ∈ log.page X since limit,
      r.seq ≤ lastSeen since ((log.page X since limit).map Row.record) := by
    intro r hr
    rw [lastSeen_map]
    obtain ⟨before, r', hbefore⟩ :=
      (List.eq_nil_or_concat' (log.page X since limit)).resolve_left (List.ne_nil_of_mem hr)
    rw [hbefore] at hr hpairs ⊢
    rw [List.getLast?_concat]
    rcases List.mem_append.mp hr with hr | hr
    · exact Nat.le_of_lt ((List.pairwise_append.mp hpairs).2.2 r hr r' (by simp))
    · obtain rfl := List.mem_singleton.mp hr
      exact Nat.le_refl _
  refine ⟨fun x hx => ?_, ?_, fun x hx => ?_, fun r hr hX hlt hle => ?_, ?_⟩
  · obtain ⟨r, hr, rfl⟩ := List.mem_map.mp hx
    exact ⟨e, he, r, hlog ▸ (hmem r hr).1, (hmem r hr).2.1, rfl⟩
  · rw [List.map_map]
    exact List.pairwise_map.mpr hpairs
  · obtain ⟨r, hr, rfl⟩ := List.mem_map.mp hx
    exact ⟨(hmem r hr).2.2, hlast r hr⟩
  · exact List.mem_map.mpr ⟨r, Log.mem_page (Log.mem_after.mpr ⟨hr, hX, hlt⟩) hle, rfl⟩
  · rw [lastSeen_map]
    cases hget : (log.page X since limit).getLast? with
    | none => exact .inl rfl
    | some r =>
      obtain ⟨hr, rfl, hlt⟩ := hmem r (List.mem_of_getLast? hget)
      exact .inr ⟨Nat.le_of_lt hlt, Log.seq_le_highWater hr⟩

end Followed

/-! ## Every run -/

variable {permits : World lang Log → ℕ → Stmt → Prop} {i : ℕ} {X : WorkspaceId}

/-- A read of the log that is not the page. -/
lemma latestSeq_safe {α : Type} {Q : α → World lang Log → Prop}
    {f : Except Fault ℕ → Prog lang α} {w : World lang Log}
    (h : ∀ r w', w.eventsOf i ⊆ w'.eventsOf i → Extends w.store w'.store →
      growing.Safe machine permits i Q (f r) w') :
    growing.Safe machine permits i Q (await (.latestSeq X) >>= f) w := by
  refine Shared.Safe.ask fun w₁ hown hmoved _ _ a => ⟨growing_after w₁ i (.latestSeq X) a, ?_⟩
  intro r _
  refine h r _ (fun e he => ?_) (hmoved.trans (growing_after w₁ i (.latestSeq X) a).2)
  rw [World.eventsOf_after_self, hown]
  exact List.mem_cons_of_mem _ he

/-- What a page request returns with, from the world `w₀`. -/
structure PageRead (i : ℕ) (X : WorkspaceId) (since : ℕ) (w₀ : World lang Log)
    (result : Except Fault (List EventRecord)) (w : World lang Log) : Prop where
  own : w₀.eventsOf i ⊆ w.eventsOf i
  moved : Extends w₀.store w.store
  page : ∀ events, result = .ok events →
    Followed (w.eventsOf i) w.store X since events (lastSeen since events)

lemma PageRead.of_moved {since : ℕ} {w₀ w w' : World lang Log}
    {result : Except Fault (List EventRecord)} (h : PageRead i X since w₀ result w)
    (hown : w.eventsOf i ⊆ w'.eventsOf i) (hmoved : Extends w.store w'.store) :
    PageRead i X since w₀ result w' where
  own := fun _ he => hown (h.own he)
  moved := h.moved.trans hmoved
  page events hevents := (h.page events hevents).moved hown hmoved

/-- The read of a page. -/
lemma page_safe {α : Type} {Q : α → World lang Log → Prop} {since limit : ℕ}
    {f : Except Fault (List Row) → Prog lang α} {w : World lang Log}
    (h : ∀ rows w', PageRead i X since w (rows.map (List.map Row.record)) w' →
      growing.Safe machine permits i Q (f rows) w') :
    growing.Safe machine permits i Q (await (.page X since limit) >>= f) w := by
  refine Shared.Safe.ask fun w₁ hown hmoved _ _ a =>
    ⟨growing_after w₁ i (.page X since limit) a, ?_⟩
  rintro rows rfl
  refine h _ _ ⟨fun e he => ?_, hmoved.trans (growing_after w₁ i (.page X since limit) a).2,
    fun events hevents => ?_⟩
  · rw [World.eventsOf_after_self, hown]
    exact List.mem_cons_of_mem _ he
  · change (orFault a (w₁.store.page X since limit)).map (List.map Row.record) = .ok events
      at hevents
    cases a with
    | some f => cases hevents
    | none =>
      obtain rfl := Except.ok.inj hevents
      exact Followed.page (e := w₁.event machine i (.page X since limit) none)
        (World.event_mem_eventsOf _ _ _ _ _) rfl

lemma listWorkspaceEvents_safe (since limit : Option ℤ) (latestFirst : Bool) (w : World lang Log) :
    growing.Safe machine permits i
      (fun result w' => PageRead i X (max 0 (since.getD 0)).toNat w (result.map Prod.fst) w')
      (listWorkspaceEvents X since limit latestFirst) w := by
  have hdone : ∀ (rows : Except Fault (List Row)) (late : Except Fault ℕ) (w' : World lang Log),
      PageRead i X (max 0 (since.getD 0)).toNat w (rows.map (List.map Row.record)) w' →
      growing.Safe machine permits i
        (fun result w' => PageRead i X (max 0 (since.getD 0)).toNat w (result.map Prod.fst) w')
        (listed rows late) w' := by
    intro rows late w' h
    cases rows with
    | error f => exact ⟨h.own, h.moved, fun _ hevents => by cases hevents⟩
    | ok rows =>
      cases late with
      | error f => exact ⟨h.own, h.moved, fun _ hevents => by cases hevents⟩
      | ok latestSeq => exact h
  unfold listWorkspaceEvents
  cases latestFirst with
  | true =>
    refine latestSeq_safe fun early w₁ hown hmoved => ?_
    refine page_safe fun rows w₂ h₂ => hdone rows early w₂ ?_
    exact ⟨fun _ he => h₂.own (hown he), hmoved.trans h₂.moved, h₂.page⟩
  | false =>
    refine page_safe fun rows w₁ h₁ => ?_
    exact latestSeq_safe fun late w₂ hown hmoved => hdone rows late w₂ (h₁.of_moved hown hmoved)

/-- **A client never misses a row that is still there.** -/
lemma follow_safe (requests : List PageRequest) (since : ℕ) (w : World lang Log) :
    growing.Safe machine permits i
      (fun result w' => w.eventsOf i ⊆ w'.eventsOf i ∧ Extends w.store w'.store ∧
        Followed (w'.eventsOf i) w'.store X since result.1 result.2)
      (follow X requests since) w := by
  induction requests generalizing since w with
  | nil => exact ⟨fun _ he => he, Extends.refl _, Followed.start⟩
  | cons request rest ih =>
    refine Shared.Safe.then (listWorkspaceEvents_safe (some since) request.limit
      request.latestFirst w) fun page w₁ h₁ => ?_
    have hsince : (max 0 ((some (since : ℤ)).getD 0)).toNat = since := by simp
    rw [hsince] at h₁
    cases page with
    | error f => exact ⟨h₁.own, h₁.moved, Followed.start⟩
    | ok page =>
      have hpage := h₁.page page.1 rfl
      refine Shared.Safe.then (ih (lastSeen since page.1) w₁) fun more w₂ h₂ => ?_
      obtain ⟨hown, hmoved, hmore⟩ := h₂
      exact ⟨fun _ he => hown (h₁.own he), h₁.moved.trans hmoved,
        (hpage.moved hown hmoved).append hmore⟩

/-- What a call returns with, where it is a client. -/
def FollowPost : (c : Call) → ℕ → c.Result → World lang Log → Prop
  | .follow X since _, i, result, w => Followed (w.eventsOf i) w.store X since result.1 result.2
  | _, _, _, _ => True

/-- **A client that pages through a log receives every row up to the last number it has seen that is
still there, each once and in the order of the numbers**, whatever is appended and deleted in the
meantime. -/
theorem follow_complete {g : Config lang Log Call.Result}
    (h : service.Reachable (Regime.free lang Log Call) g) {i : ℕ} {X : WorkspaceId} {since : ℕ}
    {requests : List PageRequest} {received : List EventRecord} {cursor : ℕ}
    (hi : g.threads[i]? = some ⟨.follow X since requests, some (.done (received, cursor))⟩) :
    Followed (g.world.eventsOf i) g.world.store X since received cursor := by
  have hcall : ∀ (c : Call) (j : ℕ) (w : World lang Log),
      growing.Safe machine (Regime.free lang Log Call).permits j (FollowPost c j) c.body w := by
    intro c j w
    have hplain : growing.Safe machine (Regime.free lang Log Call).permits j (fun _ _ => True)
        c.body w :=
      Shared.Safe.of_issues (Prog.issues_true _) (fun w q _ _ _ a => growing_after w j q a) w
    cases c with
    | follow X since requests => exact (follow_safe requests since w).weaken fun _ _ h => h.2.2
    | _ => exact hplain
  obtain ⟨-, hreturned⟩ := Shared.sound (H := growing) (Q := FollowPost) (fun _ _ => trivial)
    (fun _ _ _ => trivial) (fun (d : Empty) => d.elim) (fun c _ j w _ _ => hcall c j w) h
  obtain ⟨w₀, hown, hmoved, hpost⟩ := hreturned i _ _ hi
  exact hpost.moved (fun _ he => hown ▸ he) hmoved

/-- The client of the run with a deletion. -/
theorem follow_complete_mixed :
    Followed (mixedRun.world.eventsOf 1) mixedRun.world.store "w" 0
      [⟨1, "a", none, "1", 0⟩, ⟨2, "c", none, "3", 0⟩, ⟨3, "d", none, "4", 0⟩] 3 :=
  follow_complete mixedRun_reachable rfl

end EventLog
