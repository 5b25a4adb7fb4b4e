import Mathlib.Data.List.Dedup
import Mathlib.Data.List.TakeWhile
import Relaycast.Relational.Timestamp
import Relaycast.Script.ObjectText

/-!
# Waiting for a delivery

A request for the deliveries of an agent that finds none can wait for one.
`InProcessDeliveryWaiters` holds the waiting requests under a key of their agent, and the recent
times at which an agent was notified: a request whose reading began before a notification, and which
registers after it, is not made to wait.  Times are remembered for a minute, oldest first.
-/

namespace LongPoll

open Script Relational

abbrev PollId := ℕ

/-- `MAX_DELIVERY_WAIT_MS`. -/
def MAX_DELIVERY_WAIT_MS : ℕ := 25000

/-- `DELIVERY_NOTIFY_MEMORY_MS`. -/
def DELIVERY_NOTIFY_MEMORY_MS : ℕ := 60000

/-- `waiterKey`. -/
def waiterKey (workspaceId agentId : String) : String := workspaceId ++ "\u0000" ++ agentId

/-- What a wait is resolved with. -/
inductive Outcome
  | notified
  | timeout
  deriving DecidableEq

/-- `InProcessDeliveryWaiters`. -/
structure DeliveryWaiters where
  waiters : Dict (List PollId)
  lastNotified : Dict Millis
  closed : Bool

/-- `DeliveryWaitArgs`. -/
structure WaitArgs where
  workspaceId : String
  agentId : String
  since : Millis
  timeoutMs : ℕ
  aborted : Bool

namespace DeliveryWaiters

/-- No request waits, and none was notified. -/
def start : DeliveryWaiters := ⟨.empty, .empty, false⟩

variable (w : DeliveryWaiters)

/-- The requests that wait under a key. -/
def waiting (key : String) : List PollId := (w.waiters.get? key).getD []

/-- A request is registered. -/
def register (key : String) (poll : PollId) : DeliveryWaiters :=
  { w with waiters := w.waiters.set key (w.waiting key ++ [poll]) }

/-- `wait`, of a request that is resolved at once or else registered. -/
def wait (args : WaitArgs) (poll : PollId) : Outcome ⊕ DeliveryWaiters :=
  let key := waiterKey args.workspaceId args.agentId
  if w.closed || args.aborted || args.timeoutMs == 0 then .inl .timeout
  else if (w.lastNotified.get? key).any fun at' => decide (args.since ≤ at') then .inl .notified
  else .inr (w.register key poll)

/-- `finish`: the request no longer waits. -/
def finish (key : String) (poll : PollId) : DeliveryWaiters :=
  let set := (w.waiting key).filter (· != poll)
  { w with waiters := if set = [] then w.waiters.erase key else w.waiters.set key set }

/-- `finish`, of all that wait under a key. -/
def finishAll (key : String) : DeliveryWaiters :=
  (w.waiting key).foldl (fun w poll => w.finish key poll) w

/-- Times too old to be remembered are forgotten, up to the first that is not. -/
def prune (now : Millis) : DeliveryWaiters :=
  let old := w.lastNotified.entries.takeWhile fun entry =>
    decide (DELIVERY_NOTIFY_MEMORY_MS < now - entry.2)
  { w with lastNotified := (old.map Prod.fst).foldl Dict.erase w.lastNotified }

/-- An agent is notified. -/
def notifyKey (now : Millis) (key : String) : DeliveryWaiters :=
  { w with lastNotified := (w.lastNotified.erase key).set key now }.finishAll key

/-- The keys of a notification. -/
def notifyKeys (workspaceId : String) (agentIds : List String) : List String :=
  agentIds.eraseDups.map (waiterKey workspaceId)

/-- `notify`. -/
def notify (now : Millis) (workspaceId : String) (agentIds : List String) : DeliveryWaiters :=
  (notifyKeys workspaceId agentIds).foldl (fun w key => w.notifyKey now key) (w.prune now)

/-- `close`. -/
def close : DeliveryWaiters :=
  (w.waiters.entries.map Prod.fst).foldl finishAll { w with closed := true }

/-! ## The requests that wait -/

variable {w} {key key' : String} {poll : PollId} {now : Millis}

lemma mem_waiting : poll ∈ w.waiting key ↔ ∃ set, (key, set) ∈ w.waiters.entries ∧ poll ∈ set := by
  unfold waiting
  constructor
  · intro hmem
    cases hget : w.waiters.get? key with
    | none => simp [hget] at hmem
    | some set => exact ⟨set, Dict.get?_eq_some.mp hget, by simpa [hget] using hmem⟩
  · rintro ⟨set, hset, hmem⟩
    rwa [Dict.get?_eq_some.mpr hset]

/-- Nothing is kept for a key under which no request waits, and no request waits twice. -/
structure Tidy (w : DeliveryWaiters) : Prop where
  nonempty : ∀ entry ∈ w.waiters.entries, entry.2 ≠ []
  nodup : ∀ entry ∈ w.waiters.entries, entry.2.Nodup

lemma Tidy.start : Tidy .start := ⟨fun _ h => absurd h List.not_mem_nil,
  fun _ h => absurd h List.not_mem_nil⟩

lemma Tidy.waiting_nodup (h : w.Tidy) : (w.waiting key).Nodup := by
  unfold waiting
  cases hget : w.waiters.get? key with
  | none => exact List.nodup_nil
  | some set => exact h.nodup _ (Dict.get?_eq_some.mp hget)

@[simp] lemma finish_lastNotified : (w.finish key poll).lastNotified = w.lastNotified := rfl

@[simp] lemma finish_closed : (w.finish key poll).closed = w.closed := rfl

lemma waiting_finish : (w.finish key poll).waiting key' =
    if key' = key then (w.waiting key).filter (· != poll) else w.waiting key' := by
  by_cases hkey : key' = key
  · rw [if_pos hkey, hkey, waiting, finish]
    dsimp only
    split_ifs with hempty
    · rw [Dict.get?_erase_self, hempty, Option.getD_none]
    · rw [Dict.get?_set_self, Option.getD_some]
  · rw [if_neg hkey, waiting, waiting, finish]
    dsimp only
    split_ifs with hempty
    · rw [Dict.get?_erase_ne hkey]
    · rw [Dict.get?_set_ne hkey]

lemma Tidy.finish (h : w.Tidy) : (w.finish key poll).Tidy := by
  unfold DeliveryWaiters.finish
  dsimp only
  split_ifs with hempty
  · exact ⟨fun entry hentry => h.nonempty entry (Dict.mem_erase.mp hentry).2,
      fun entry hentry => h.nodup entry (Dict.mem_erase.mp hentry).2⟩
  · constructor <;> rintro ⟨k, set⟩ hentry
    · obtain ⟨-, rfl⟩ | ⟨-, hold⟩ := Dict.mem_set.mp hentry
      · exact hempty
      · exact h.nonempty _ hold
    · obtain ⟨-, rfl⟩ | ⟨-, hold⟩ := Dict.mem_set.mp hentry
      · exact h.waiting_nodup.filter _
      · exact h.nodup _ hold

lemma foldl_finish (polls : List PollId) (w : DeliveryWaiters) :
    (polls.foldl (fun w poll => w.finish key poll) w).waiting key' =
      if key' = key then (w.waiting key).filter (decide <| · ∉ polls) else w.waiting key' := by
  induction polls generalizing w with
  | nil =>
    split_ifs with hkey
    · simp [hkey]
    · rfl
  | cons poll polls ih =>
    rw [List.foldl_cons, ih, waiting_finish, waiting_finish, if_pos rfl]
    split_ifs with hkey
    · rw [List.filter_filter]
      refine List.filter_congr fun x _ => ?_
      by_cases hx : x = poll <;> simp [hx]
    · rfl

/-- No request waits under the key any more; the others wait as before. -/
lemma waiting_finishAll :
    (w.finishAll key).waiting key' = if key' = key then [] else w.waiting key' := by
  rw [finishAll, foldl_finish]
  refine if_congr Iff.rfl ?_ rfl
  exact List.filter_eq_nil_iff.mpr fun poll hpoll => by simpa using hpoll

lemma foldl_finish_kept (polls : List PollId) (w : DeliveryWaiters) :
    (polls.foldl (fun w poll => w.finish key poll) w).lastNotified = w.lastNotified ∧
      (polls.foldl (fun w poll => w.finish key poll) w).closed = w.closed ∧
        (w.Tidy → (polls.foldl (fun w poll => w.finish key poll) w).Tidy) := by
  induction polls generalizing w with
  | nil => exact ⟨rfl, rfl, id⟩
  | cons poll polls ih =>
    obtain ⟨hlast, hclosed, htidy⟩ := ih (w.finish key poll)
    exact ⟨hlast, hclosed, fun h => htidy h.finish⟩

@[simp] lemma finishAll_lastNotified : (w.finishAll key).lastNotified = w.lastNotified :=
  (foldl_finish_kept _ w).1

@[simp] lemma finishAll_closed : (w.finishAll key).closed = w.closed :=
  (foldl_finish_kept _ w).2.1

lemma Tidy.finishAll (h : w.Tidy) : (w.finishAll key).Tidy :=
  (foldl_finish_kept _ w).2.2 h

lemma Tidy.of_waiters {w' : DeliveryWaiters} (h : w.Tidy) (hw : w'.waiters = w.waiters) :
    w'.Tidy :=
  ⟨hw ▸ h.nonempty, hw ▸ h.nodup⟩

/-! ## Registration -/

variable {args : WaitArgs} {w' : DeliveryWaiters} {outcome : Outcome}

lemma wait_inr (h : w.wait args poll = .inr w') : w.closed = false ∧ args.aborted = false ∧
    (∀ at', w.lastNotified.get? (waiterKey args.workspaceId args.agentId) = some at' →
      at' < args.since) ∧
    w' = w.register (waiterKey args.workspaceId args.agentId) poll := by
  unfold wait at h
  dsimp only at h
  split_ifs at h with hclosed hnotified
  simp only [Bool.or_eq_true, beq_iff_eq, not_or, Bool.not_eq_true] at hclosed
  refine ⟨hclosed.1.1, hclosed.1.2, fun at' hat => ?_, (Sum.inr.inj h).symm⟩
  simpa [hat] using hnotified

lemma wait_timeout (h : w.wait args poll = .inl .timeout) :
    w.closed = true ∨ args.aborted = true ∨ args.timeoutMs = 0 := by
  unfold wait at h
  dsimp only at h
  split_ifs at h with hclosed hnotified
  · simpa [or_assoc] using hclosed
  · exact absurd (Sum.inl.inj h) (by decide)

lemma waiting_register : (w.register key poll).waiting key' =
    if key' = key then w.waiting key ++ [poll] else w.waiting key' := by
  split_ifs with hkey
  · rw [hkey, waiting, register, Dict.get?_set_self, Option.getD_some]
  · rw [waiting, register, Dict.get?_set_ne hkey, waiting]

lemma Tidy.register (h : w.Tidy) (hpoll : poll ∉ w.waiting key) :
    (w.register key poll).Tidy := by
  constructor <;> rintro ⟨k, set⟩ hentry
  · obtain ⟨-, rfl⟩ | ⟨-, hold⟩ := Dict.mem_set.mp hentry
    · simp
    · exact h.nonempty _ hold
  · obtain ⟨-, rfl⟩ | ⟨-, hold⟩ := Dict.mem_set.mp hentry
    · exact h.waiting_nodup.append (List.nodup_singleton poll) (by simpa using hpoll)
    · exact h.nodup _ hold

/-! ## Notification -/

/-- The requests that wait under the keys wait no more. -/
lemma foldl_notifyKey (keys : List String) (w : DeliveryWaiters) :
    (keys.foldl (fun w key => w.notifyKey now key) w).waiting key' =
      if key' ∈ keys then [] else w.waiting key' := by
  induction keys generalizing w with
  | nil => simp
  | cons key keys ih =>
    have hkey : (w.notifyKey now key).waiting key' =
        if key' = key then [] else w.waiting key' := by
      rw [notifyKey, waiting_finishAll]
      rfl
    rw [List.foldl_cons, ih, hkey]
    by_cases hmem : key' ∈ keys <;> by_cases heq : key' = key <;> simp [hmem, heq]

lemma waiting_notify {workspaceId : String} {agentIds : List String} :
    (w.notify now workspaceId agentIds).waiting key' =
      if key' ∈ notifyKeys workspaceId agentIds then [] else w.waiting key' := by
  rw [notify, foldl_notifyKey]
  rfl

lemma foldl_notifyKey_kept (keys : List String) (w : DeliveryWaiters) :
    (keys.foldl (fun w key => w.notifyKey now key) w).closed = w.closed ∧
      (w.Tidy → (keys.foldl (fun w key => w.notifyKey now key) w).Tidy) := by
  induction keys generalizing w with
  | nil => exact ⟨rfl, id⟩
  | cons key keys ih =>
    obtain ⟨hclosed, htidy⟩ := ih (w.notifyKey now key)
    refine ⟨hclosed.trans finishAll_closed, fun h => htidy ?_⟩
    exact Tidy.finishAll (h.of_waiters rfl)

@[simp] lemma notify_closed {workspaceId : String} {agentIds : List String} :
    (w.notify now workspaceId agentIds).closed = w.closed :=
  (foldl_notifyKey_kept _ _).1

lemma Tidy.notify {workspaceId : String} {agentIds : List String} (h : w.Tidy) :
    (w.notify now workspaceId agentIds).Tidy :=
  (foldl_notifyKey_kept _ _).2 (h.of_waiters rfl)

lemma mem_notifyKeys {workspaceId agentId : String} {agentIds : List String}
    (h : agentId ∈ agentIds) : waiterKey workspaceId agentId ∈ notifyKeys workspaceId agentIds :=
  List.mem_map.mpr ⟨agentId, List.mem_eraseDups.mpr h, rfl⟩

/-! ## Shutdown -/

lemma waiting_foldl_finishAll (keys : List String) (w : DeliveryWaiters) :
    (keys.foldl finishAll w).waiting key' = if key' ∈ keys then [] else w.waiting key' := by
  induction keys generalizing w with
  | nil => simp
  | cons key keys ih =>
    rw [List.foldl_cons, ih, waiting_finishAll]
    by_cases hmem : key' ∈ keys <;> by_cases heq : key' = key <;> simp [hmem, heq]

lemma foldl_finishAll_kept (keys : List String) (w : DeliveryWaiters) :
    (keys.foldl finishAll w).closed = w.closed ∧
      (keys.foldl finishAll w).lastNotified = w.lastNotified ∧
        (w.Tidy → (keys.foldl finishAll w).Tidy) := by
  induction keys generalizing w with
  | nil => exact ⟨rfl, rfl, id⟩
  | cons key keys ih =>
    obtain ⟨hclosed, hlast, htidy⟩ := ih (w.finishAll key)
    exact ⟨hclosed.trans finishAll_closed, hlast.trans finishAll_lastNotified,
      fun h => htidy h.finishAll⟩

@[simp] lemma close_closed : w.close.closed = true := (foldl_finishAll_kept _ _).1

@[simp] lemma close_lastNotified : w.close.lastNotified = w.lastNotified :=
  (foldl_finishAll_kept _ _).2.1

lemma Tidy.close (h : w.Tidy) : w.close.Tidy :=
  (foldl_finishAll_kept _ _).2.2 (h.of_waiters rfl)

/-- No request waits after the shutdown. -/
lemma waiting_close : w.close.waiting key' = [] := by
  rw [close, waiting_foldl_finishAll]
  split_ifs with hmem
  · rfl
  · have hnone : w.waiters.get? key' = none := by
      rw [Dict.get?_eq_none]
      exact fun set hset => hmem (List.mem_map.mpr ⟨_, hset, rfl⟩)
    simp [waiting, hnone]

/-! ## The times that are remembered -/

/-- The times are remembered oldest first, and none is later than `now`. -/
structure Ordered (w : DeliveryWaiters) (now : Millis) : Prop where
  sorted : w.lastNotified.entries.Pairwise fun entry entry' => entry.2 ≤ entry'.2
  past : ∀ entry ∈ w.lastNotified.entries, entry.2 ≤ now

lemma Ordered.start : Ordered .start 0 := ⟨List.Pairwise.nil, fun _ h => absurd h List.not_mem_nil⟩

/-- A prefix is cut where the elements are old up to some place. -/
lemma mem_takeWhile_iff {α : Type} {R : α → α → Prop} {old : α → Bool} {xs : List α} {x : α}
    (hsorted : xs.Pairwise R) (hold : ∀ a b, R a b → old b = true → old a = true) :
    x ∈ xs.takeWhile old ↔ x ∈ xs ∧ old x = true := by
  induction xs with
  | nil => simp
  | cons a xs ih =>
    obtain ⟨hfirst, hrest⟩ := List.pairwise_cons.mp hsorted
    cases ha : old a with
    | true =>
      rw [List.takeWhile_cons_of_pos ha, List.mem_cons, List.mem_cons, ih hrest]
      constructor
      · rintro (rfl | ⟨hx, hxold⟩)
        · exact ⟨.inl rfl, ha⟩
        · exact ⟨.inr hx, hxold⟩
      · rintro ⟨rfl | hx, hxold⟩
        · exact .inl rfl
        · exact .inr ⟨hx, hxold⟩
    | false =>
      rw [List.takeWhile_cons_of_neg (by simp [ha])]
      refine ⟨fun h => absurd h List.not_mem_nil, ?_⟩
      rintro ⟨hx, hxold⟩
      obtain rfl | hx := List.mem_cons.mp hx
      · exact absurd hxold (by simp [ha])
      · exact absurd (hold a x (hfirst x hx) hxold) (by simp [ha])

/-- What is forgotten is what is too old. -/
lemma Ordered.mem_prune {last : Millis} {entry : String × Millis} (h : w.Ordered last) :
    entry ∈ (w.prune now).lastNotified.entries ↔ entry ∈ w.lastNotified.entries ∧
      now - entry.2 ≤ DELIVERY_NOTIFY_MEMORY_MS := by
  have hold : ∀ a b : String × Millis, a.2 ≤ b.2 →
      decide (DELIVERY_NOTIFY_MEMORY_MS < now - b.2) = true →
        decide (DELIVERY_NOTIFY_MEMORY_MS < now - a.2) = true := by
    intro a b hab hb
    rw [decide_eq_true_eq] at hb ⊢
    exact lt_of_lt_of_le hb (Nat.sub_le_sub_left hab now)
  simp only [prune, Dict.entries_foldl_erase, List.mem_filter, decide_eq_true_eq]
  refine and_congr_right fun hentry => ?_
  rw [← not_lt, not_iff_not, List.mem_map]
  constructor
  · rintro ⟨entry', hmem, hkey⟩
    obtain ⟨hmem', hlt⟩ := (mem_takeWhile_iff h.sorted hold).mp hmem
    have heq : entry' = entry := List.inj_on_of_nodup_map w.lastNotified.nodup hmem' hentry hkey
    simpa [heq] using hlt
  · intro hlt
    exact ⟨entry, (mem_takeWhile_iff h.sorted hold).mpr ⟨hentry, by simpa using hlt⟩, rfl⟩

lemma Ordered.prune {last : Millis} (h : w.Ordered last) : (w.prune now).Ordered last := by
  refine ⟨?_, fun entry hentry => h.past entry (h.mem_prune.mp hentry).1⟩
  simp only [DeliveryWaiters.prune, Dict.entries_foldl_erase]
  exact h.sorted.sublist List.filter_sublist

lemma entries_erase_set {d : Dict Millis} :
    ((d.erase key).set key now).entries = (d.erase key).entries ++ [(key, now)] := by
  have hnot : key ∉ (d.erase key).entries.map Prod.fst := by
    rw [List.mem_map]
    rintro ⟨⟨k, at'⟩, hentry, rfl⟩
    exact (Dict.mem_erase.mp hentry).1 rfl
  rw [Dict.set, dif_neg hnot]

lemma Ordered.notifyKey (h : w.Ordered now) : (w.notifyKey now key).Ordered now := by
  have hlast : (w.notifyKey now key).lastNotified.entries =
      (w.lastNotified.erase key).entries ++ [(key, now)] := by
    rw [DeliveryWaiters.notifyKey, finishAll_lastNotified]
    exact entries_erase_set
  constructor
  · rw [hlast, List.pairwise_append]
    refine ⟨h.sorted.sublist List.filter_sublist, List.pairwise_singleton _ _, ?_⟩
    rintro entry hentry entry' hentry'
    rw [List.mem_singleton.mp hentry']
    exact h.past entry (Dict.mem_erase.mp hentry).2
  · intro entry hentry
    rw [hlast, List.mem_append, List.mem_singleton] at hentry
    obtain hentry | rfl := hentry
    · exact h.past entry (Dict.mem_erase.mp hentry).2
    · exact le_rfl

lemma get?_notifyKey : (w.notifyKey now key).lastNotified.get? key' =
    if key' = key then some now else w.lastNotified.get? key' := by
  rw [notifyKey, finishAll_lastNotified]
  split_ifs with hkey
  · rw [hkey, Dict.get?_set_self]
  · rw [Dict.get?_set_ne hkey, Dict.get?_erase_ne hkey]

lemma foldl_notifyKey_remembered (keys : List String) (h : w.Ordered now) :
    (keys.foldl (fun w key => w.notifyKey now key) w).Ordered now ∧
      (keys.foldl (fun w key => w.notifyKey now key) w).lastNotified.get? key' =
        if key' ∈ keys then some now else w.lastNotified.get? key' := by
  induction keys generalizing w with
  | nil => exact ⟨h, by simp⟩
  | cons key keys ih =>
    obtain ⟨hordered, hget⟩ := ih h.notifyKey
    refine ⟨hordered, ?_⟩
    rw [List.foldl_cons, hget, get?_notifyKey]
    by_cases hmem : key' ∈ keys <;> by_cases heq : key' = key <;> simp [hmem, heq]

variable {workspaceId : String} {agentIds : List String} {last : Millis}

lemma Ordered.mono (h : w.Ordered last) (hle : last ≤ now) : w.Ordered now :=
  ⟨h.sorted, fun entry hentry => (h.past entry hentry).trans hle⟩

lemma Ordered.of_eq (h : w.Ordered now) (hw : w'.lastNotified = w.lastNotified) :
    w'.Ordered now :=
  ⟨hw ▸ h.sorted, hw ▸ h.past⟩

lemma Ordered.notify (h : w.Ordered now) : (w.notify now workspaceId agentIds).Ordered now :=
  (@foldl_notifyKey_remembered _ "" _ _ h.prune).1

/-- What is remembered after a notification: its time, and the others that are not too old. -/
lemma Ordered.get?_notify (h : w.Ordered now) :
    (w.notify now workspaceId agentIds).lastNotified.get? key' =
      if key' ∈ notifyKeys workspaceId agentIds then some now
      else (w.lastNotified.get? key').filter fun at' =>
        decide (now - at' ≤ DELIVERY_NOTIFY_MEMORY_MS) := by
  rw [DeliveryWaiters.notify, (foldl_notifyKey_remembered _ h.prune).2]
  refine if_congr Iff.rfl rfl (Option.ext fun at' => ?_)
  rw [Dict.get?_eq_some, h.mem_prune, Option.filter_eq_some_iff, Dict.get?_eq_some,
    decide_eq_true_eq]

end DeliveryWaiters

end LongPoll
