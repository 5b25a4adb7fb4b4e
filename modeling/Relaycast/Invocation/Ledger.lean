import Mathlib.Data.Multiset.OrderedMonoid
import Relaycast.Interleaving.Safety
import Relaycast.Invocation.Service

/-!
# Spawn reservations

A slot counted in a node's `reserved_agents` is either marked on an open spawn dispatched there or
owned by a call in flight, which has reserved it and not stored it yet, or has taken it off a row
and not released it yet.  The slots a call owns are its credits, a multiset of nodes.

The account balances as long as every update that writes a marker finds on the row the hold that its
call recorded when it read or claimed the row (`Stmt.findsRecordedHold`).  `completeNodeInvocation`
and `detachInvocationsFromLostNode` do not test that; a spawn whose slot another call has given back
in the meantime is then released twice.
-/

namespace Invocation

open Relational Interleaving

/-! ## The account -/

/-- How many reservations on a node were granted. -/
def grants (w : World lang Store) (nodeId : NodeId) : ℕ :=
  w.trace.countP fun e => match e with
    | ⟨_, .reserveNodeCapacity id, _, (granted : Bool), _, _⟩ => granted && id == nodeId
    | _ => false

/-- How many slots of a node were released. -/
def releases (w : World lang Store) (nodeId : NodeId) : ℕ :=
  w.trace.countP fun e => match e with
    | ⟨_, .releaseNodeCapacity id _, _, _, _, _⟩ => id == nodeId
    | _ => false

/-- Spawn reservations are accounted for: no more of them are released than were granted, and
whenever no call is in flight `reserved_agents` is the number of open spawns that hold a slot. -/
structure ReservationsBalanced (g : Config lang Store Call.Result) : Prop where
  releases_le : ∀ nodeId, releases g.world nodeId ≤ grants g.world nodeId
  reserved_eq : g.isIdle = true → ∀ nodeId,
    g.world.store.reservedAgents nodeId = g.world.store.heldOn nodeId

/-! ## What an update does to a hold -/

namespace Write

/-- Can the update change which slot the row holds? -/
def movesHold : Write → Bool
  | snapshotInvocationHandlerNode .. | bindInvocationToRegisteredNodeAction ..
  | acceptRegisteredAction .. | markUnsentNativeSpawn .. | claimUnsentNativeSpawn
  | deferDrain => false
  | _ => true

/-- The hold such an update leaves. -/
def leaves : Write → Option NodeId
  | dispatchNodeAttempt a _ _ | claimRegisteredActionHandoff a _ _ =>
    if a.reservationHeld then some a.nodeId else none
  | restoreUnsentSpawnClaim c =>
    if c.restoreSpawnReservedAt.isSome then c.restoreDispatchedNodeId else none
  | _ => none

lemma hold_attempted (a : Attempt) (actionId : Option ActionId) (now : Millis) (r : Row) :
    (r.attempted a actionId now).hold = if a.reservationHeld then some a.nodeId else none := by
  by_cases hheld : a.reservationHeld = true
  · by_cases hpending : a.pending = true <;> simp [Row.hold, Row.attempted, hheld, hpending,
      Status.isOpen]
  · rw [if_neg hheld]
    exact Row.hold_of_unmarked _ (if_neg hheld)

lemma hold_image (w : Write) (s : Store) (now : Millis) (r : Row) :
    (w.image s now r).hold = (w.set now r).hold := by
  unfold image
  split_ifs
  · exact s.hold_stamped _
  · rfl

lemma hold_set_of_not_movesHold {w : Write} (hw : w.movesHold = false) (now : Millis) (r : Row) :
    (w.set now r).hold = r.hold := by
  cases w <;> first | rfl | simp [movesHold] at hw

/-- **An update that moves a hold leaves the one it says.** -/
lemma hold_set_of_movesHold {w : Write} (hw : w.movesHold = true) (now : Millis) (r : Row) :
    (w.set now r).hold = w.leaves := by
  cases w with
  | dispatchNodeAttempt a _ _ | claimRegisteredActionHandoff a _ _ => exact hold_attempted _ _ _ _
  | restoreUnsentSpawnClaim c =>
    by_cases hmark : c.restoreSpawnReservedAt.isSome = true <;>
      simp [Row.hold, set, leaves, Status.isOpen, hmark]
  | settleRegisteredActionSendFailure _ _ _ _ => exact Row.hold_of_closed _ rfl
  | settleDeletedRegisteredAction _ | failOpenInvocation _ _ | failNeverDispatchedInvocation _
  | clearHold _ _ _ | resetShadowed _ | resetUnplaced _ _ _ | detach _ _ _
  | completeNodeInvocation _ _ _ _ => exact Row.hold_of_unmarked _ rfl
  | _ => simp [movesHold] at hw

end Write

namespace Store

variable (s : Store)

lemma nodup_invocations : s.invocations.rows.Nodup :=
  .of_map Row.id (s.invocations.nodup_map fun _ _ h => beq_iff_eq.mpr h)

/-- An update that hits no row leaves every hold in place. -/
lemma heldOn_write_of_miss {x : InvocationId} {w : Write} (h : s.hit x w = none) (now : Millis)
    (nodeId : NodeId) : (s.write x w now).2.heldOn nodeId = s.heldOn nodeId := by
  have hrows : (s.invocations.rows.map fun r =>
      if r.id == x && w.guard s r then w.image s now r else r) = s.invocations.rows.map id := by
    refine List.map_congr_left fun r hr => ?_
    rw [if_neg (List.find?_eq_none.mp h r hr), id]
  show ((s.invocations.rows.map _).countP _) = s.invocations.rows.countP _
  rw [hrows, List.map_id]

/-- An update that hits a row replaces its hold. -/
lemma heldOn_write_of_hit {id : InvocationId} {w : Write} {r : Row} (h : s.hit id w = some r)
    (now : Millis) (nodeId : NodeId) :
    (s.write id w now).2.heldOn nodeId + (r.hold == some nodeId).toNat =
      s.heldOn nodeId + ((w.set now r).hold == some nodeId).toNat := by
  obtain ⟨hr, hid, hguard⟩ := s.hit_eq_some h
  rw [← w.hold_image s]
  refine countP_map_of_unique s.nodup_invocations hr fun r' hr' => ?_
  constructor
  · intro hhit
    simp only [Bool.and_eq_true, beq_iff_eq] at hhit
    exact s.row_ext hr' hr (hhit.1.trans hid.symm)
  · rintro rfl
    simp [hid, hguard]

/-- An update that moves no hold leaves every count of them. -/
lemma heldOn_write_of_not_movesHold {x : InvocationId} {w : Write} (hw : w.movesHold = false)
    (now : Millis) (nodeId : NodeId) : (s.write x w now).2.heldOn nodeId = s.heldOn nodeId := by
  cases hhit : s.hit x w with
  | none => exact s.heldOn_write_of_miss hhit now nodeId
  | some r =>
    have hheld := s.heldOn_write_of_hit hhit now nodeId
    rw [Write.hold_set_of_not_movesHold hw] at hheld
    exact Nat.add_right_cancel hheld

/-- An update that moves the hold of a row trades it for the one it leaves. -/
lemma heldOn_write_of_movesHold {x : InvocationId} {w : Write} (hw : w.movesHold = true) {r : Row}
    (h : s.hit x w = some r) (now : Millis) (nodeId : NodeId) :
    (s.write x w now).2.heldOn nodeId + (r.hold == some nodeId).toNat =
      s.heldOn nodeId + (w.leaves == some nodeId).toNat := by
  have hheld := s.heldOn_write_of_hit h now nodeId
  rw [Write.hold_set_of_movesHold hw] at hheld
  exact hheld

/-! ## What a reservation and a release do to the counter -/

/-- A node's counter after an update of one node. -/
lemma node?_updateNodes {p : Node → Bool} {f : Node → Node} {hf : KeepsNodeId f} (nodeId : NodeId) :
    (s.updateNodes p f hf).node? nodeId =
      (s.node? nodeId).map fun n => if p n then f n else n := by
  have hid : ∀ n, ((f n).id == nodeId) = (n.id == nodeId) := fun n => by
    rw [show (f n).id = n.id from hf n]
  exact Table.find?_update hf hid

lemma node?_id {nodeId : NodeId} {n : Node} (h : s.node? nodeId = some n) : n.id = nodeId := by
  simpa using List.find?_some h

lemma reservedAgents_of_node? {nodeId : NodeId} {n : Node} (h : s.node? nodeId = some n) :
    s.reservedAgents nodeId = n.reservedAgents := by
  rw [reservedAgents, h]

/-- A granted reservation is one slot more on that node. -/
lemma reservedAgents_reserve (nodeId x : NodeId) :
    (s.reserveNodeCapacity nodeId).2.reservedAgents x =
      s.reservedAgents x +
        if (s.reserveNodeCapacity nodeId).1 && nodeId == x then 1 else 0 := by
  have hany : (s.reserveNodeCapacity nodeId).1 = true ↔
      ∃ n, s.node? nodeId = some n ∧ s.reservable n = true := by
    rw [reserveNodeCapacity, List.any_eq_true]
    constructor
    · rintro ⟨n, hn, hp⟩
      obtain ⟨hid, hroom⟩ := Bool.and_eq_true_iff.mp hp
      cases hfind : s.node? nodeId with
      | none => exact absurd hid (List.find?_eq_none.mp hfind n hn)
      | some n' =>
        have hsame : n' = n := Table.eq_of_clash (List.mem_of_find?_eq_some hfind) hn
          (beq_iff_eq.mpr ((s.node?_id hfind).trans (beq_iff_eq.mp hid).symm))
        exact ⟨n', rfl, hsame ▸ hroom⟩
    · rintro ⟨n, hn, hroom⟩
      exact ⟨n, List.mem_of_find?_eq_some hn, by simp [s.node?_id hn, hroom]⟩
  have hupdate : (s.reserveNodeCapacity nodeId).2.node? x = _ := s.node?_updateNodes x
  cases hx : s.node? x with
  | none =>
    have hno : ¬ ((s.reserveNodeCapacity nodeId).1 && nodeId == x) = true := by
      intro h
      obtain ⟨hgranted, hid⟩ := Bool.and_eq_true_iff.mp h
      obtain ⟨n, hn, -⟩ := hany.mp hgranted
      rw [beq_iff_eq.mp hid, hx] at hn
      simp at hn
    rw [if_neg hno, reservedAgents, reservedAgents, hupdate, hx]
    rfl
  | some n =>
    rw [hx, Option.map_some] at hupdate
    rw [reservedAgents_of_node? _ hupdate, reservedAgents_of_node? _ hx]
    by_cases hid : nodeId = x
    · subst hid
      have hiff : (s.reserveNodeCapacity nodeId).1 = s.reservable n := by
        rw [Bool.eq_iff_iff, hany, hx]
        simp
      simp only [s.node?_id hx, hiff, beq_self_eq_true, Bool.true_and, Bool.and_true]
      split_ifs <;> rfl
    · have hne : (n.id == nodeId) = false := by
        rw [s.node?_id hx]
        exact beq_eq_false_iff_ne.mpr (Ne.symm hid)
      simp [hne, hid]

/-- A release is one slot less on that node. -/
lemma reservedAgents_release (nodeId x : NodeId) :
    (s.releaseNodeCapacity nodeId).reservedAgents x =
      s.reservedAgents x - if nodeId = x then 1 else 0 := by
  have hupdate : (s.releaseNodeCapacity nodeId).node? x = _ := s.node?_updateNodes x
  cases hx : s.node? x with
  | none =>
    rw [reservedAgents, reservedAgents, hupdate, hx]
    simp
  | some n =>
    rw [hx, Option.map_some] at hupdate
    rw [reservedAgents_of_node? _ hupdate, reservedAgents_of_node? _ hx, s.node?_id hx]
    by_cases hid : nodeId = x
    · simp only [hid, beq_self_eq_true, if_true]
      split_ifs with hone
      · rfl
      · show 0 = _
        omega
    · simp [hid, Ne.symm hid]

end Store

/-! ## The condition -/

/-- Does the update, if it hits, find on the row the hold its call accounts for? -/
def Accounts.found (s : Store) (x : InvocationId) (w : Write) : Accounts → Prop
  | .nothing => ∀ r, s.hit x w = some r → r.hold = none
  | .takes nodeId => ∀ r, s.hit x w = some r → r.hold = some nodeId
  | .reuses nodeId => ∀ r, s.hit x w = some r → r.hold = some nodeId ∧ w.leaves = some nodeId
  | .returns nodeId => ∃ r, s.hit x w = some r ∧ r.hold = some nodeId

/-- **The condition.**  An update that can move a hold finds the hold that its call recorded (one
that takes back a slot the call itself has stored finds the row, with that slot), and a slot that a
claim has stored for good is not released. -/
def Stmt.findsRecordedHold (s : Store) : Stmt → Prop
  | .write x w accounts => w.movesHold = true → accounts.found s x w
  | .releaseNodeCapacity _ stored => stored = false
  | _ => True

instance (s : Store) (x : InvocationId) (w : Write) :
    (accounts : Accounts) → Decidable (accounts.found s x w)
  | .nothing => inferInstanceAs (Decidable (∀ r ∈ s.hit x w, r.hold = none))
  | .takes nodeId => inferInstanceAs (Decidable (∀ r ∈ s.hit x w, r.hold = some nodeId))
  | .reuses nodeId =>
    inferInstanceAs (Decidable (∀ r ∈ s.hit x w, r.hold = some nodeId ∧ w.leaves = some nodeId))
  | .returns nodeId => inferInstanceAs (Decidable (∃ r ∈ s.hit x w, r.hold = some nodeId))

instance (s : Store) : (q : Stmt) → Decidable (q.findsRecordedHold s)
  | .write x w accounts =>
    inferInstanceAs (Decidable (w.movesHold = true → accounts.found s x w))
  | .releaseNodeCapacity _ stored => inferInstanceAs (Decidable (stored = false))
  | .reserveNodeCapacity .. | .createInvocation .. | .deleteUnplaced .. | .handlersDown ..
  | .getInvocation .. | .heldRow .. | .completionRow .. | .drainRows .. | .openRowsOn ..
  | .timedOutRows .. | .duePendingRows .. | .getNode .. | .getNodeByName .. | .eligibleNodes ..
  | .fetchNodeAction .. | .callerLocation .. | .nodeReady .. | .capacityProviderName ..
  | .isNodeProviderLive .. | .isHandlerConnectionLive .. | .isProviderConnected ..
  | .sendToProvider .. | .dateNow => isTrue trivial

/-- Runs without a crash in which every statement meets the condition. -/
def findingRecordedHolds : Regime lang Store Call where
  calls := fun _ => True
  permits := fun w _ q => q.findsRecordedHold w.store
  crashes := False

/-! ## The ledger -/

/-- The slot of a hold. -/
def slotOf : Option NodeId → Multiset NodeId
  | none => 0
  | some nodeId => {nodeId}

lemma count_slotOf (h : Option NodeId) (nodeId : NodeId) :
    (slotOf h).count nodeId = (h == some nodeId).toNat := by
  cases h with
  | none => rfl
  | some x =>
    rw [slotOf, Multiset.count_singleton]
    by_cases hx : x = nodeId
    · subst hx
      simp
    · have hne : (some x == some nodeId) = false := by simpa using hx
      rw [if_neg (Ne.symm hx), hne, Bool.toNat_false]

/-- Every slot of a node is held by an open row or owned by a call, and is counted. -/
def ledger : Discipline lang Store (Multiset NodeId) where
  rely := fun _ _ _ => True
  refl := fun _ _ => trivial
  trans := fun _ _ _ _ _ _ => trivial
  inv w n := ∀ nodeId,
    w.store.reservedAgents nodeId = w.store.heldOn nodeId + n.count nodeId ∧
      grants w nodeId = releases w nodeId + w.store.reservedAgents nodeId

/-- A program that owns the slots `n`, whatever the others do, ends owning the slots `Q` says. -/
def Pays {α : Type} (i : ℕ) (Q : α → Multiset NodeId → Prop) (p : Prog lang α)
    (n : Multiset NodeId) : Prop :=
  ∀ w, ledger.Safe machine findingRecordedHolds.permits i (fun a m _ => Q a m) p n w

/-! ## What a statement does to the account -/

/-- Statements that neither count a slot nor move a hold. -/
def Stmt.isNeutral : Stmt → Bool
  | .write _ w _ => !w.movesHold
  | .reserveNodeCapacity _ | .releaseNodeCapacity .. => false
  | _ => true

lemma heldOn_createInvocation (s : Store) (x : InvocationId) (callerId : Option AgentId)
    (input : SpawnInput) (nodeId : NodeId) :
    (s.createInvocation x callerId input).2.heldOn nodeId = s.heldOn nodeId := by
  show (s.invocations.insertOrIgnore _).rows.countP _ = s.invocations.rows.countP _
  unfold Table.insertOrIgnore
  split_ifs
  · show (s.invocations.rows ++ [_]).countP _ = _
    rw [List.countP_append]
    simp [Row.hold, Store.createdRow]
  · rfl

lemma heldOn_deleteUnplaced (s : Store) (x : InvocationId) (nodeId : NodeId) :
    (s.deleteUnplaced x).heldOn nodeId = s.heldOn nodeId := by
  show (s.invocations.rows.filter _).countP _ = s.invocations.rows.countP _
  rw [List.countP_filter]
  refine List.countP_congr fun r _ => ?_
  by_cases hmark : r.spawnReservedAt.isNone = true
  · have hnone := r.hold_of_unmarked (Option.isNone_iff_eq_none.mp hmark)
    simp [hnone]
  · simp [hmark]

/-- A neutral statement leaves every counter and every hold. -/
lemma run_of_isNeutral {q : Stmt} (hq : q.isNeutral = true) (a : q.Answer) (s : Store)
    (nodeId : NodeId) : (run q a s).2.reservedAgents nodeId = s.reservedAgents nodeId ∧
      (run q a s).2.heldOn nodeId = s.heldOn nodeId := by
  cases q with
  | write x w accounts =>
    have hw : w.movesHold = false := by simpa [Stmt.isNeutral] using hq
    exact ⟨rfl, s.heldOn_write_of_not_movesHold hw a nodeId⟩
  | createInvocation x callerId input => exact ⟨rfl, heldOn_createInvocation s x callerId input _⟩
  | deleteUnplaced x => exact ⟨rfl, heldOn_deleteUnplaced s x _⟩
  | handlersDown x =>
    refine ⟨?_, rfl⟩
    have hupdate : (run (.handlersDown x) a s).2.node? nodeId = _ := s.node?_updateNodes nodeId
    rw [Store.reservedAgents, Store.reservedAgents, hupdate]
    cases s.node? nodeId with
    | none => rfl
    | some n =>
      simp only [Option.map_some]
      split_ifs <;> rfl
  | reserveNodeCapacity _ | releaseNodeCapacity _ _ => simp [Stmt.isNeutral] at hq
  | _ => exact ⟨rfl, rfl⟩

section After

variable (w : World lang Store) (i : ℕ) (nodeId : NodeId)

lemma grants_after_of_ne {q : Stmt} (hq : ∀ k, q ≠ .reserveNodeCapacity k) (a : q.Answer) :
    grants (w.after machine i q a) nodeId = grants w nodeId := by
  rw [grants, World.after_trace, List.countP_cons_of_neg]
  · rfl
  · cases q with
    | reserveNodeCapacity k => exact absurd rfl (hq k)
    | _ => simp [World.event]

lemma releases_after_of_ne {q : Stmt} (hq : ∀ k stored, q ≠ .releaseNodeCapacity k stored)
    (a : q.Answer) : releases (w.after machine i q a) nodeId = releases w nodeId := by
  rw [releases, World.after_trace, List.countP_cons_of_neg]
  · rfl
  · cases q with
    | releaseNodeCapacity k stored => exact absurd rfl (hq k stored)
    | _ => simp [World.event]

lemma grants_after_reserve (k : NodeId) (a : Stmt.Answer (.reserveNodeCapacity k)) :
    grants (w.after machine i (.reserveNodeCapacity k) a) nodeId =
      grants w nodeId + if (w.store.reserveNodeCapacity k).1 && k == nodeId then 1 else 0 := by
  rw [grants, World.after_trace, List.countP_cons]
  rfl

lemma releases_after_release (k : NodeId) (stored : Bool)
    (a : Stmt.Answer (.releaseNodeCapacity k stored)) :
    releases (w.after machine i (.releaseNodeCapacity k stored) a) nodeId =
      releases w nodeId + if k = nodeId then 1 else 0 := by
  rw [releases, World.after_trace, List.countP_cons]
  by_cases hk : k = nodeId <;> simp [World.event, hk] <;> rfl

end After

/-! ## The rules of the ledger -/

section Rules

variable {α β : Type} {i : ℕ} {Q : α → Multiset NodeId → Prop} {n : Multiset NodeId}

lemma Pays.pure {a : α} (h : Q a n) : Pays i Q (pure a) n := fun _ => h

lemma Pays.bind {Q' : β → Multiset NodeId → Prop} {p : Prog lang α} {f : α → Prog lang β}
    (hp : Pays i Q p n) (hf : ∀ a m, Q a m → Pays i Q' (f a) m) : Pays i Q' (p >>= f) n :=
  fun w => (hp w).bind fun a m w' h => hf a m h w'

lemma Pays.mono {Q' : α → Multiset NodeId → Prop} {p : Prog lang α} (hp : Pays i Q p n)
    (h : ∀ a m, Q a m → Q' a m) : Pays i Q' p n :=
  fun w => (hp w).mono fun a m _ => h a m

/-- The rule of a neutral statement. -/
lemma Pays.neutral {q : Stmt} {f : q.Reply → Prog lang α} (hq : q.isNeutral = true)
    (hf : ∀ r, Pays i Q (f r) n) : Pays i Q (await q >>= f) n := by
  refine fun w => Discipline.Safe.ask_bind fun w' rest _ hI _ a =>
    ⟨fun _ _ => trivial, n, fun nodeId => ?_, fun r _ => hf r _⟩
  have hreserved : (w'.after machine i q a).store.reservedAgents nodeId = _ :=
    (run_of_isNeutral hq a w'.store nodeId).1
  have hheld : (w'.after machine i q a).store.heldOn nodeId = _ :=
    (run_of_isNeutral hq a w'.store nodeId).2
  rw [hreserved, hheld, grants_after_of_ne, releases_after_of_ne]
  · exact hI nodeId
  · rintro k stored rfl
    simp [Stmt.isNeutral] at hq
  · rintro k rfl
    simp [Stmt.isNeutral] at hq

/-- The rule of a reservation: a granted slot is the caller's. -/
lemma Pays.reserve {k : NodeId} {f : Bool → Prog lang α} (hgranted : Pays i Q (f true) ({k} + n))
    (hrefused : Pays i Q (f false) n) :
    Pays i Q (await (.reserveNodeCapacity k) >>= f) n := by
  refine fun w => Discipline.Safe.ask_bind fun w' rest _ hI _ a =>
    ⟨fun _ _ => trivial, if (w'.store.reserveNodeCapacity k).1 then {k} + n else n,
      fun nodeId => ?_, fun (r : Bool) hr => ?_⟩
  · obtain ⟨hbalance, htotal⟩ := hI nodeId
    have hreserved : (w'.after machine i (.reserveNodeCapacity k) a).store.reservedAgents nodeId =
        _ := w'.store.reservedAgents_reserve k nodeId
    have hheld : (w'.after machine i (.reserveNodeCapacity k) a).store.heldOn nodeId =
        w'.store.heldOn nodeId := rfl
    rw [hreserved, hheld, grants_after_reserve, releases_after_of_ne _ _ _ (by simp)]
    cases hgrant : (w'.store.reserveNodeCapacity k).1 with
    | false =>
      simp only [Bool.false_and, Bool.false_eq_true, if_false]
      exact ⟨hbalance, htotal⟩
    | true =>
      by_cases hk : k = nodeId
      · subst hk
        simp only [Bool.true_and, beq_self_eq_true, if_true, Multiset.count_add,
          Multiset.count_singleton_self] at hbalance ⊢
        omega
      · have hzero : ({k} : Multiset NodeId).count nodeId = 0 :=
          Multiset.count_eq_zero.mpr (by simpa using Ne.symm hk)
        simp only [Bool.true_and, beq_eq_false_iff_ne.mpr hk, Bool.false_eq_true, if_false, if_true,
          Multiset.count_add, hzero] at hbalance ⊢
        omega
  · obtain rfl : r = (w'.store.reserveNodeCapacity k).1 := hr
    cases (w'.store.reserveNodeCapacity k).1 with
    | false => exact hrefused _
    | true => exact hgranted _

/-- The rule of a release: the caller owns the slot. -/
lemma Pays.release {k : NodeId} {f : Unit → Prog lang α} (hf : Pays i Q (f ()) n) :
    Pays i Q (await (.releaseNodeCapacity k false) >>= f) ({k} + n) := by
  refine fun w => Discipline.Safe.ask_bind fun w' rest _ hI _ a =>
    ⟨fun _ _ => trivial, n, fun nodeId => ?_, fun r _ => hf _⟩
  obtain ⟨hbalance, htotal⟩ := hI nodeId
  have hreserved : (w'.after machine i (.releaseNodeCapacity k false) a).store.reservedAgents nodeId
      = _ := w'.store.reservedAgents_release k nodeId
  have hheld : (w'.after machine i (.releaseNodeCapacity k false) a).store.heldOn nodeId =
      w'.store.heldOn nodeId := rfl
  rw [hreserved, hheld, grants_after_of_ne _ _ _ (by simp), releases_after_release]
  by_cases hk : k = nodeId
  · subst hk
    simp only [if_true, Multiset.count_add, Multiset.count_singleton_self] at hbalance ⊢
    omega
  · have hzero : ({k} : Multiset NodeId).count nodeId = 0 :=
      Multiset.count_eq_zero.mpr (by simpa using Ne.symm hk)
    simp only [hk, if_false, Multiset.count_add, hzero] at hbalance ⊢
    omega

/-- A slot that is stored for good is never released. -/
lemma Pays.release_stored {k : NodeId} {f : Unit → Prog lang α} :
    Pays i Q (await (.releaseNodeCapacity k true) >>= f) n :=
  fun w => Discipline.Safe.ask_bind fun _ _ _ _ hperm _ => absurd hperm (by
    simp [findingRecordedHolds, Stmt.findsRecordedHold])

/-- What an update that moves a hold does to the account. -/
lemma ledger_inv_write {w : World lang Store} {x : InvocationId} {u : Write} {accounts : Accounts}
    {m m' : Multiset NodeId} (hu : u.movesHold = true) (hI : ledger.inv w m)
    (a : Stmt.Answer (.write x u accounts))
    (hmiss : w.store.hit x u = none → m' = m)
    (hhit : ∀ r, w.store.hit x u = some r → m' + slotOf u.leaves = m + slotOf r.hold) :
    ledger.inv (w.after machine i (.write x u accounts) a) m' := by
  intro nodeId
  obtain ⟨hbalance, htotal⟩ := hI nodeId
  have hreserved : (w.after machine i (.write x u accounts) a).store.reservedAgents nodeId =
      w.store.reservedAgents nodeId := rfl
  rw [hreserved, grants_after_of_ne _ _ _ (by simp), releases_after_of_ne _ _ _ (by simp)]
  refine ⟨?_, htotal⟩
  cases hh : w.store.hit x u with
  | none =>
    have hheld : (w.after machine i (.write x u accounts) a).store.heldOn nodeId = _ :=
      w.store.heldOn_write_of_miss hh a nodeId
    rw [hheld, hmiss hh]
    exact hbalance
  | some r =>
    have hheld : (w.after machine i (.write x u accounts) a).store.heldOn nodeId + _ = _ :=
      w.store.heldOn_write_of_movesHold hu hh a nodeId
    have hslots := congrArg (Multiset.count nodeId) (hhit r hh)
    rw [Multiset.count_add, Multiset.count_add, count_slotOf, count_slotOf] at hslots
    omega

/-- The rule of an update that moves a hold. -/
lemma Pays.write {x : InvocationId} {u : Write} {accounts : Accounts}
    {f : Option Row → Prog lang α} (hu : u.movesHold = true)
    (hmiss : ∀ s, accounts.found s x u → s.hit x u = none → Pays i Q (f none) n)
    (hhit : ∀ s r, accounts.found s x u → s.hit x u = some r →
      ∃ m, m + slotOf u.leaves = n + slotOf r.hold ∧ ∀ r', Pays i Q (f (some r')) m) :
    Pays i Q (await (.write x u accounts) >>= f) n := by
  refine fun w => Discipline.Safe.ask_bind fun w' rest _ hI hperm a => ?_
  have hfound : accounts.found w'.store x u := hperm hu
  cases hh : w'.store.hit x u with
  | none =>
    refine ⟨fun _ _ => trivial, n, ledger_inv_write hu hI a (fun _ => rfl) fun r hr => ?_,
      fun (r : Option Row) hr => ?_⟩
    · rw [hh] at hr
      simp at hr
    · obtain rfl : r = none := hr.trans (congrArg (Option.map _) hh)
      exact hmiss _ hfound hh _
  | some r =>
    obtain ⟨m, hm, hf⟩ := hhit _ r hfound hh
    refine ⟨fun _ _ => trivial, m, ledger_inv_write hu hI a (fun hr => ?_) fun r' hr => ?_,
      fun (r' : Option Row) hr => ?_⟩
    · rw [hh] at hr
      simp at hr
    · obtain rfl : r = r' := Option.some.inj (hh.symm.trans hr)
      rw [add_right_comm, hm, add_right_comm]
    · obtain rfl : r' = some (u.set a r) := hr.trans (congrArg (Option.map _) hh)
      exact hf _ _

section Accounts

variable {x : InvocationId} {u : Write} {k : NodeId} {f : Option Row → Prog lang α}

/-- An update of a row without a hold stores there what it leaves. -/
lemma Pays.write_nothing (hu : u.movesHold = true) (hmiss : Pays i Q (f none) (slotOf u.leaves + n))
    (hhit : ∀ r, Pays i Q (f (some r)) n) :
    Pays i Q (await (.write x u .nothing) >>= f) (slotOf u.leaves + n) := by
  refine Pays.write hu (fun _ _ _ => hmiss) fun s r hfound hr => ⟨n, ?_, hhit⟩
  rw [hfound r hr, slotOf, add_zero, add_comm]

/-- An update of a row without a hold, which leaves none. -/
lemma Pays.write_unheld {accounts : Accounts} (hacc : accounts = .nothing) (hu : u.movesHold = true)
    (hleaves : u.leaves = none) (hf : ∀ r, Pays i Q (f r) n) :
    Pays i Q (await (.write x u accounts) >>= f) n := by
  subst hacc
  refine Pays.write hu (fun _ _ _ => hf none) fun s r hfound hr => ⟨n, ?_, fun r' => hf _⟩
  rw [hfound r hr, hleaves]

/-- An update that takes the hold of a row gives the caller its slot. -/
lemma Pays.write_takes {accounts : Accounts} (hacc : accounts = .takes k) (hu : u.movesHold = true)
    (hleaves : u.leaves = none) (hmiss : Pays i Q (f none) n)
    (hhit : ∀ r, Pays i Q (f (some r)) ({k} + n)) :
    Pays i Q (await (.write x u accounts) >>= f) n := by
  subst hacc
  refine Pays.write hu (fun _ _ _ => hmiss) fun s r hfound hr => ⟨{k} + n, ?_, hhit⟩
  rw [hfound r hr, hleaves, slotOf, slotOf, add_zero, add_comm]

/-- An update that reuses the hold of a row leaves the caller's slots alone. -/
lemma Pays.write_reuses {accounts : Accounts} (hacc : accounts = .reuses k)
    (hu : u.movesHold = true) (hf : ∀ r, Pays i Q (f r) n) :
    Pays i Q (await (.write x u accounts) >>= f) n := by
  subst hacc
  refine Pays.write hu (fun _ _ _ => hf none) fun s r hfound hr => ⟨n, ?_, fun r' => hf _⟩
  rw [(hfound r hr).1, (hfound r hr).2]

/-- An update that takes back a slot the caller has stored finds the row. -/
lemma Pays.write_returns {accounts : Accounts} (hacc : accounts = .returns k)
    (hu : u.movesHold = true) (hleaves : u.leaves = none)
    (hhit : ∀ r, Pays i Q (f (some r)) ({k} + n)) :
    Pays i Q (await (.write x u accounts) >>= f) n := by
  subst hacc
  refine Pays.write hu (fun s hfound hnone => ?_) fun s r hfound hr => ⟨{k} + n, ?_, hhit⟩
  · obtain ⟨r, hr, -⟩ := hfound
    rw [hnone] at hr
    simp at hr
  · obtain ⟨r', hr', hhold⟩ := hfound
    obtain rfl : r = r' := Option.some.inj (hr.symm.trans hr')
    rw [hhold, hleaves, slotOf, slotOf, add_zero, add_comm]

end Accounts

end Rules

end Invocation
