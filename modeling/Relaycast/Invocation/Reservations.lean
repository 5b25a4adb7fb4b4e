import Relaycast.Invocation.Ledger

/-!
# Every function pays for its slots

What each invocation function owns when it returns, by the rules of the ledger, and from that the
account of a whole run.  The specifications follow the functions: a placement hands its caller the
slot it has reserved, an accepted dispatch stores it on the row, and whoever gets a slot back
releases it.
-/

namespace Invocation

open Relational Interleaving

variable {i : ℕ} {n : Multiset NodeId}

/-! ## Placement -/

/-- The slot a placement has reserved. -/
def Placement.slot (placement : Placement) : Multiset NodeId :=
  if placement.queued then 0 else {placement.nodeId}

/-- A placement hands its caller the slot it has reserved. -/
def PaysForPlacement (n : Multiset NodeId) :
    Except CodedError Placement → Multiset NodeId → Prop
  | .ok placement, m => m = placement.slot + n
  | .error _, m => m = n

namespace PlacementRequest

variable (request : PlacementRequest)

/-- A candidate with the capability is passed over only when it is excluded. -/
lemma excluded_of_not_admits {node : Node} (h : request.admits node = false)
    (hcap : node.capabilities.contains request.input.capability = true) :
    request.excludeNodeIds.contains node.id = true := by
  rw [admits, hcap, Bool.true_and] at h
  simpa only [Bool.not_eq_eq_eq_not, Bool.not_false] using h

/-- A candidate that is passed over may not be used. -/
lemma chooseLiveCandidate_pays (node : Node) :
    Pays i (fun a m => match a with
      | .ok (some placement) => m = placement.slot + n
      | .ok none => request.admits node = false ∧ m = n
      | .error _ => m = n) (request.chooseLiveCandidate node) n := by
  unfold chooseLiveCandidate
  cases hadmits : request.admits node with
  | true =>
    rw [if_neg (show ¬ (!true) = true by decide)]
    refine Pays.neutral rfl fun (ready : Bool) => ?_
    cases ready with
    | false => exact Pays.pure (zero_add n).symm
    | true => exact Pays.reserve (Pays.pure rfl) (Pays.pure rfl)
  | false =>
    rw [if_pos (show (!false) = true by decide)]
    exact Pays.pure ⟨rfl, rfl⟩

lemma placeOn_pays (node : Node) (name : String) :
    Pays i (PaysForPlacement n) (request.placeOn node name) n := by
  refine (request.chooseLiveCandidate_pays node).bind fun a m ha => ?_
  match a with
  | .error _ => exact Pays.pure ha
  | .ok (some _) => exact Pays.pure ha
  | .ok none =>
    obtain ⟨hadmits, rfl⟩ := ha
    by_cases hexcluded : request.excludeNodeIds.contains node.id = true
    · simp only [hexcluded, if_true]
      exact Pays.pure rfl
    · by_cases hcap : node.capabilities.contains request.input.capability = true
      · exact absurd (request.excluded_of_not_admits hadmits hcap) hexcluded
      · simp only [hexcluded, hcap, Bool.not_false, Bool.false_eq_true, if_true, if_false]
        exact Pays.pure rfl

lemma reserveFirst_pays (nodes : List Node) :
    Pays i (PaysForPlacement n) (request.reserveFirst nodes) n := by
  induction nodes with
  | nil => exact Pays.pure rfl
  | cons node rest ih => exact Pays.reserve (Pays.pure rfl) ih

lemma placeByTarget_pays : Pays i (PaysForPlacement n) request.placeByTarget n := by
  unfold placeByTarget
  split
  · split
    · exact Pays.pure rfl
    · refine Pays.neutral rfl fun (location : Option NodeId) => ?_
      cases location with
      | none => exact Pays.pure rfl
      | some nodeId =>
        refine Pays.neutral rfl fun (node : Option Node) => ?_
        cases node with
        | none => exact Pays.pure rfl
        | some node => exact request.placeOn_pays node _
  · refine Pays.neutral rfl fun (node : Option Node) => ?_
    cases node with
    | none => exact Pays.pure rfl
    | some node => exact request.placeOn_pays node _
  · exact Pays.neutral rfl fun nodes => request.reserveFirst_pays nodes

end PlacementRequest

lemma claimSpawnNode_pays (request : PlacementRequest) :
    Pays i (PaysForPlacement n) (claimSpawnNode request) n := by
  unfold claimSpawnNode
  split
  · exact request.placeByTarget_pays
  · refine Pays.neutral rfl fun (node : Option Node) => ?_
    cases node with
    | none => exact request.placeByTarget_pays
    | some node =>
      refine (request.chooseLiveCandidate_pays node).bind fun a m ha => ?_
      match a with
      | .error _ => exact Pays.pure ha
      | .ok (some _) => exact Pays.pure ha
      | .ok none =>
        obtain ⟨hadmits, rfl⟩ := ha
        by_cases hexcluded : request.excludeNodeIds.contains node.id = true
        · simp only [hexcluded, if_true]
          exact Pays.pure rfl
        · by_cases hcap : node.capabilities.contains request.input.capability = true
          · exact absurd (request.excluded_of_not_admits hadmits hcap) hexcluded
          · simp only [hexcluded, hcap, Bool.false_eq_true, if_false]
            exact request.placeByTarget_pays

lemma releaseWhen_pays (owed : Bool) (nodeId : NodeId) :
    Pays i (fun _ m => m = n) (releaseWhen owed nodeId)
      ((if owed then {nodeId} else 0) + n) := by
  cases owed with
  | true => exact Pays.release (f := Prog.done) (Pays.pure rfl)
  | false => exact Pays.pure (zero_add n)

lemma releasePlacement_pays (placement : Placement) :
    Pays i (fun _ m => m = n) (releasePlacement placement) (placement.slot + n) := by
  have hslot : placement.slot = if !placement.queued then {placement.nodeId} else 0 := by
    unfold Placement.slot
    cases placement.queued <;> rfl
  rw [hslot]
  exact releaseWhen_pays _ _

/-! ## Dispatch -/

/-- The slot the caller of a dispatch has reserved for it. -/
def DispatchArgs.slot (args : DispatchArgs) : Multiset NodeId :=
  if args.reservationHeld && !args.preserveSpawnReservation then {args.nodeId} else 0

/-- A dispatch stores the slot exactly if it is accepted, and is accepted exactly if the frame was
sent. -/
def PaysForDispatch (args : DispatchArgs) (n : Multiset NodeId) (d : Dispatched)
    (m : Multiset NodeId) : Prop :=
  d.sent = d.accepted ∧ m = (if d.accepted then 0 else args.slot) + n

lemma paysForDispatch_rejected (args : DispatchArgs) (settled : Option Row) :
    PaysForDispatch args n { Dispatched.rejected with settled := settled } (args.slot + n) :=
  ⟨rfl, rfl⟩

lemma settleDeletedRegisteredAction_pays (x : InvocationId) (revision : Option ℕ) :
    Pays i (fun _ m => m = n) (settleDeletedRegisteredAction x revision) n := by
  refine Pays.write_unheld rfl rfl rfl fun (failed : Option Row) => ?_
  cases failed with
  | some row => exact Pays.pure rfl
  | none => exact Pays.neutral (f := Prog.done) rfl fun _ => Pays.pure rfl

lemma settleRegisteredActionSendFailure_pays (args : DispatchArgs) (actionId : ActionId)
    (dispatchAttempts : ℕ) :
    Pays i (fun _ m => m = args.slot + n)
      (settleRegisteredActionSendFailure args actionId dispatchAttempts) n := by
  by_cases hown : (args.reservationHeld && !args.preserveSpawnReservation) = true
  · have hslot : args.slot = {args.nodeId} := if_pos hown
    rw [hslot]
    exact Pays.write_returns (if_pos hown) rfl rfl fun r => Pays.pure rfl
  · have hslot : args.slot = 0 := if_neg hown
    rw [hslot, zero_add]
    refine Pays.write_unheld (if_neg hown) rfl rfl fun (failed : Option Row) => ?_
    cases failed with
    | some row => exact Pays.pure rfl
    | none => exact settleDeletedRegisteredAction_pays _ _

/-- A claim stores the slot its caller has reserved; a hold that is reused stays where it is. -/
lemma Pays.claim {α : Type} {Q : α → Multiset NodeId → Prop} {args : DispatchArgs}
    {x : InvocationId} {u : Write} {f : Option Row → Prog lang α}
    (hu : u.movesHold = true)
    (hleaves : u.leaves = if args.reservationHeld then some args.nodeId else none)
    (hmiss : Pays i Q (f none) (args.slot + n)) (hhit : ∀ r, Pays i Q (f (some r)) n) :
    Pays i Q (await (.write x u args.claimAccounts) >>= f) (args.slot + n) := by
  by_cases hpreserve : args.preserveSpawnReservation = true
  · have hslot : args.slot = 0 := if_neg (by simp [hpreserve])
    rw [hslot, zero_add] at hmiss ⊢
    refine Pays.write_reuses (if_pos hpreserve) hu fun (r : Option Row) => ?_
    cases r with
    | none => exact hmiss
    | some r => exact hhit r
  · have hslot : args.slot = slotOf u.leaves := by
      rw [hleaves, DispatchArgs.slot]
      cases args.reservationHeld <;> simp [hpreserve, slotOf]
    have haccounts : args.claimAccounts = .nothing := if_neg hpreserve
    rw [hslot] at hmiss ⊢
    rw [haccounts]
    exact Pays.write_nothing hu hmiss hhit

/-- A dispatch returns with the account its outcome says; what throws has stored its slot. -/
def PaysForResult (args : DispatchArgs) (n : Multiset NodeId) :
    Except Thrown Dispatched → Multiset NodeId → Prop
  | .ok d, m => PaysForDispatch args n d m
  | .error _, m => m = n

lemma sendAuthorizedActionToProvider_pays (args : DispatchArgs) (actionId : ActionId)
    (actionName : String) (attempt : ℕ) :
    Pays i (fun _ m => m = n) (sendAuthorizedActionToProvider args actionId actionName attempt)
      n := by
  refine Pays.neutral rfl fun (accepted : Option Row) => ?_
  cases accepted with
  | none => exact Pays.pure rfl
  | some row => exact Pays.neutral (f := Prog.done) rfl fun _ => Pays.pure rfl

lemma dispatchRegistered_pays (args : DispatchArgs) (pending : Bool) :
    Pays i (PaysForResult args n) (dispatchRegistered args pending) (args.slot + n) := by
  unfold dispatchRegistered
  split
  · refine (settleDeletedRegisteredAction_pays _ _).bind fun settled m hm => ?_
    subst hm
    exact Pays.pure (paysForDispatch_rejected args settled)
  · refine Pays.claim rfl rfl ?_ fun row => ?_
    · refine (settleDeletedRegisteredAction_pays _ _).bind fun settled m hm => ?_
      subst hm
      exact Pays.pure (paysForDispatch_rejected args settled)
    · refine (sendAuthorizedActionToProvider_pays _ _ _ _).bind fun outcome m hm => ?_
      subst hm
      cases outcome with
      | sent => exact Pays.pure ⟨rfl, (zero_add _).symm⟩
      | refused =>
        refine (settleRegisteredActionSendFailure_pays _ _ _).bind fun settled m hm => ?_
        subst hm
        exact Pays.pure (paysForDispatch_rejected args settled)
      | threw => exact Pays.pure rfl

/-- Taking a claim back gives its caller the slot it had stored. -/
lemma Pays.restore {α : Type} {Q : α → Multiset NodeId → Prop} {args : DispatchArgs}
    {w : ClaimWrite} {f : Option Row → Prog lang α}
    (hf : ∀ r, Pays i Q (f r) (args.slot + n)) :
    Pays i Q (await (.write args.invocationId (.restoreUnsentSpawnClaim (args.unsentClaim w))
      args.restoreAccounts) >>= f) n := by
  by_cases hpreserve : args.preserveSpawnReservation = true
  · have hslot : args.slot = 0 := if_neg (by simp [hpreserve])
    rw [hslot, zero_add] at hf
    exact Pays.write_reuses (if_pos hpreserve) rfl hf
  · have hleaves : (Write.restoreUnsentSpawnClaim (args.unsentClaim w)).leaves = none := by
      simp [Write.leaves, DispatchArgs.unsentClaim, hpreserve]
    by_cases hheld : args.reservationHeld = true
    · have hslot : args.slot = {args.nodeId} := if_pos (by simp [hpreserve, hheld])
      rw [hslot] at hf
      have haccounts : args.restoreAccounts = .returns args.nodeId := by
        rw [DispatchArgs.restoreAccounts, if_neg hpreserve, if_pos hheld]
      exact Pays.write_returns haccounts rfl hleaves fun r => hf _
    · have hslot : args.slot = 0 := if_neg (by simp [hheld])
      rw [hslot, zero_add] at hf
      have haccounts : args.restoreAccounts = .nothing := by
        rw [DispatchArgs.restoreAccounts, if_neg hpreserve, if_neg hheld]
      exact Pays.write_unheld haccounts rfl hleaves hf

lemma dispatchNative_pays (args : DispatchArgs) (pending : Bool) (w : ClaimWrite) :
    Pays i (PaysForDispatch args n) (dispatchNative args pending w) (args.slot + n) := by
  refine Pays.claim rfl rfl (Pays.pure ⟨rfl, rfl⟩) fun row => ?_
  refine Pays.neutral rfl fun (outcome : SendOutcome) => ?_
  cases outcome with
  | sent => exact Pays.pure ⟨rfl, (zero_add _).symm⟩
  | refused => exact Pays.restore fun _ => Pays.pure ⟨rfl, rfl⟩
  | threw => exact Pays.restore fun _ => Pays.pure ⟨rfl, rfl⟩

lemma dispatchNodeInvocation_pays (args : DispatchArgs) :
    Pays i (PaysForResult args n) (dispatchNodeInvocation args) (args.slot + n) := by
  refine Pays.neutral rfl fun (snapshotted : Option Row) => ?_
  cases snapshotted with
  | none => exact Pays.pure ⟨rfl, rfl⟩
  | some row =>
    refine Pays.neutral rfl fun (connected : Bool) => ?_
    refine Pays.neutral rfl fun (now : Millis) => ?_
    by_cases horigin : args.invocationOrigin = .registeredAction
    · simp only [horigin, if_true]
      exact dispatchRegistered_pays _ _
    · simp only [horigin, if_false]
      exact (dispatchNative_pays _ _ _).bind fun d m hm => Pays.pure hm

/-- A dispatch to a named provider takes no slot along. -/
lemma dispatchNodeProviderInvocation_pays (args : DispatchArgs) (hargs : args.reservationHeld = false)
    (observed : Option Observed) (queue failIfUnavailable : Bool) :
    Pays i (fun _ m => m = n)
      (dispatchNodeProviderInvocation args observed queue failIfUnavailable) n := by
  have hslot : ∀ args' : DispatchArgs, args'.reservationHeld = false → args'.slot = 0 :=
    fun args' h => if_neg (by simp [h])
  refine Pays.neutral rfl fun (live : Bool) => ?_
  cases live with
  | false =>
    cases queue with
    | false =>
      simp only [hargs, Bool.not_false, if_true]
      cases failIfUnavailable with
      | false => exact Pays.pure rfl
      | true => exact Pays.write_unheld rfl rfl rfl fun _ => Pays.pure rfl
    | true =>
      simp only [Bool.not_false, Bool.not_true, Bool.false_eq_true, if_true, if_false]
      have hleaves : ∀ (retryAfterAt : Option Millis) (target : Option ActionId) claim expected,
          (Write.dispatchNodeAttempt
            { args.attempt true retryAfterAt with targetActionId := target } claim expected).leaves =
            if args.reservationHeld then some args.nodeId else none := fun _ _ _ _ => rfl
      rw [← zero_add n, ← hslot args hargs]
      refine Pays.claim rfl (hleaves _ _ _ _) ?_ fun row => ?_
      · rw [hslot args hargs, zero_add]
        split
        · exact (settleDeletedRegisteredAction_pays _ _).bind fun _ m hm => Pays.pure hm
        · exact Pays.pure rfl
      · simp only [Option.isNone_some, Bool.false_and, Bool.false_eq_true, if_false]
        exact Pays.pure (by rw [hslot args hargs, zero_add])
  | true =>
    have hdispatch : ∀ observed, Pays i (fun _ m => m = n)
        (dispatchNodeInvocation { args with observed := observed }) n := by
      intro observed
      have hzero := hslot { args with observed := observed } hargs
      have hpays := dispatchNodeInvocation_pays (i := i) (n := n) { args with observed := observed }
      rw [hzero, zero_add] at hpays
      refine hpays.mono fun a m hm => ?_
      match a with
      | .error _ => exact hm
      | .ok d =>
        rw [hm.2, hzero]
        cases d.accepted <;> exact zero_add n
    simp only [Bool.not_true, Bool.false_eq_true, if_false]
    cases observed with
    | some observed => exact (hdispatch observed).bind fun _ m hm => Pays.pure hm
    | none =>
      refine Pays.neutral rfl fun (row : Option Row) => ?_
      exact (hdispatch _).bind fun _ m hm => Pays.pure hm

/-! ## Spawn requests -/

lemma markUnsentNativeSpawn_pays (x : InvocationId) (nodeId : NodeId) :
    Pays i (fun _ m => m = n) (markUnsentNativeSpawn x nodeId) n :=
  Pays.neutral (f := Prog.done) rfl fun _ => Pays.pure rfl

lemma markUnlessSent_pays (d : Dispatched) (x : InvocationId) (nodeId : NodeId) :
    Pays i (fun _ m => m = n) (markUnlessSent d x nodeId) n := by
  unfold markUnlessSent
  split
  · exact Pays.pure rfl
  · exact markUnsentNativeSpawn_pays _ _

lemma dispatchToShadow_pays (args : SpawnArgs) (placement : Placement) (shadow : Action)
    (providerName : String) : Pays i (fun _ m => m = n)
      (dispatchToShadow args placement shadow providerName) (placement.slot + n) := by
  refine (releasePlacement_pays placement).bind fun _ m hm => ?_
  subst hm
  refine (dispatchNodeProviderInvocation_pays _ rfl _ _ _).bind fun a m hm => ?_
  subst hm
  match a with
  | .error _ => exact Pays.pure rfl
  | .ok ⟨d, _⟩ =>
    simp only
    split <;> exact Pays.pure rfl

lemma dispatchToCapacity_pays (args : SpawnArgs) (placement : Placement) (providerName : String) :
    Pays i (fun _ m => m = n) (dispatchToCapacity args placement providerName)
      (placement.slot + n) := by
  have hslot : ({ args.dispatchArgs placement.nodeId providerName with
      pending := placement.queued, reservationHeld := !placement.queued } : DispatchArgs).slot =
      placement.slot := by
    unfold DispatchArgs.slot Placement.slot SpawnArgs.dispatchArgs
    cases placement.queued <;> rfl
  have hdispatch := dispatchNodeInvocation_pays (i := i) (n := n)
    { args.dispatchArgs placement.nodeId providerName with
      pending := placement.queued, reservationHeld := !placement.queued }
  rw [hslot] at hdispatch
  refine hdispatch.bind fun a m hm => ?_
  match a with
  | .error _ => exact Pays.pure hm
  | .ok d =>
    obtain ⟨-, rfl⟩ := hm
    have howed : (if d.accepted then 0 else placement.slot) =
        if !d.accepted && !placement.queued then {placement.nodeId} else 0 := by
      unfold Placement.slot
      cases d.accepted <;> cases placement.queued <;> rfl
    rw [hslot, howed]
    refine (releaseWhen_pays _ _).bind fun _ m hm => ?_
    subst hm
    exact (markUnlessSent_pays _ _ _).bind fun _ m hm => Pays.pure hm

lemma dispatchReady_pays (args : SpawnArgs) (placement : Placement) (shadow : Option Action)
    (capProvider : String) : Pays i (fun _ m => m = n)
      (dispatchReady args placement shadow capProvider) (placement.slot + n) := by
  refine Pays.neutral rfl fun (snapshotted : Option Row) => ?_
  cases snapshotted with
  | none => exact (releasePlacement_pays placement).bind fun _ m hm => Pays.pure hm
  | some row =>
    simp only [Option.isNone_some, Bool.false_eq_true, if_false]
    split
    · refine Pays.neutral rfl fun (bound : Option Row) => ?_
      cases bound with
      | none => exact dispatchToCapacity_pays _ _ _
      | some row => exact dispatchToShadow_pays _ _ _ _
    · exact dispatchToCapacity_pays _ _ _

lemma dispatchPlaced_pays (args : SpawnArgs) (placement : Placement) :
    Pays i (fun _ m => m = n) (dispatchPlaced args placement) (placement.slot + n) := by
  have hshadow : Pays i (fun _ m => m = placement.slot + n) (spawnShadow args placement.nodeId)
      (placement.slot + n) := by
    unfold spawnShadow
    cases args.bypassShadow with
    | true => exact Pays.pure rfl
    | false => exact Pays.neutral (f := Prog.done) rfl fun _ => Pays.pure rfl
  have hready : ∀ name, Pays i (fun _ m => m = placement.slot + n)
      (verifyReady args placement name) (placement.slot + n) := by
    intro name
    unfold verifyReady
    cases args.input.verifyReady with
    | false => exact Pays.pure rfl
    | true =>
      cases placement.queued with
      | true => exact Pays.pure rfl
      | false => exact Pays.neutral (f := Prog.done) rfl fun _ => Pays.pure rfl
  refine hshadow.bind fun shadow m hm => ?_
  subst hm
  refine Pays.neutral rfl fun (name : Option String) => ?_
  refine (hready _).bind fun ready m hm => ?_
  subst hm
  cases ready with
  | true => exact dispatchReady_pays _ _ _ _
  | false =>
    refine Pays.write_unheld rfl rfl rfl fun _ => ?_
    exact (releasePlacement_pays placement).bind fun _ m hm => Pays.pure hm

lemma dispatchSpawn_pays (args : SpawnArgs) :
    Pays i (fun _ m => m = n) (dispatchSpawn args) n := by
  refine Pays.neutral rfl fun (created : Bool) => ?_
  cases created with
  | false =>
    simp only [Bool.not_false, if_true]
    split <;> exact Pays.pure rfl
  | true =>
    refine (claimSpawnNode_pays _).bind fun a m hm => ?_
    match a with
    | .error _ => exact Pays.neutral rfl fun _ => Pays.pure hm
    | .ok placement =>
      rw [show m = placement.slot + n from hm]
      exact dispatchPlaced_pays _ _

/-! ## Draining -/

lemma failOpenInvocationRow_pays (x : InvocationId) (error : String) (revision : Option ℕ) :
    Pays i (fun _ m => m = n) (failOpenInvocationRow x error revision) n := by
  refine Pays.neutral rfl fun (held : Option Row) => ?_
  split
  · exact Pays.write_unheld rfl rfl rfl fun _ => Pays.pure rfl
  · refine Pays.write_takes rfl rfl rfl (Pays.pure rfl) fun r => ?_
    exact releaseWhen_pays true _

lemma remarkUnsent_pays (r : Row) (nodeId : NodeId) :
    Pays i (fun _ m => m = n) (r.remarkUnsent nodeId) n := by
  unfold Row.remarkUnsent
  split
  · exact markUnsentNativeSpawn_pays _ _
  · exact Pays.pure rfl

/-- A drain dispatches with the slot it has reserved, or with the hold of the row. -/
lemma drainDispatch_pays (nodeId : NodeId) (r : Row) (providerName : String)
    (reservationHeld reservedForDrain : Bool) (h : reservedForDrain = true → reservationHeld = true) :
    Pays i (fun _ m => m = n)
      (drainDispatch nodeId r providerName reservationHeld reservedForDrain)
      ((if reservedForDrain then {nodeId} else 0) + n) := by
  have hslot : ∀ now, (r.drainArgs nodeId providerName now reservationHeld reservedForDrain).slot =
      if reservedForDrain then {nodeId} else 0 := by
    intro now
    unfold DispatchArgs.slot Row.drainArgs
    cases reservedForDrain with
    | true => simp [h rfl]
    | false => cases reservationHeld <;> rfl
  refine Pays.neutral rfl fun (now : Millis) => ?_
  have hdispatch := dispatchNodeInvocation_pays (i := i) (n := n)
    (r.drainArgs nodeId providerName now reservationHeld reservedForDrain)
  rw [hslot] at hdispatch
  refine hdispatch.bind fun a m hm => ?_
  match a with
  | .error _ =>
    rw [show m = n from hm]
    cases reservedForDrain with
    | true => exact Pays.release_stored
    | false => exact Pays.pure rfl
  | .ok d =>
    obtain ⟨-, rfl⟩ := hm
    have howed : (if d.accepted then 0 else if reservedForDrain then {nodeId} else 0) =
        if !d.accepted && reservedForDrain then ({nodeId} : Multiset NodeId) else 0 := by
      cases d.accepted <;> cases reservedForDrain <;> rfl
    rw [hslot, howed]
    refine (releaseWhen_pays _ _).bind fun _ m hm => ?_
    subst hm
    have hmark : Pays i (fun _ k => k = m) (r.remarkUnlessSent d nodeId) m := by
      unfold Row.remarkUnlessSent
      split
      · exact Pays.pure rfl
      · exact remarkUnsent_pays _ _
    refine hmark.bind fun _ k hk => ?_
    exact Pays.pure hk

lemma deferDrain_pays (nodeId : NodeId) (r : Row) :
    Pays i (fun _ m => m = n) (deferDrain nodeId r) n := by
  refine (remarkUnsent_pays r nodeId).bind fun _ m hm => ?_
  subst hm
  refine Pays.neutral rfl fun (node : Option Node) => ?_
  cases node with
  | none => exact Pays.pure rfl
  | some node =>
    refine Pays.neutral rfl fun (ready : Bool) => ?_
    cases ready with
    | false => exact Pays.pure rfl
    | true => exact Pays.neutral rfl fun _ => Pays.pure rfl

lemma drainClaimed_pays (nodeId : NodeId) (r : Row) (providerName : String) (nativeSpawn : Bool) :
    Pays i (fun _ m => m = n) (drainClaimed nodeId r providerName nativeSpawn) n := by
  unfold drainClaimed
  split
  · exact Pays.reserve (drainDispatch_pays _ _ _ true true fun _ => rfl) (deferDrain_pays _ _)
  · have hdispatch := drainDispatch_pays (i := i) (n := n) nodeId r providerName nativeSpawn false
      (by simp)
    rwa [if_neg Bool.false_ne_true, zero_add] at hdispatch

lemma drainRow_pays (nodeId : NodeId) (r : Row) (action : Option Action) :
    Pays i (fun _ m => m = n) (drainRow nodeId r action) n := by
  unfold drainRow
  split
  · exact (failOpenInvocationRow_pays _ _ _).bind fun _ m hm => Pays.pure hm
  · split
    · exact Pays.pure rfl
    · refine Pays.neutral rfl fun (shadow : Option Action) => ?_
      have hprovider : Pays i (fun _ m => m = n) (drainProvider nodeId r action shadow) n := by
        unfold drainProvider
        split
        · exact Pays.pure rfl
        · split
          · exact Pays.pure rfl
          · exact Pays.neutral rfl fun _ => Pays.pure rfl
      refine hprovider.bind fun providerName m hm => ?_
      subst hm
      refine Pays.neutral rfl fun (live : Bool) => ?_
      cases live with
      | false => exact Pays.pure rfl
      | true =>
        have hclaim : Pays i (fun _ k => k = m) (claimDrain r) m := by
          unfold claimDrain
          split
          · exact Pays.neutral rfl fun _ => Pays.pure rfl
          · exact Pays.pure rfl
        refine hclaim.bind fun claimed k hk => ?_
        subst hk
        cases claimed with
        | false => exact Pays.pure rfl
        | true => exact drainClaimed_pays _ _ _ _

lemma drainEach_pays (nodeId : NodeId) (rows : List (Row × Option Action)) :
    Pays i (fun _ m => m = n) (drainEach nodeId rows) n := by
  induction rows with
  | nil => exact Pays.pure rfl
  | cons row rest ih =>
    refine (drainRow_pays nodeId row.1 row.2).bind fun _ m hm => ?_
    subst hm
    exact ih.bind fun _ k hk => Pays.pure hk

/-! ## Placing a spawn anew -/

lemma queueRetry_pays (r : Row) (opts : RescheduleOptions) (nodeId : NodeId)
    (providerName : String) (target : Option Action) :
    Pays i (fun _ m => m = n) (queueRetry r opts nodeId providerName target) n := by
  refine Pays.neutral rfl fun (now : Millis) => ?_
  refine Pays.write_unheld rfl rfl rfl fun accepted => ?_
  split
  · exact (settleDeletedRegisteredAction_pays _ _).bind fun _ m hm => Pays.pure hm
  · exact Pays.pure rfl

lemma dispatchRetry_pays (r : Row) (opts : RescheduleOptions) (nodeId : NodeId)
    (providerName : String) (target : Option Action) :
    Pays i (fun _ m => m = n) (dispatchRetry r opts nodeId providerName target)
      ({nodeId} + n) := by
  have hdispatch := dispatchNodeInvocation_pays (i := i) (n := n)
    (r.retryArgs opts nodeId providerName (target.map Action.id) true)
  refine hdispatch.bind fun a m hm => ?_
  match a with
  | .error _ => exact Pays.release_stored
  | .ok d =>
    obtain ⟨hsent, rfl⟩ := hm
    have howed : (if d.accepted then 0
        else (r.retryArgs opts nodeId providerName (target.map Action.id) true).slot) =
        if !d.accepted && !d.sent then ({nodeId} : Multiset NodeId) else 0 := by
      rw [hsent]
      cases d.accepted <;> rfl
    rw [howed]
    exact (releaseWhen_pays _ _).bind fun _ m hm => Pays.pure hm

lemma retryPhase_pays (r : Row) (opts : RescheduleOptions) (rounds : ℕ)
    (excluded rejected : List NodeId) :
    Pays i (fun _ m => m = n) (retryPhase r opts rounds excluded rejected) n := by
  induction rounds generalizing rejected with
  | zero => exact Pays.pure rfl
  | succ rounds ih =>
    refine (claimSpawnNode_pays _).bind fun a m hm => ?_
    match a with
    | .error _ => exact Pays.pure hm
    | .ok placement =>
      rw [show m = placement.slot + n from hm]
      refine Pays.neutral rfl fun (target : Option Action) => ?_
      dsimp only
      split
      · refine (releasePlacement_pays placement).bind fun _ m hm => ?_
        subst hm
        refine (dispatchNodeProviderInvocation_pays _ rfl _ _ _).bind fun a k hk => ?_
        subst hk
        match a with
        | .error _ => exact Pays.pure rfl
        | .ok d =>
          simp only
          split
          · exact ih _
          · exact Pays.pure rfl
      · refine Pays.neutral rfl fun (name : Option String) => ?_
        cases hqueued : placement.queued with
        | true =>
          have hslot : placement.slot = 0 := if_pos hqueued
          rw [hslot, zero_add]
          exact (queueRetry_pays _ _ _ _ _).bind fun _ m hm => Pays.pure hm
        | false =>
          have hslot : placement.slot = {placement.nodeId} := if_neg (by simp [hqueued])
          rw [hslot]
          refine (dispatchRetry_pays _ _ _ _ _).bind fun accepted m hm => ?_
          subst hm
          cases accepted <;> exact Pays.pure rfl

lemma retryPhases_pays (r : Row) (opts : RescheduleOptions) (rounds : ℕ)
    (candidates : List (List NodeId)) (rejected : List NodeId) :
    Pays i (fun _ m => m = n) (retryPhases r opts rounds candidates rejected) n := by
  induction candidates generalizing rejected with
  | nil => exact Pays.pure rfl
  | cons excluded rest ih =>
    refine (retryPhase_pays _ _ _ _ _).bind fun a m hm => ?_
    subst hm
    cases a with
    | returned accepted => exact Pays.pure rfl
    | exhausted rejected => exact ih _

lemma releaseHold_pays (r : Row) (opts : RescheduleOptions) :
    Pays i (fun _ m => m = n) (releaseHold r opts) n := by
  unfold releaseHold
  split
  · refine Pays.write_takes rfl rfl rfl (Pays.pure rfl) fun _ => ?_
    exact releaseWhen_pays true _
  · exact Pays.pure rfl

lemma rescheduleUnshadowed_pays (r : Row) (opts : RescheduleOptions) (rounds : ℕ) :
    Pays i (fun _ m => m = n) (rescheduleUnshadowed r opts rounds) n := by
  refine (retryPhases_pays _ _ _ _ _).bind fun a m hm => ?_
  subst hm
  match a with
  | .returned accepted => exact Pays.pure rfl
  | .exhausted [] => exact Pays.write_unheld rfl rfl rfl fun _ => Pays.pure rfl
  | .exhausted (_ :: _) => exact Pays.write_unheld rfl rfl rfl fun _ => Pays.pure rfl

lemma rescheduleNodeInvocation_pays (r : Row) (opts : RescheduleOptions) (rounds : ℕ) :
    Pays i (fun _ m => m = n) (rescheduleNodeInvocation r opts rounds) n := by
  unfold rescheduleNodeInvocation
  split
  · exact Pays.pure rfl
  · split
    · exact (failOpenInvocationRow_pays _ _ _).bind fun _ m hm => Pays.pure hm
    · refine (releaseHold_pays _ _).bind fun _ m hm => ?_
      subst hm
      have hshadow : Pays i (fun _ k => k = m) (retryShadow r) m := by
        unfold retryShadow
        split
        · exact Pays.neutral (f := Prog.done) rfl fun _ => Pays.pure rfl
        · exact Pays.pure rfl
      refine hshadow.bind fun shadow k hk => ?_
      subst hk
      cases shadow with
      | none => exact rescheduleUnshadowed_pays _ _ _
      | some action => exact Pays.write_unheld rfl rfl rfl fun _ => Pays.pure rfl

lemma rescheduleEach_pays (opts : Row → Millis → RescheduleOptions) (rounds : ℕ)
    (rows : List Row) : Pays i (fun _ m => m = n) (rescheduleEach opts rounds rows) n := by
  induction rows with
  | nil => exact Pays.pure rfl
  | cons r rest ih =>
    refine Pays.neutral rfl fun (now : Millis) => ?_
    refine (rescheduleNodeInvocation_pays _ _ _).bind fun _ m hm => ?_
    subst hm
    exact ih.bind fun _ k hk => Pays.pure hk

/-! ## Detaching and completing -/

/-- An update that takes the slot its snapshot showed, with the release that follows. -/
lemma takeAndRelease_pays {α : Type} {Q : α → Multiset NodeId → Prop} (r : Row) (nodeId : NodeId)
    {u : Write} (hu : u.movesHold = true) (hleaves : u.leaves = none) {f : Option Row → Prog lang α}
    (hf : ∀ updated, Pays i Q (f updated) n) :
    Pays i Q (do
      let updated : Option Row ← await (.write r.id u (r.detachAccounts nodeId))
      releaseWhen (updated.isSome && r.spawnReservedAt.isSome) nodeId
      f updated) n := by
  have hrelease : ∀ (updated : Option Row) (owed : Bool), Pays i Q (do
      releaseWhen owed nodeId
      f updated) ((if owed then {nodeId} else 0) + n) := by
    intro updated owed
    refine (releaseWhen_pays owed nodeId).bind fun _ m hm => ?_
    subst hm
    exact hf updated
  have hnone : ∀ updated, Pays i Q (do
      releaseWhen false nodeId
      f updated) n := fun updated => zero_add n ▸ hrelease updated false
  by_cases hmark : r.spawnReservedAt.isSome = true
  · refine Pays.write_takes (if_pos hmark) hu hleaves (hnone none) fun r' => ?_
    rw [hmark]
    exact hrelease (some r') true
  · have hfalse : r.spawnReservedAt.isSome = false := Bool.eq_false_iff.mpr hmark
    refine Pays.write_unheld (if_neg hmark) hu hleaves fun updated => ?_
    rw [hfalse, Bool.and_false]
    exact hnone updated

lemma detachEach_pays (nodeId : NodeId) (rows : List Row) :
    Pays i (fun _ m => m = n) (detachEach nodeId rows) n := by
  induction rows with
  | nil => exact Pays.pure rfl
  | cons r rest ih =>
    unfold detachEach
    split
    · exact ih
    · refine takeAndRelease_pays r nodeId rfl rfl fun reset => ?_
      exact ih.bind fun _ k hk => Pays.pure hk

lemma closeInvocation_pays (nodeId : NodeId) (providerName : String) (existing : Row)
    (data : Completion) :
    Pays i (fun _ m => m = n) (closeInvocation nodeId providerName existing data) n :=
  takeAndRelease_pays existing nodeId rfl rfl fun _ => Pays.pure rfl

lemma completeNodeInvocation_pays (nodeId : NodeId) (providerName : String) (x : InvocationId)
    (data : Completion) (rounds : ℕ) :
    Pays i (fun _ m => m = n) (completeNodeInvocation nodeId providerName x data rounds) n := by
  refine Pays.neutral rfl fun (existing : Option Row) => ?_
  cases existing with
  | none => exact Pays.pure rfl
  | some existing =>
    dsimp only
    split
    · exact Pays.pure rfl
    · split
      · exact Pays.pure rfl
      · split
        · refine Pays.neutral rfl fun _ => ?_
          refine Pays.neutral rfl fun (now : Millis) => ?_
          refine (rescheduleNodeInvocation_pays _ _ _).bind fun rescheduled m hm => ?_
          subst hm
          cases rescheduled with
          | true => exact Pays.pure rfl
          | false => exact closeInvocation_pays _ _ _ _
        · exact closeInvocation_pays _ _ _ _

/-! ## Every run -/

/-- Every call releases what it reserves, or stores it. -/
lemma body_pays (c : Call) : Pays i (fun _ m => m = 0) c.body 0 := by
  cases c with
  | dispatchSpawn args => exact dispatchSpawn_pays args
  | drainNodeInvocations nodeId includeDeferred =>
    refine Pays.neutral rfl fun (now : Millis) => ?_
    exact Pays.neutral rfl fun _ => drainEach_pays _ _
  | sweepTimedOutInvocations timeoutMs rounds =>
    refine Pays.neutral rfl fun (now : Millis) => ?_
    refine Pays.neutral rfl fun _ => ?_
    exact Pays.neutral rfl fun _ => rescheduleEach_pays _ _ _
  | rescheduleInvocationsForLostNode nodeId claimRevision rounds =>
    exact Pays.neutral rfl fun _ => rescheduleEach_pays _ _ _
  | detachInvocationsFromLostNode nodeId claimRevision =>
    exact Pays.neutral rfl fun _ => detachEach_pays _ _
  | completeNodeInvocation nodeId providerName x data rounds =>
    exact completeNodeInvocation_pays _ _ _ _ _

/-- Without a call nothing is reserved and nothing is held. -/
lemma ledger_init {s : Store} (hs : service.init s) : ledger.inv ⟨s, []⟩ 0 := by
  intro nodeId
  have hreserved : s.reservedAgents nodeId = 0 := by
    rw [Store.reservedAgents]
    split
    · next n hn => exact hs.1 n (List.mem_of_find?_eq_some hn)
    · rfl
  have hheld : s.heldOn nodeId = 0 := by
    refine List.countP_eq_zero.mpr fun r hr hhold => ?_
    rw [r.hold_of_unmarked (hs.2 r hr)] at hhold
    simp at hhold
  exact ⟨by rw [hreserved, hheld]; rfl, by rw [hreserved]; rfl⟩

/-- Nothing outside the invocation functions reserves, releases or moves a hold. -/
lemma ledger_drift (d : Drift) {w : World lang Store} {m : Multiset NodeId}
    (h : ledger.inv w m) : ledger.inv (w.drift machine d) m := by
  intro nodeId
  have hreserved : (w.drift machine d).store.reservedAgents nodeId =
      w.store.reservedAgents nodeId := by
    cases d with
    | profile x name capabilities status handlersLive maxAgents activeAgents revision =>
      have hupdate : (w.drift machine (.profile x name capabilities status handlersLive maxAgents
          activeAgents revision)).store.node? nodeId = _ := w.store.node?_updateNodes nodeId
      rw [Store.reservedAgents, Store.reservedAgents, hupdate]
      cases w.store.node? nodeId with
      | none => rfl
      | some n =>
        simp only [Option.map_some]
        split_ifs <;> rfl
    | actions actions => rfl
  have hheld : (w.drift machine d).store.heldOn nodeId = w.store.heldOn nodeId := by
    cases d with
    | profile _ _ _ _ _ _ _ _ => rfl
    | actions actions =>
      show (w.store.invocations.rows.map _).countP _ = w.store.invocations.rows.countP _
      rw [List.countP_map]
      refine List.countP_congr fun r _ => ?_
      simp only [Function.comp_apply]
      split_ifs <;> exact Iff.rfl
  rw [hreserved, hheld]
  exact h nodeId

lemma ledger_keeps : ledger.Keeps service findingRecordedHolds (fun _ _ _ n _ => n = 0) where
  init _ hs := ledger_init hs
  drift_inv d _ _ h := ledger_drift d h
  drift_rely _ _ _ := trivial
  call c _ _ w _ _ _ := body_pays c w

/-- Let call `i` execute `k` statements at the time `now`. -/
def execute (i k : ℕ) (outcome : SendOutcome) : List service.Move :=
  List.replicate k (.exec i (steady 1000000 ["n", "m"] outcome))

/-- Two spawns are dispatched to one node, and its provider cannot handle the first.  The retry
gives the slot back and places the spawn on the other node, whose socket refuses the frame; the
completion then releases the slot its snapshot showed. -/
def handlerUnavailable : List service.Move :=
  .start (spawnRequest "a") :: execute 0 11 .sent ++
    .start (spawnRequest "b") :: execute 1 11 .sent ++
    .start (.completeNodeInvocation "n" "default" "a" ⟨none, some "handler_unavailable"⟩ 3) ::
    execute 2 20 .refused

end Invocation
