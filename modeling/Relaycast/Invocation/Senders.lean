import Relaycast.Interleaving.Safety
import Relaycast.Invocation.Dispatch

/-!
# Concurrent senders of one spawn

Any number of senders hold an observation of one native spawn and run `dispatchNodeInvocation`
on it: claim the row, hand the frame over, take the claim back if it was not accepted.  The claim
compares the three tokens; the restore compares two of them, the *fence*: the deadline and the
number of attempts.

A claim moves a token, so of the senders that hold one observation one wins until the row comes
back to it.  A restore finds its own claim as long as nobody else writes the fence of a sender
that has not learned its outcome yet.  Nothing in the code enforces that: a claim and a failed
restore of two other senders can bring the fence back.
-/

namespace Invocation

open Relational Interleaving

/-! ## The system -/

/-- A sender of the native spawn `id`. -/
structure Sender (id : InvocationId) where
  args : DispatchArgs
  invocationId_eq : args.invocationId = id
  native : args.invocationOrigin ≠ .registeredAction

/-- Any number of senders of one spawn. -/
def senders (id : InvocationId) :
    System lang Store (Sender id) (fun _ => Except Thrown Dispatched) where
  toMachine := machine
  body c := dispatchNodeInvocation c.args
  init _ := True

/-! ## Claims, restores and the fence -/

/-- What a restore compares. -/
abbrev Fence := Option Seconds × ℕ

/-- The fence of a row. -/
def Row.fence (r : Row) : Fence := (r.retryAfterAt, r.dispatchAttempts)

/-- The tokens an exclusive claim compares. -/
def Write.observes : Write → Option Tokens
  | .dispatchNodeAttempt _ (some c) _ => some c.tokens
  | _ => none

/-- The fence an exclusive claim or a restore leaves. -/
def Write.leavesFence : Write → Option Fence
  | .dispatchNodeAttempt a (some c) _ =>
    some (a.retryAfterAt.map toSeconds,
      if a.skipIncrementAttempts then c.tokens.dispatchAttempts
      else c.tokens.dispatchAttempts + 1)
  | .restoreUnsentSpawnClaim c =>
    some (c.restoreRetryAfterAt.map toSeconds, c.restoreDispatchAttempts)
  | _ => none

/-- Is it a restore? -/
def Write.isRestore : Write → Bool
  | .restoreUnsentSpawnClaim _ => true
  | _ => false

namespace Store

variable (s : Store) (id : InvocationId)

/-- The tokens of the stored row. -/
def tokens : Option Tokens := (s.invocation? id).map Row.tokens

/-- The fence of the stored row. -/
def fence : Option Fence := (s.invocation? id).map Row.fence

end Store

section Events

variable (id : InvocationId) (e : Event lang Store)

/-- The update of the row that the event is, if it hit. -/
def effective : Option Write :=
  match e.stmt with
  | .write x w _ => if x == id && (e.before.hit x w).isSome then some w else none
  | _ => none

/-- The observation with which the event won a claim. -/
def wonWith : Option Tokens := (effective id e).bind Write.observes

/-- Did the event win a claim? -/
def wins : Bool := (wonWith id e).isSome

/-- Did the event take a claim back? -/
def restores : Bool := (effective id e).any Write.isRestore

/-- Is the event after which a sender has nothing left to take back: a frame that was accepted, or
its restore? -/
def settles : Bool :=
  match e with
  | ⟨_, .sendToProvider .., _, (reply : SendOutcome), _, _⟩ => reply == .sent
  | ⟨_, .write _ (.restoreUnsentSpawnClaim _) _, _, _, _, _⟩ => true
  | _ => false

end Events

/-- Has call `j` won a claim that left the fence `f`, with its outcome still open? -/
def awaitsOutcome (id : InvocationId) (w : World lang Store) (j : ℕ) (f : Fence) : Prop :=
  (∃ e ∈ w.eventsOf j, wins id e = true ∧ (effective id e).bind Write.leavesFence = some f) ∧
    ∀ e ∈ w.eventsOf j, settles e = false

/-- The exclusion of senders, over everything that was executed (latest first). -/
structure ExclusiveClaims (id : InvocationId) (trace : List (Event lang Store)) : Prop where
  /-- Two senders win with one observation only if the row has come back to it in between. -/
  one_winner : ∀ l₃ e₂ l₂ e₁ l₁ t, trace = l₃ ++ e₂ :: (l₂ ++ e₁ :: l₁) →
    wonWith id e₁ = some t → wonWith id e₂ = some t →
      ∃ e ∈ l₂, e.before.tokens id ≠ some t ∧ e.after.tokens id = some t
  /-- A winner moves a token. -/
  moves : ∀ e ∈ trace, wins id e = true → e.after.tokens id ≠ e.before.tokens id
  /-- A restore that changes the row finds the claim of its own sender, the latest winner. -/
  own_restore : ∀ l₂ e l₁, trace = l₂ ++ e :: l₁ → restores id e = true →
    (l₁.find? (wins id)).map Event.caller = some e.caller

/-! ## The condition -/

/-- **The condition.**  A winning claim and a restore that hits leave no fence that another sender
has claimed and has no outcome for. -/
def leavesFencesAlone (id : InvocationId) : Regime lang Store (Sender id) where
  calls := fun _ => True
  permits := fun w i q => ∀ u acc f, q = .write id u acc → (w.store.hit id u).isSome →
    u.leavesFence = some f → ∀ j, j ≠ i → ¬ awaitsOutcome id w j f
  crashes := False

/-! ## What the senders keep -/

/-- The exclusion of senders, with what it rests on: a winner's observation is gone until the row
comes back to it, and the fence of a sender without an outcome is on the row only as long as that
sender is the latest winner. -/
structure SendersInv (id : InvocationId) (w : World lang Store) : Prop where
  exclusive : ExclusiveClaims id w.trace
  comesBack : ∀ l₂ e₁ l₁ t, w.trace = l₂ ++ e₁ :: l₁ → wonWith id e₁ = some t →
    (∃ e ∈ l₂, e.before.tokens id ≠ some t ∧ e.after.tokens id = some t) ∨
      w.store.tokens id ≠ some t
  fenced : ∀ j f, awaitsOutcome id w j f → w.store.fence id = some f →
    (w.trace.find? (wins id)).map Event.caller = some j

section Steps

variable {id : InvocationId} {w : World lang Store} {i : ℕ} {q : Stmt} {a : q.Answer}

/-- An event that wins no claim opens no outcome. -/
lemma awaitsOutcome_of_after (hwins : wins id (w.event machine i q a) = false) {j : ℕ} {f : Fence}
    (h : awaitsOutcome id (w.after machine i q a) j f) : awaitsOutcome id w j f := by
  by_cases hj : j = i
  · subst hj
    obtain ⟨⟨e, he, hwon, hfence⟩, hopen⟩ := h
    rw [World.eventsOf_after_self] at he hopen
    have he' : e ∈ w.eventsOf j := by
      rcases List.mem_cons.mp he with rfl | he
      · rw [hwins] at hwon
        simp at hwon
      · exact he
    exact ⟨⟨e, he', hwon, hfence⟩, fun e he => hopen e (List.mem_cons_of_mem _ he)⟩
  · unfold awaitsOutcome at h
    rw [World.eventsOf_after_ne _ _ _ _ _ hj] at h
    exact h

/-- The first two parts of the exclusion after one event more. -/
lemma SendersInv.one_winner_after (h : SendersInv id w)
    (hobserved : ∀ t, wonWith id (w.event machine i q a) = some t → w.store.tokens id = some t) :
    ∀ l₃ e₂ l₂ e₁ l₁ t, (w.after machine i q a).trace = l₃ ++ e₂ :: (l₂ ++ e₁ :: l₁) →
      wonWith id e₁ = some t → wonWith id e₂ = some t →
        ∃ e ∈ l₂, e.before.tokens id ≠ some t ∧ e.after.tokens id = some t := by
  intro l₃ e₂ l₂ e₁ l₁ t htrace h₁ h₂
  cases l₃ with
  | nil =>
    obtain ⟨rfl, htail⟩ := List.cons.inj htrace
    rcases h.comesBack l₂ e₁ l₁ t htail h₁ with hback | hgone
    · exact hback
    · exact absurd (hobserved t h₂) hgone
  | cons e l₃ =>
    obtain ⟨-, htail⟩ := List.cons.inj htrace
    exact h.exclusive.one_winner l₃ e₂ l₂ e₁ l₁ t htail h₁ h₂

/-- A winner's observation is gone, or has come back, after one event more. -/
lemma SendersInv.comesBack_after (h : SendersInv id w)
    (hmoves : ∀ t, wonWith id (w.event machine i q a) = some t →
      (machine.run q a w.store).2.tokens id ≠ some t) :
    ∀ l₂ e₁ l₁ t, (w.after machine i q a).trace = l₂ ++ e₁ :: l₁ → wonWith id e₁ = some t →
      (∃ e ∈ l₂, e.before.tokens id ≠ some t ∧ e.after.tokens id = some t) ∨
        (w.after machine i q a).store.tokens id ≠ some t := by
  intro l₂ e₁ l₁ t htrace h₁
  cases l₂ with
  | nil =>
    obtain ⟨rfl, -⟩ := List.cons.inj htrace
    exact .inr (hmoves t h₁)
  | cons e l₂ =>
    obtain ⟨rfl, htail⟩ := List.cons.inj htrace
    rcases h.comesBack l₂ e₁ l₁ t htail h₁ with ⟨e, he, hback⟩ | hgone
    · exact .inl ⟨e, List.mem_cons_of_mem _ he, hback⟩
    · by_cases hback : (w.after machine i q a).store.tokens id = some t
      · exact .inl ⟨_, List.mem_cons_self, hgone, hback⟩
      · exact .inr hback

/-- A statement that leaves the row's tokens and is neither a won claim nor a restore keeps the
invariant. -/
lemma SendersInv.neutral (h : SendersInv id w)
    (heffective : ∀ u, effective id (w.event machine i q a) = some u →
      u.observes = none ∧ u.isRestore = false)
    (hfence : (machine.run q a w.store).2.fence id = w.store.fence id) :
    SendersInv id (w.after machine i q a) := by
  have hwon : wonWith id (w.event machine i q a) = none := by
    rw [wonWith]
    cases hu : effective id (w.event machine i q a) with
    | none => rfl
    | some u => exact (heffective u hu).1
  have hwins : wins id (w.event machine i q a) = false := by rw [wins, hwon]; rfl
  have hrestores : restores id (w.event machine i q a) = false := by
    rw [restores]
    cases hu : effective id (w.event machine i q a) with
    | none => rfl
    | some u => exact (heffective u hu).2
  refine ⟨⟨h.one_winner_after fun t ht => ?_, fun e he hw => ?_, fun l₂ e l₁ htrace hr => ?_⟩,
    h.comesBack_after fun t ht => ?_, fun j f hj hf => ?_⟩
  · rw [hwon] at ht
    simp at ht
  · rcases List.mem_cons.mp he with rfl | he
    · rw [hwins] at hw
      simp at hw
    · exact h.exclusive.moves e he hw
  · cases l₂ with
    | nil =>
      obtain ⟨rfl, -⟩ := List.cons.inj htrace
      rw [hrestores] at hr
      simp at hr
    | cons e' l₂ =>
      obtain ⟨-, htail⟩ := List.cons.inj htrace
      exact h.exclusive.own_restore l₂ e l₁ htail hr
  · rw [hwon] at ht
    simp at ht
  · rw [World.after_store, hfence] at hf
    rw [World.after_trace, List.find?_cons_of_neg (by simp [hwins])]
    exact h.fenced j f (awaitsOutcome_of_after hwins hj) hf

/-! ## The statements of a sender -/

/-- The event of an update of the row. -/
lemma effective_write {x : InvocationId} {u : Write} {acc : Accounts}
    {a : Stmt.Answer (.write x u acc)} {u' : Write}
    (h : effective id (w.event machine i (.write x u acc) a) = some u') :
    u' = u ∧ x = id ∧ (w.store.hit x u).isSome = true := by
  have heff : (if x == id && (w.store.hit x u).isSome then some u else none) = some u' := h
  split_ifs at heff with hcond
  obtain ⟨hx, hhit⟩ := Bool.and_eq_true_iff.mp hcond
  exact ⟨(Option.some.inj heff).symm, beq_iff_eq.mp hx, hhit⟩

/-- An update of the row that hits. -/
lemma effective_of_hit {u : Write} {acc : Accounts} {a : Stmt.Answer (.write id u acc)}
    (h : (w.store.hit id u).isSome = true) :
    effective id (w.event machine i (.write id u acc) a) = some u := by
  show (if id == id && (w.store.hit id u).isSome then some u else none) = some u
  rw [if_pos (by simp [h])]

/-- An update that hits no row keeps the invariant. -/
lemma SendersInv.missed (h : SendersInv id w) {u : Write} {acc : Accounts}
    (hmiss : w.store.hit id u = none) (a : Stmt.Answer (.write id u acc)) :
    SendersInv id (w.after machine i (.write id u acc) a) := by
  have hrow : (machine.run (.write id u acc) a w.store).2.invocation? id =
      w.store.invocation? id := w.store.invocation?_write_of_miss hmiss id a
  refine h.neutral (fun u' hu' => ?_) ?_
  · have hhit := (effective_write hu').2.2
    rw [hmiss] at hhit
    simp at hhit
  · rw [Store.fence, hrow, Store.fence]

/-- The tokens a claim leaves are those `exclusiveClaimWrite` chose. -/
lemma tokens_attempted {args : DispatchArgs} {pending : Bool} {now at' : Millis} {r : Row}
    {actionId : Option ActionId} (hr : r.tokens = (args.claimArgs pending).observed) :
    (r.attempted (args.attempt pending
      (exclusiveClaimWrite (args.claimArgs pending) now).retryAfterAt) actionId at').tokens =
      (args.claimArgs pending).claimed now := by
  have hattempts : r.dispatchAttempts = args.observed.dispatchAttempts :=
    congrArg Tokens.dispatchAttempts hr
  rw [ClaimArgs.claimed, exclusiveClaimWrite_dispatchAttempts]
  cases hskip : args.skipIncrementAttempts <;>
    simp [Row.tokens, Row.attempted, DispatchArgs.attempt, DispatchArgs.claimArgs, hskip,
      hattempts]

/-- The claim of a sender. -/
abbrev DispatchArgs.claimWrite (args : DispatchArgs) (pending : Bool) (now : Millis) : Write :=
  .dispatchNodeAttempt
    (args.attempt pending (exclusiveClaimWrite (args.claimArgs pending) now).retryAfterAt)
    (some (args.claim pending)) none

/-- The fence a sender's claim leaves is the one its restore compares. -/
lemma leavesFence_claimWrite (args : DispatchArgs) (pending : Bool) (now : Millis) :
    (args.claimWrite pending now).leavesFence =
      some ((exclusiveClaimWrite (args.claimArgs pending) now).retryAfterAt.map toSeconds,
        (exclusiveClaimWrite (args.claimArgs pending) now).dispatchAttempts) := by
  rw [exclusiveClaimWrite_dispatchAttempts]
  cases hskip : args.skipIncrementAttempts <;>
    simp [Write.leavesFence, DispatchArgs.attempt, DispatchArgs.claim, DispatchArgs.claimArgs,
      ClaimArgs.observed, hskip]

/-- A row a claim hits shows the tokens the claim compares. -/
lemma tokens_of_claim_hit {s : Store} {args : DispatchArgs} {pending : Bool} {now : Millis}
    {r : Row} (h : s.hit id (args.claimWrite pending now) = some r) :
    r.tokens = (args.claimArgs pending).observed := by
  have hguard := (s.hit_eq_some h).2.2
  simp only [Write.guard, Bool.and_eq_true, beq_iff_eq] at hguard
  exact hguard.1.1.1

/-- The tokens a winning claim leaves. -/
lemma tokens_write_claim {s : Store} {args : DispatchArgs} {pending : Bool} {now : Millis} {r : Row}
    (h : s.hit id (args.claimWrite pending now) = some r) (at' : Millis) :
    (s.write id (args.claimWrite pending now) at').2.tokens id =
      some ((args.claimArgs pending).claimed now) := by
  obtain ⟨-, hafter⟩ := s.invocation?_write_of_hit h at'
  rw [Store.tokens, hafter, Option.map_some, Write.image_of_stamps rfl, Store.tokens_stamped]
  exact congrArg some (tokens_attempted (tokens_of_claim_hit h))

/-- The fence a winning claim leaves. -/
lemma fence_write_claim {s : Store} {args : DispatchArgs} {pending : Bool} {now : Millis} {r : Row}
    (h : s.hit id (args.claimWrite pending now) = some r) (at' : Millis) :
    (s.write id (args.claimWrite pending now) at').2.fence id =
      (args.claimWrite pending now).leavesFence := by
  have htokens := tokens_write_claim h at'
  rw [leavesFence_claimWrite, Store.fence]
  rw [Store.tokens] at htokens
  cases hx : (s.write id (args.claimWrite pending now) at').2.invocation? id with
  | none =>
    rw [hx] at htokens
    simp at htokens
  | some r' =>
    rw [hx] at htokens
    have htok : r'.tokens = (args.claimArgs pending).claimed now := Option.some.inj htokens
    have hretry := congrArg Tokens.retryAfterAt htok
    have hattempts := congrArg Tokens.dispatchAttempts htok
    exact congrArg some (Prod.ext hretry hattempts)

/-- The fence a restore that hits leaves. -/
lemma fence_write_restore {s : Store} {c : UnsentClaim} {r : Row}
    (h : s.hit id (.restoreUnsentSpawnClaim c) = some r) (at' : Millis) :
    (s.write id (.restoreUnsentSpawnClaim c) at').2.fence id =
      (Write.restoreUnsentSpawnClaim c).leavesFence := by
  obtain ⟨-, hafter⟩ := s.invocation?_write_of_hit h at'
  rw [Store.fence, hafter, Option.map_some, Write.image_of_stamps rfl, Store.stamped]
  split <;> rfl

/-- **A claim that wins keeps the invariant.** -/
lemma SendersInv.claimed (h : SendersInv id w) {args : DispatchArgs} {pending : Bool} {now : Millis}
    {acc : Accounts} {r : Row} (hhit : w.store.hit id (args.claimWrite pending now) = some r)
    (hperm : (leavesFencesAlone id).permits w i (.write id (args.claimWrite pending now) acc))
    (at' : Stmt.Answer (.write id (args.claimWrite pending now) acc)) :
    SendersInv id (w.after machine i (.write id (args.claimWrite pending now) acc) at') := by
  have hr := tokens_of_claim_hit hhit
  have htokens : w.store.tokens id = some (args.claimArgs pending).observed := by
    have hrow := (w.store.invocation?_write_of_hit hhit at').1
    rw [Store.tokens, hrow, Option.map_some, hr]
  have htokens' : (machine.run (.write id (args.claimWrite pending now) acc) at' w.store).2.tokens id
      = some ((args.claimArgs pending).claimed now) := tokens_write_claim hhit at'
  have heff : effective id (w.event machine i (.write id (args.claimWrite pending now) acc) at') =
      some (args.claimWrite pending now) := effective_of_hit (by rw [hhit]; rfl)
  have hwon : wonWith id (w.event machine i (.write id (args.claimWrite pending now) acc) at') =
      some (args.claimArgs pending).observed := by
    rw [wonWith, heff]
    rfl
  have hmoved : (args.claimArgs pending).claimed now ≠ (args.claimArgs pending).observed :=
    claimed_ne_observed _ _
  refine ⟨⟨h.one_winner_after fun t ht => ?_, fun e he hw => ?_, fun l₂ e l₁ htrace hrestore => ?_⟩,
    h.comesBack_after fun t ht => ?_, fun j f hj hf => ?_⟩
  · rw [htokens, ← hwon, ht]
  · rcases List.mem_cons.mp he with rfl | he
    · rw [World.event_after, World.event_before, htokens', htokens]
      exact fun heq => hmoved (Option.some.inj heq)
    · exact h.exclusive.moves e he hw
  · cases l₂ with
    | nil =>
      obtain ⟨rfl, -⟩ := List.cons.inj htrace
      rw [restores, heff] at hrestore
      simp [Write.isRestore] at hrestore
    | cons e' l₂ =>
      obtain ⟨-, htail⟩ := List.cons.inj htrace
      exact h.exclusive.own_restore l₂ e l₁ htail hrestore
  · rw [htokens']
    rw [hwon] at ht
    exact fun heq => hmoved ((Option.some.inj heq).trans (Option.some.inj ht).symm)
  · -- the winner is the latest one; of the others, nobody awaits this fence
    have hlatest : ((w.after machine i (.write id (args.claimWrite pending now) acc) at').trace.find?
        (wins id)).map Event.caller = some i := by
      rw [World.after_trace, List.find?_cons_of_pos (by rw [wins, hwon]; rfl)]
      rfl
    rw [hlatest]
    by_cases hji : j = i
    · rw [hji]
    · have hfence : (args.claimWrite pending now).leavesFence = some f :=
        (fence_write_claim hhit at').symm.trans hf
      refine absurd ?_ (hperm _ _ f rfl (by rw [hhit]; rfl) hfence j hji)
      unfold awaitsOutcome at hj ⊢
      rw [World.eventsOf_after_ne _ _ _ _ _ hji] at hj
      exact hj

/-- **A restore that hits keeps the invariant**: it finds the claim of its own sender. -/
lemma SendersInv.restored (h : SendersInv id w) {c : UnsentClaim} {acc : Accounts} {r : Row}
    (hhit : w.store.hit id (.restoreUnsentSpawnClaim c) = some r)
    (hawaits : awaitsOutcome id w i (c.retryAfterAt.map toSeconds, c.dispatchAttempts))
    (hperm : (leavesFencesAlone id).permits w i (.write id (.restoreUnsentSpawnClaim c) acc))
    (at' : Stmt.Answer (.write id (.restoreUnsentSpawnClaim c) acc)) :
    SendersInv id (w.after machine i (.write id (.restoreUnsentSpawnClaim c) acc) at') := by
  have hbefore := (w.store.invocation?_write_of_hit hhit at').1
  have hguard := (w.store.hit_eq_some hhit).2.2
  simp only [Write.guard, Bool.and_eq_true, beq_iff_eq] at hguard
  have hfence : w.store.fence id = some (c.retryAfterAt.map toSeconds, c.dispatchAttempts) := by
    rw [Store.fence, hbefore, Option.map_some, Row.fence, hguard.2, hguard.1.2]
  have hlatest := h.fenced i _ hawaits hfence
  have heff : effective id (w.event machine i (.write id (.restoreUnsentSpawnClaim c) acc) at') =
      some (.restoreUnsentSpawnClaim c) := effective_of_hit (by rw [hhit]; rfl)
  have hwon : wonWith id (w.event machine i (.write id (.restoreUnsentSpawnClaim c) acc) at') =
      none := by
    rw [wonWith, heff]
    rfl
  have hwins : wins id (w.event machine i (.write id (.restoreUnsentSpawnClaim c) acc) at') =
      false := by rw [wins, hwon]; rfl
  refine ⟨⟨h.one_winner_after fun t ht => ?_, fun e he hw => ?_, fun l₂ e l₁ htrace hrestore => ?_⟩,
    h.comesBack_after fun t ht => ?_, fun j f hj hf => ?_⟩
  · rw [hwon] at ht
    simp at ht
  · rcases List.mem_cons.mp he with rfl | he
    · rw [hwins] at hw
      simp at hw
    · exact h.exclusive.moves e he hw
  · cases l₂ with
    | nil =>
      obtain ⟨rfl, rfl⟩ := List.cons.inj htrace
      exact hlatest
    | cons e' l₂ =>
      obtain ⟨-, htail⟩ := List.cons.inj htrace
      exact h.exclusive.own_restore l₂ e l₁ htail hrestore
  · rw [hwon] at ht
    simp at ht
  · by_cases hji : j = i
    · -- the sender has taken its claim back
      have hsettled := hj.2 (w.event machine i (.write id (.restoreUnsentSpawnClaim c) acc) at')
        (by rw [hji, World.eventsOf_after_self]; exact List.mem_cons_self)
      exact absurd hsettled (by simp [settles, World.event])
    · have hleaves : (Write.restoreUnsentSpawnClaim c).leavesFence = some f :=
        (fence_write_restore hhit at').symm.trans hf
      exact absurd (awaitsOutcome_of_after hwins hj)
        (hperm _ _ f rfl (by rw [hhit]; rfl) hleaves j hji)

/-- A statement that is no update of the row and leaves the invocations keeps the invariant. -/
lemma SendersInv.elsewhere (h : SendersInv id w) (heffective : effective id (w.event machine i q a) = none)
    (hstore : (machine.run q a w.store).2 = w.store) : SendersInv id (w.after machine i q a) := by
  refine h.neutral (fun u hu => ?_) (by rw [hstore])
  rw [heffective] at hu
  simp at hu

/-- The snapshot of the handler node moves neither a token nor the fence. -/
lemma SendersInv.snapshotted (h : SendersInv id w) {nodeId : NodeId} {revision : Option ℕ}
    {acc : Accounts}
    (at' : Stmt.Answer (.write id (.snapshotInvocationHandlerNode nodeId revision) acc)) :
    SendersInv id
      (w.after machine i (.write id (.snapshotInvocationHandlerNode nodeId revision) acc) at') := by
  refine h.neutral (fun u hu => ?_) ?_
  · obtain ⟨rfl, -⟩ := effective_write hu
    exact ⟨rfl, rfl⟩
  · have hrow := w.store.invocation?_write id id (.snapshotInvocationHandlerNode nodeId revision) at'
    have hfence : (w.store.write id (.snapshotInvocationHandlerNode nodeId revision) at').2.fence id =
        w.store.fence id := by
      rw [Store.fence, hrow, Option.map_map, Store.fence]
      congr 1
      funext r
      simp only [Function.comp_apply]
      split_ifs <;> rfl
    exact hfence

end Steps

/-! ## The discipline -/

/-- Senders keep the invariant; what a sender has executed is its own. -/
def exclusion (id : InvocationId) : Discipline lang Store Unit where
  rely i w w' := w'.eventsOf i = w.eventsOf i
  refl _ _ := rfl
  trans _ _ _ _ h h' := h'.trans h
  inv w _ := SendersInv id w

/-- Nothing the call has executed settles it. -/
def isUnsettled (i : ℕ) (w : World lang Store) : Prop := ∀ e ∈ w.eventsOf i, settles e = false

/-- A program that keeps the exclusion. -/
abbrev Excludes {α : Type} (id : InvocationId) (i : ℕ) (p : Prog lang α) (w : World lang Store) :
    Prop :=
  (exclusion id).Safe machine (leavesFencesAlone id).permits i (fun _ _ _ => True) p () w

section Programs

variable {id : InvocationId} {i : ℕ} {α : Type}

lemma isUnsettled_after {w w' : World lang Store} {q : Stmt} {a : q.Answer}
    (h : isUnsettled i w) (hw : w'.eventsOf i = w.eventsOf i)
    (hq : settles (w'.event machine i q a) = false) :
    isUnsettled i (w'.after machine i q a) := by
  intro e he
  rw [World.eventsOf_after_self, hw] at he
  rcases List.mem_cons.mp he with rfl | he
  · exact hq
  · exact h e he

/-- The rule of a statement that leaves the sender unsettled. -/
lemma Excludes.ask {q : Stmt} {f : q.Reply → Prog lang α} {w : World lang Store}
    (hw : isUnsettled i w)
    (hsettles : ∀ w' a, settles (World.event machine w' i q a) = false)
    (hinv : ∀ w' a, SendersInv id w' → SendersInv id (w'.after machine i q a))
    (hf : ∀ r w', isUnsettled i w' → Excludes id i (f r) w') : Excludes id i (await q >>= f) w := by
  refine Discipline.Safe.ask_bind fun w' _ hrely hI _ a => ⟨fun j hj => ?_, (), hinv w' a hI, ?_⟩
  · exact World.eventsOf_after_ne _ _ _ _ _ hj
  · intro r _
    exact hf r _ (isUnsettled_after hw hrely (hsettles w' a))

/-- Taking back a claim whose outcome is open. -/
lemma restore_excludes {c : UnsentClaim} {acc : Accounts} {f : Option Row → Prog lang α}
    {w : World lang Store}
    (hawaits : awaitsOutcome id w i (c.retryAfterAt.map toSeconds, c.dispatchAttempts))
    (hf : ∀ r w', Excludes id i (f r) w') :
    Excludes id i (await (.write id (.restoreUnsentSpawnClaim c) acc) >>= f) w := by
  refine Discipline.Safe.ask_bind fun w' _ hrely hI hperm a => ⟨fun j hj => ?_, (), ?_, ?_⟩
  · exact World.eventsOf_after_ne _ _ _ _ _ hj
  · cases hhit : w'.store.hit id (.restoreUnsentSpawnClaim c) with
    | none => exact SendersInv.missed hI hhit a
    | some r =>
      unfold awaitsOutcome at hawaits
      rw [← hrely] at hawaits
      exact SendersInv.restored hI hhit hawaits hperm a
  · intro r _
    exact hf r _

/-- An outcome stays open over an event that does not settle it. -/
lemma awaitsOutcome_after {w w' : World lang Store} {f : Fence} (h : awaitsOutcome id w i f)
    (hw : w'.eventsOf i = w.eventsOf i) {q : Stmt} {a : q.Answer}
    (hq : settles (w'.event machine i q a) = false) :
    awaitsOutcome id (w'.after machine i q a) i f := by
  obtain ⟨⟨e, he, hwon⟩, hopen⟩ := h
  refine ⟨⟨e, ?_, hwon⟩, isUnsettled_after hopen hw hq⟩
  rw [World.eventsOf_after_self, hw]
  exact List.mem_cons_of_mem _ he

/-- A claim that wins opens an outcome. -/
lemma awaitsOutcome_of_claim {args : DispatchArgs} {pending : Bool} {now : Millis} (acc : Accounts)
    {w : World lang Store} (hw : isUnsettled i w)
    (hhit : (w.store.hit id (args.claimWrite pending now)).isSome = true)
    (at' : Stmt.Answer (.write id (args.claimWrite pending now) acc)) :
    awaitsOutcome id (w.after machine i (.write id (args.claimWrite pending now) acc) at') i
      ((exclusiveClaimWrite (args.claimArgs pending) now).retryAfterAt.map toSeconds,
        (exclusiveClaimWrite (args.claimArgs pending) now).dispatchAttempts) := by
  have heff : effective id (w.event machine i (.write id (args.claimWrite pending now) acc) at') =
      some (args.claimWrite pending now) := effective_of_hit hhit
  refine ⟨⟨w.event machine i (.write id (args.claimWrite pending now) acc) at', ?_, ?_, ?_⟩,
    isUnsettled_after hw rfl rfl⟩
  · rw [World.eventsOf_after_self]
    exact List.mem_cons_self
  · rw [wins, wonWith, heff]
    rfl
  · rw [heff]
    exact leavesFence_claimWrite args pending now

/-- Sending a frame neither claims nor restores. -/
lemma SendersInv.sent {w : World lang Store} (h : SendersInv id w) {nodeId : NodeId}
    {providerName : String} {x : InvocationId}
    (outcome : Stmt.Answer (.sendToProvider nodeId providerName x)) :
    SendersInv id (w.after machine i (.sendToProvider nodeId providerName x) outcome) :=
  h.elsewhere rfl rfl

/-- A frame that was not accepted leaves the sender with something to take back. -/
lemma settles_send {w : World lang Store} {nodeId : NodeId} {providerName : String}
    {x : InvocationId} {outcome : Stmt.Answer (.sendToProvider nodeId providerName x)}
    {reply : SendOutcome} (h : outcome = reply) (hreply : reply ≠ .sent) :
    settles (w.event machine i (.sendToProvider nodeId providerName x) outcome) = false := by
  subst h
  exact beq_false_of_ne hreply

/-- **The dispatch of a native spawn keeps the exclusion.** -/
lemma dispatchNative_excludes {args : DispatchArgs} {pending : Bool} {now : Millis}
    (hid : args.invocationId = id) {w : World lang Store} (hw : isUnsettled i w) :
    Excludes id i
      (dispatchNative args pending (exclusiveClaimWrite (args.claimArgs pending) now)) w := by
  subst hid
  refine Discipline.Safe.ask_bind fun w' _ hrely hI hperm at' => ⟨fun j hj => ?_, ?_⟩
  · exact World.eventsOf_after_ne _ _ _ _ _ hj
  cases hhit : w'.store.hit args.invocationId (args.claimWrite pending now) with
  | none =>
    refine ⟨(), SendersInv.missed hI hhit at', fun r hr => ?_⟩
    have hnone : r = none := by
      rw [hr]
      show (w'.store.hit args.invocationId (args.claimWrite pending now)).map _ = none
      rw [hhit]
      rfl
    rw [hnone]
    trivial
  | some row =>
    refine ⟨(), SendersInv.claimed hI hhit hperm at', fun r hr => ?_⟩
    have hsome : r.isNone = false := by
      rw [hr]
      show ((w'.store.hit args.invocationId (args.claimWrite pending now)).map _).isNone = false
      rw [hhit]
      rfl
    have hwon := awaitsOutcome_of_claim args.claimAccounts (fun e he => hw e (hrely ▸ he))
      (by rw [hhit]; rfl) at'
    rw [hsome]
    -- the claim is won; what follows depends on the outcome of the send
    refine Discipline.Safe.ask_bind fun w₂ _ hrely₂ hI₂ _ outcome =>
      ⟨fun j hj => ?_, (), SendersInv.sent hI₂ outcome, fun reply hreply => ?_⟩
    · exact World.eventsOf_after_ne _ _ _ _ _ hj
    cases reply with
    | sent => trivial
    | refused =>
      exact restore_excludes (awaitsOutcome_after hwon hrely₂ (settles_send hreply.symm (by simp)))
        fun _ _ => trivial
    | threw =>
      exact restore_excludes (awaitsOutcome_after hwon hrely₂ (settles_send hreply.symm (by simp)))
        fun _ _ => trivial

/-- `dispatchNodeInvocation` of a native spawn keeps the exclusion. -/
lemma dispatchNodeInvocation_excludes {args : DispatchArgs} (hid : args.invocationId = id)
    (hnative : args.invocationOrigin ≠ .registeredAction) {w : World lang Store}
    (hw : isUnsettled i w) : Excludes id i (dispatchNodeInvocation args) w := by
  subst hid
  refine Excludes.ask hw (fun _ _ => rfl) (fun _ at' h => h.snapshotted at') fun snapshotted w₁ hw₁ => ?_
  cases snapshotted with
  | none => trivial
  | some row =>
    refine Excludes.ask hw₁ (fun _ _ => rfl) (fun _ _ h => h.elsewhere rfl rfl) fun connected w₂ hw₂ => ?_
    refine Excludes.ask hw₂ (fun _ _ => rfl) (fun _ _ h => h.elsewhere rfl rfl) fun now w₃ hw₃ => ?_
    rw [if_neg hnative]
    exact (dispatchNative_excludes rfl hw₃).bind fun _ _ _ _ => trivial

end Programs

/-! ## Every run -/

lemma sendersInv_init (id : InvocationId) (s : Store) : SendersInv id ⟨s, []⟩ := by
  refine ⟨⟨fun l₃ e₂ l₂ e₁ l₁ t htrace => ?_, by simp, fun l₂ e l₁ htrace => ?_⟩,
    fun l₂ e₁ l₁ t htrace => ?_, fun j f hj => ?_⟩
  · simp at htrace
  · simp at htrace
  · simp at htrace
  · obtain ⟨⟨e, he, -⟩, -⟩ := hj
    simp [World.eventsOf] at he

/-- Nothing outside the invocation functions moves a token or the fence. -/
lemma invocation?_drift (d : Drift) (s : Store) (id : InvocationId) :
    ∃ g : Row → Row, (∀ r, (g r).tokens = r.tokens ∧ (g r).fence = r.fence) ∧
      (drift d s).invocation? id = (s.invocation? id).map g := by
  cases d with
  | profile => exact ⟨fun r => r, fun _ => ⟨rfl, rfl⟩, by rw [Option.map_id']; rfl⟩
  | actions actions =>
    refine ⟨fun r => if r.actionId.any fun id => !actions.any fun a => a.id == id then
      { r with actionId := none } else r, fun r => ?_, ?_⟩
    · dsimp only
      split_ifs <;> exact ⟨rfl, rfl⟩
    · exact Table.find?_update (T := s.invocations) (f := fun r => { r with actionId := none })
        (fun _ => rfl) fun _ => rfl

lemma SendersInv.drift {id : InvocationId} {w : World lang Store} (h : SendersInv id w)
    (d : machine.Drift) : SendersInv id (w.drift machine d) := by
  obtain ⟨g, hg, hrow⟩ := invocation?_drift d w.store id
  have htokens : (w.drift machine d).store.tokens id = w.store.tokens id := by
    show ((Invocation.drift d w.store).invocation? id).map Row.tokens = _
    rw [hrow, Option.map_map, Store.tokens]
    congr 1
    funext r
    exact (hg r).1
  have hfence : (w.drift machine d).store.fence id = w.store.fence id := by
    show ((Invocation.drift d w.store).invocation? id).map Row.fence = _
    rw [hrow, Option.map_map, Store.fence]
    congr 1
    funext r
    exact (hg r).2
  refine ⟨h.exclusive, fun l₂ e₁ l₁ t htrace h₁ => ?_, fun j f hj hf => ?_⟩
  · have hback := h.comesBack l₂ e₁ l₁ t htrace h₁
    rw [← htokens] at hback
    exact hback
  · exact h.fenced j f hj (hfence ▸ hf)

lemma exclusion_keeps (id : InvocationId) :
    (exclusion id).Keeps (senders id) (leavesFencesAlone id) (fun _ _ _ _ _ => True) where
  init s _ := sendersInv_init id s
  drift_inv d _ _ h := SendersInv.drift h d
  drift_rely _ _ _ := rfl
  call c _ i w _ hcallers _ := by
    refine dispatchNodeInvocation_excludes c.invocationId_eq c.native fun e he => ?_
    rw [World.eventsOf_eq_nil w i hcallers] at he
    simp at he

/-- A spawn that waits on node `n` after one attempt. -/
def waitingSpawn : Row :=
  { Store.createdRow "a" none ⟨"spawn:claude", .anywhere, false⟩ with
    dispatchedNodeId := some "n", dispatchedProvider := some "default", dispatchAttempts := 1 }

/-- The spawn on node `n`. -/
def oneSpawn : Store where
  nodeLivenessAuthority := false
  nodes := Table.empty
  invocations := Table.empty.insertOrIgnore waitingSpawn
  actions := []

/-- A sender that has observed `observed` and asks for the deadline `retryAfterAt`. -/
def sender (observed : Observed) (skipIncrementAttempts : Bool) (retryAfterAt : Millis) :
    Sender "a" where
  args :=
    { invocationId := "a", nodeId := "n", providerName := "default", action := "spawn:claude",
      actionId := none, expectedActionId := none, invocationOrigin := .builtin, pending := false,
      retryAfterAt := some retryAfterAt, reservationHeld := false,
      skipIncrementAttempts := skipIncrementAttempts, observed := observed,
      preserveSpawnReservation := false, observedSpawnReservedAt := none,
      expectedNodeLivenessRevision := none }
  invocationId_eq := rfl
  native := fun h => Origin.noConfusion h

/-- What the outside world answers: clocks read `now`, the node is connected, sends come out as
`outcome`. -/
def answering (now : Millis) (outcome : SendOutcome) : (q : Stmt) → q.Answer
  | .write .. | .dateNow => now
  | .eligibleNodes .. => []
  | .callerLocation .. => none
  | .capacityProviderName .. => none
  | .nodeReady .. | .isNodeProviderLive .. | .isHandlerConnectionLive ..
  | .isProviderConnected .. => true
  | .sendToProvider .. => outcome
  | .reserveNodeCapacity .. | .releaseNodeCapacity .. | .createInvocation .. | .deleteUnplaced ..
  | .handlersDown .. | .getInvocation .. | .heldRow .. | .completionRow .. | .drainRows ..
  | .openRowsOn .. | .timedOutRows .. | .duePendingRows .. | .getNode .. | .getNodeByName ..
  | .fetchNodeAction .. => ()

/-- Let sender `i` execute `k` statements. -/
def advance (i k : ℕ) (outcome : SendOutcome) : List (senders "a").Move :=
  List.replicate k (.exec i (answering 1000000 outcome))

/-- The first sender claims the spawn and waits.  A retry claims it over the first and takes its
claim back, and a third sender claims it with the deadline of the first and sends its frame.  The
first one's send now fails. -/
def fenceReturns : List (senders "a").Move :=
  .start (sender ⟨.pending, none, 1, some "n"⟩ true 1030000) :: advance 0 4 .refused ++
    .start (sender ⟨.dispatched, some 1030000, 1, some "n"⟩ false 1060000) :: advance 1 6 .refused ++
    .start (sender ⟨.pending, some 1030000, 1, some "n"⟩ true 1030000) :: advance 2 5 .sent ++
    advance 0 2 .refused

end Invocation
