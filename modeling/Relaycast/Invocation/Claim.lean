import Relaycast.Relational.Timestamp

/-!
# The exclusive claim of an invocation

A sender claims an invocation by a compare-and-swap on three columns: the status, the deadline
`retry_after_at` and the number of attempts.  `exclusiveClaimWrite` chooses what the swap stores,
so that at least one of the three moves; `Tokens` are the three as the database compares them.
-/

namespace Invocation

open Relational

/-- `action_invocations.status`. -/
inductive Status
  | pending
  | dispatched
  | invoked
  | completed
  | failed
  deriving DecidableEq

/-- `OPEN_INVOCATION_STATUSES`. -/
def Status.isOpen : Status → Bool
  | pending | dispatched | invoked => true
  | completed | failed => false

/-- What a claim compares. -/
structure Tokens where
  status : Status
  retryAfterAt : Option Seconds
  dispatchAttempts : ℕ
  deriving DecidableEq

/-- Two deadlines in the same second, and two unset ones, are the same. -/
def sameStoredRetryDeadline : Option Millis → Option Millis → Bool
  | some left, some right => toSeconds left == toSeconds right
  | none, none => true
  | _, _ => false

/-- The arguments of `exclusiveClaimWrite`. -/
structure ClaimArgs where
  observedStatus : Status
  observedRetryAfterAt : Option Millis
  observedDispatchAttempts : ℕ
  nextStatus : Status
  nextRetryAfterAt : Option Millis
  incrementAttempts : Bool

/-- What a claim stores besides the status. -/
structure ClaimWrite where
  retryAfterAt : Option Millis
  dispatchAttempts : ℕ

/-- The values an exclusive claim writes.  A claim that would leave all three tokens as they are
moves the deadline to the next second. -/
def exclusiveClaimWrite (args : ClaimArgs) (now : Millis) : ClaimWrite :=
  let dispatchAttempts :=
    if args.incrementAttempts then args.observedDispatchAttempts + 1
    else args.observedDispatchAttempts
  let moves := args.nextStatus != args.observedStatus ||
    dispatchAttempts != args.observedDispatchAttempts
  if moves || !sameStoredRetryDeadline args.nextRetryAfterAt args.observedRetryAfterAt then
    ⟨args.nextRetryAfterAt, dispatchAttempts⟩
  else
    let base := args.observedRetryAfterAt.getD now
    ⟨some (toDate (toSeconds base + 1)), dispatchAttempts⟩

namespace ClaimArgs

variable (args : ClaimArgs)

/-- The tokens the claim observed. -/
def observed : Tokens where
  status := args.observedStatus
  retryAfterAt := args.observedRetryAfterAt.map toSeconds
  dispatchAttempts := args.observedDispatchAttempts

/-- The tokens the claim leaves. -/
def claimed (now : Millis) : Tokens where
  status := args.nextStatus
  retryAfterAt := (exclusiveClaimWrite args now).retryAfterAt.map toSeconds
  dispatchAttempts := (exclusiveClaimWrite args now).dispatchAttempts

end ClaimArgs

lemma sameStoredRetryDeadline_iff (left right : Option Millis) :
    sameStoredRetryDeadline left right = true ↔ left.map toSeconds = right.map toSeconds := by
  cases left <;> cases right <;> simp [sameStoredRetryDeadline]

/-- **A claim moves at least one token.** -/
theorem claimed_ne_observed (args : ClaimArgs) (now : Millis) :
    args.claimed now ≠ args.observed := by
  intro h
  have hstatus : args.nextStatus = args.observedStatus := congrArg Tokens.status h
  have hretry : (exclusiveClaimWrite args now).retryAfterAt.map toSeconds =
      args.observedRetryAfterAt.map toSeconds := congrArg Tokens.retryAfterAt h
  have hattempts : (exclusiveClaimWrite args now).dispatchAttempts =
      args.observedDispatchAttempts := congrArg Tokens.dispatchAttempts h
  unfold exclusiveClaimWrite at hretry hattempts
  dsimp only at hretry hattempts
  by_cases hinc : args.incrementAttempts = true
  · simp [hinc] at hattempts
  · simp only [hinc, hstatus, bne_self_eq_false, Bool.or_false, Bool.false_eq_true, if_false,
      Bool.false_or, Bool.not_eq_true'] at hretry
    by_cases hsame : sameStoredRetryDeadline args.nextRetryAfterAt args.observedRetryAfterAt = true
    · -- the deadline is the one that moves
      simp only [hsame, Bool.true_eq_false, if_false, Option.map_some, toSeconds_toDate] at hretry
      cases hobs : args.observedRetryAfterAt with
      | none => simp [hobs] at hretry
      | some base => simp [hobs] at hretry
    · rw [if_pos (by simpa using hsame)] at hretry
      exact hsame ((sameStoredRetryDeadline_iff _ _).mpr hretry)

/-- The number of attempts a claim stores. -/
lemma exclusiveClaimWrite_dispatchAttempts (args : ClaimArgs) (now : Millis) :
    (exclusiveClaimWrite args now).dispatchAttempts =
      if args.incrementAttempts then args.observedDispatchAttempts + 1
      else args.observedDispatchAttempts := by
  unfold exclusiveClaimWrite
  dsimp only
  rw [apply_ite ClaimWrite.dispatchAttempts, ite_self]

end Invocation
