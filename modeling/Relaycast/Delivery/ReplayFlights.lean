import Mathlib.Logic.Function.Basic
import Mathlib.Logic.Relation
import Relaycast.Delivery.Replay
import Relaycast.Interleaving.Since

/-!
# Replay flights

`deliverPendingToNode` does not run a replay pass itself.  It files a job under the node's flight
and returns the job's promise; the loop of the flight takes the jobs one after the other.  This is
code of one process: a call runs to its end without a suspension, and the loop is suspended only
before its first turn (a microtask) and while a pass is awaited.  So the steps of the model are a
call, the first turn of a loop, and the end of a pass together with the turn that follows it.

What a pass does is `replayPendingToNode`; here it ends with any count or any error, whenever it
likes.  Registries, dependencies and errors are opaque.

A `Map` is the list of its entries in insertion order, objects and promises are numbered in the
order of their creation, and `history` records the calls and the passes, latest first.  No step
reads it.
-/

namespace Delivery

/-- The registry the flights are kept for, and the key of a flight in it. -/
structure ReplayKey (Registry : Type) where
  registry : Registry
  workspaceId : String
  nodeId : NodeId
deriving DecidableEq

/-- The scope key: the `JSON` text of the two values, which determines them. -/
abbrev ScopeKey := Option String × Option (List AgentId)

/-- `ReplayJob`.  Its promise comes with `resolve` and `reject`. -/
structure ReplayJob (Deps : Type) where
  scope : NodeDeliveryReplayScope
  deps : Option Deps
  promise : ℕ

/-- How far the loop of a flight is: its microtask is queued, it awaits the pass of a job it took
out of the map, or it is over. -/
inductive Runner (Deps : Type)
  | queued
  | replaying (pendingKey : ScopeKey) (pendingJob : ReplayJob Deps)
  | finished

/-- `ReplayFlight`, with the key its loop was started for. -/
structure ReplayFlight (Registry Deps : Type) where
  key : ReplayKey Registry
  pending : List (ScopeKey × ReplayJob Deps)
  runner : Runner Deps

/-- What is recorded of a run: a call and the promise it returned, the start of a pass for a
promise, its end. -/
inductive ReplayEvent (Registry Error : Type)
  | called (key : ReplayKey Registry) (scopeKey : ScopeKey) (promise : ℕ)
  | began (key : ReplayKey Registry) (scopeKey : ScopeKey) (promise : ℕ)
  | ended (key : ReplayKey Registry) (promise : ℕ) (outcome : Except Error ℕ)

/-- The memory of the process: `replayFlights`, the flights and the promises made so far. -/
structure ReplayFlights (Registry Deps Error : Type) where
  flights : ReplayKey Registry → Option ℕ
  objects : List (ReplayFlight Registry Deps)
  promises : List (Option (Except Error ℕ))
  history : List (ReplayEvent Registry Error)

variable {Registry Deps Error : Type} [DecidableEq Registry]

/-- The snapshot a call takes of its scope: the ids without repetition, in order. -/
def NodeDeliveryReplayScope.snapshot (scope : NodeDeliveryReplayScope) : NodeDeliveryReplayScope :=
  { scope with agentIds := scope.agentIds.map fun ids => ids.eraseDups.insertionSort (· ≤ ·) }

/-- `scopeKey`. -/
def NodeDeliveryReplayScope.scopeKey (scope : NodeDeliveryReplayScope) : ScopeKey :=
  (scope.snapshot.providerName, scope.snapshot.agentIds)

namespace ReplayFlights

variable (s : ReplayFlights Registry Deps Error)

/-- A process that has not been called yet. -/
def idle : ReplayFlights Registry Deps Error := ⟨fun _ => none, [], [], []⟩

/-- `flights.get(key)`, with the object it names. -/
def flight? (key : ReplayKey Registry) : Option (ℕ × ReplayFlight Registry Deps) :=
  (s.flights key).bind fun f => (s.objects[f]?).map fun flight => (f, flight)

/-- A call that joins a job which has not started. -/
def join (key : ReplayKey Registry) (scopeKey : ScopeKey) (promise : ℕ) :
    ReplayFlights Registry Deps Error :=
  { s with history := .called key scopeKey promise :: s.history }

/-- A call that files a job with the flight `f`. -/
def enqueue (key : ReplayKey Registry) (scopeKey : ScopeKey) (job : ReplayJob Deps) (f : ℕ) :
    ReplayFlights Registry Deps Error :=
  { s with
    objects := s.objects.modify f fun flight =>
      { flight with pending := flight.pending ++ [(scopeKey, job)] }
    promises := s.promises ++ [none]
    history := .called key scopeKey job.promise :: s.history }

/-- A call that makes a flight for its job. -/
def launch (key : ReplayKey Registry) (scopeKey : ScopeKey) (job : ReplayJob Deps) :
    ReplayFlights Registry Deps Error where
  flights := Function.update s.flights key (some s.objects.length)
  objects := s.objects ++ [⟨key, [(scopeKey, job)], .queued⟩]
  promises := s.promises ++ [none]
  history := .called key scopeKey job.promise :: s.history

/-- `deliverPendingToNode`: the promise that is returned, and the memory the call leaves. -/
def deliverPendingToNode (key : ReplayKey Registry) (scope : NodeDeliveryReplayScope)
    (deps : Option Deps) : ℕ × ReplayFlights Registry Deps Error :=
  let flight := s.flight? key
  match flight.bind fun entry => entry.2.pending.lookup scope.scopeKey with
  | some existing => (existing.promise, s.join key scope.scopeKey existing.promise)
  | none =>
    let job : ReplayJob Deps := ⟨scope.snapshot, deps, s.promises.length⟩
    match flight with
    | some (f, _) => (job.promise, s.enqueue key scope.scopeKey job f)
    | none => (job.promise, s.launch key scope.scopeKey job)

/-- The loop of `f` takes the first job and starts its pass. -/
def begin (f : ℕ) (flight : ReplayFlight Registry Deps) (pendingKey : ScopeKey)
    (pendingJob : ReplayJob Deps) (pending : List (ScopeKey × ReplayJob Deps)) :
    ReplayFlights Registry Deps Error :=
  { s with
    objects := s.objects.modify f fun flight =>
      { flight with pending := pending, runner := .replaying pendingKey pendingJob }
    history := .began flight.key pendingKey pendingJob.promise :: s.history }

/-- The loop of `f` leaves, through its `finally`. -/
def leave (f : ℕ) (flight : ReplayFlight Registry Deps) : ReplayFlights Registry Deps Error :=
  { s with
    flights :=
      if s.flights flight.key = some f then Function.update s.flights flight.key none
      else s.flights
    objects := s.objects.modify f fun flight => { flight with runner := .finished } }

/-- The test of the `while` loop of `f`, and what the loop does up to its next suspension.  The
entries of the map have distinct keys, so deleting the first key drops the first entry. -/
def turn (f : ℕ) (flight : ReplayFlight Registry Deps) : ReplayFlights Registry Deps Error :=
  match flight.pending with
  | [] => s.leave f flight
  | (pendingKey, pendingJob) :: pending => s.begin f flight pendingKey pendingJob pending

/-- `pendingJob.resolve` or `pendingJob.reject`. -/
def settle (key : ReplayKey Registry) (promise : ℕ) (outcome : Except Error ℕ) :
    ReplayFlights Registry Deps Error :=
  { s with
    promises := s.promises.set promise (some outcome)
    history := .ended key promise outcome :: s.history }

end ReplayFlights

/-- What can happen in the process. -/
inductive ReplayAction (Registry Deps Error : Type)
  | deliver (key : ReplayKey Registry) (scope : NodeDeliveryReplayScope) (deps : Option Deps)
  | start (f : ℕ)
  | finish (f : ℕ) (outcome : Except Error ℕ)

/-- The actions that are a turn of the loop of `f`. -/
def ReplayAction.Turns (f : ℕ) : ReplayAction Registry Deps Error → Prop
  | .deliver .. => False
  | .start f' => f' = f
  | .finish f' _ => f' = f

namespace ReplayFlights

variable (s : ReplayFlights Registry Deps Error)

/-- One action; `none` where it cannot happen. -/
def act : ReplayAction Registry Deps Error → Option (ReplayFlights Registry Deps Error)
  | .deliver key scope deps => some (s.deliverPendingToNode key scope deps).2
  | .start f =>
    match s.objects[f]? with
    | some ⟨key, pending, .queued⟩ => some (s.turn f ⟨key, pending, .queued⟩)
    | _ => none
  | .finish f outcome =>
    match s.objects[f]? with
    | some ⟨key, pending, .replaying pendingKey job⟩ =>
      some ((s.settle key job.promise outcome).turn f ⟨key, pending, .replaying pendingKey job⟩)
    | _ => none

/-- The memories a process can get to. -/
def Reachable (s : ReplayFlights Registry Deps Error) : Prop :=
  Relation.ReflTransGen (fun s s' => ∃ a, s.act a = some s') idle s

/-! ## What an action does -/

variable {s}

omit [DecidableEq Registry] in
lemma flight?_eq_some {key : ReplayKey Registry} {f : ℕ} {flight : ReplayFlight Registry Deps} :
    s.flight? key = some (f, flight) ↔ s.flights key = some f ∧ s.objects[f]? = some flight := by
  simp only [flight?, Option.bind_eq_some_iff, Option.map_eq_some_iff, Prod.mk.injEq]
  constructor
  · rintro ⟨f', hf', flight', hflight', rfl, rfl⟩
    exact ⟨hf', hflight'⟩
  · rintro ⟨hf, hflight⟩
    exact ⟨f, hf, flight, hflight, rfl, rfl⟩

omit [DecidableEq Registry] in
lemma flight?_eq_none {key : ReplayKey Registry}
    (hs : ∀ f, s.flights key = some f → ∃ flight, s.objects[f]? = some flight) :
    s.flight? key = none ↔ s.flights key = none := by
  cases h : s.flights key with
  | none => simp [flight?, h]
  | some f =>
    obtain ⟨flight, hflight⟩ := hs f h
    simp [flight?, h, hflight]

/-- A call joins a job that has not started, files one with the flight of its key, or makes a
flight. -/
lemma deliverPendingToNode_cases (s : ReplayFlights Registry Deps Error) (key : ReplayKey Registry)
    (scope : NodeDeliveryReplayScope) (deps : Option Deps) :
    (∃ f flight job, s.flight? key = some (f, flight) ∧
      flight.pending.lookup scope.scopeKey = some job ∧
      (s.deliverPendingToNode key scope deps).2 = s.join key scope.scopeKey job.promise) ∨
    (∃ f flight, s.flight? key = some (f, flight) ∧
      flight.pending.lookup scope.scopeKey = none ∧
      (s.deliverPendingToNode key scope deps).2 =
        s.enqueue key scope.scopeKey ⟨scope.snapshot, deps, s.promises.length⟩ f) ∨
    (s.flight? key = none ∧ (s.deliverPendingToNode key scope deps).2 =
      s.launch key scope.scopeKey ⟨scope.snapshot, deps, s.promises.length⟩) := by
  cases hflight : s.flight? key with
  | none => simp [deliverPendingToNode, hflight]
  | some entry =>
    obtain ⟨f, flight⟩ := entry
    cases hjob : flight.pending.lookup scope.scopeKey with
    | none =>
      refine .inr (.inl ⟨f, flight, rfl, hjob, ?_⟩)
      simp only [deliverPendingToNode, hflight, Option.bind_some, hjob]
    | some job =>
      refine .inl ⟨f, flight, job, rfl, hjob, ?_⟩
      simp only [deliverPendingToNode, hflight, Option.bind_some, hjob]

/-- The two actions of a loop: its first turn, and the end of a pass with the turn after it. -/
lemma act_turns {a : ReplayAction Registry Deps Error} {s' : ReplayFlights Registry Deps Error}
    (h : s.act a = some s') :
    (∃ key scope deps, a = .deliver key scope deps ∧
      s' = (s.deliverPendingToNode key scope deps).2) ∨
    (∃ f flight, a = .start f ∧ s.objects[f]? = some flight ∧ flight.runner = .queued ∧
      s' = s.turn f flight) ∨
    (∃ f flight pendingKey job outcome, a = .finish f outcome ∧ s.objects[f]? = some flight ∧
      flight.runner = .replaying pendingKey job ∧
      s' = (s.settle flight.key job.promise outcome).turn f flight) := by
  cases a with
  | deliver key scope deps =>
    simp only [act, Option.some.injEq] at h
    exact .inl ⟨key, scope, deps, rfl, h.symm⟩
  | start f =>
    simp only [act] at h
    split at h
    · next key pending hf =>
      simp only [Option.some.injEq] at h
      exact .inr (.inl ⟨f, _, rfl, hf, rfl, h.symm⟩)
    · cases h
  | finish f outcome =>
    simp only [act] at h
    split at h
    · next key pending pendingKey job hf =>
      simp only [Option.some.injEq] at h
      exact .inr (.inr ⟨f, _, pendingKey, job, outcome, rfl, hf, rfl, h.symm⟩)
    · cases h

end ReplayFlights

end Delivery
