import Mathlib.Logic.Relation
import Relaycast.Interleaving.Program

/-!
# Runs of concurrent calls

A `System` is a machine together with the calls that can be made on it.  A configuration is the
shared world and the list of all calls made so far, each with the program that is left of it; the
position of a call in that list is its name, and a finished or crashed call keeps its place.  A
step starts a call, lets one unfinished call execute its next statement, crashes one, or lets the
store drift.  `Reachable` closes the initial configurations under these steps, so a statement
about every reachable configuration is a statement about every interleaving of any number of
calls.

The world remembers every statement that was executed.  Nothing a machine does can depend on that
trace; invariants and conditions on runs can.

A `Regime` restricts the runs that are considered: which calls are made, which statements are
taken from which world, and whether calls may crash.
-/

namespace Interleaving

/-- One executed statement: who issued it, what the outside world contributed, what it replied,
and the stores around it. -/
structure Event (L : Language) (σ : Type) where
  caller : ℕ
  stmt : L.Stmt
  answer : L.Answer stmt
  reply : L.Reply stmt
  before : σ
  after : σ

/-- The shared store and everything that has been executed on it, latest first. -/
structure World (L : Language) (σ : Type) where
  store : σ
  trace : List (Event L σ)

namespace World

variable {L : Language} {σ : Type}

/-- The event of call `i` executing `q` from `w`. -/
def event (M : Machine L σ) (w : World L σ) (i : ℕ) (q : L.Stmt) (a : L.Answer q) : Event L σ where
  caller := i
  stmt := q
  answer := a
  reply := (M.run q a w.store).1
  before := w.store
  after := (M.run q a w.store).2

/-- The world after call `i` executed `q`. -/
def after (M : Machine L σ) (w : World L σ) (i : ℕ) (q : L.Stmt) (a : L.Answer q) : World L σ where
  store := (M.run q a w.store).2
  trace := w.event M i q a :: w.trace

/-- The world after the store drifted. -/
def drift (M : Machine L σ) (w : World L σ) (d : M.Drift) : World L σ where
  store := M.drift d w.store
  trace := w.trace

variable (M : Machine L σ) (w : World L σ) (i : ℕ) (q : L.Stmt) (a : L.Answer q)

@[simp] lemma after_store : (w.after M i q a).store = (M.run q a w.store).2 := rfl

@[simp] lemma after_trace : (w.after M i q a).trace = w.event M i q a :: w.trace := rfl

@[simp] lemma drift_store (d : M.Drift) : (w.drift M d).store = M.drift d w.store := rfl

@[simp] lemma drift_trace (d : M.Drift) : (w.drift M d).trace = w.trace := rfl

@[simp] lemma event_caller : (w.event M i q a).caller = i := rfl

@[simp] lemma event_stmt : (w.event M i q a).stmt = q := rfl

@[simp] lemma event_before : (w.event M i q a).before = w.store := rfl

@[simp] lemma event_after : (w.event M i q a).after = (M.run q a w.store).2 := rfl

/-- What call `i` has executed, latest first. -/
def eventsOf (i : ℕ) : List (Event L σ) := w.trace.filter fun e => e.caller == i

lemma mem_eventsOf {w : World L σ} {i : ℕ} {e : Event L σ} :
    e ∈ w.eventsOf i ↔ e ∈ w.trace ∧ e.caller = i := by
  simp [eventsOf]

@[simp] lemma eventsOf_drift (d : M.Drift) : (w.drift M d).eventsOf i = w.eventsOf i := rfl

lemma eventsOf_after_self :
    (w.after M i q a).eventsOf i = w.event M i q a :: w.eventsOf i := by
  simp [eventsOf]

/-- What a call has just executed is among its events. -/
lemma event_mem_eventsOf : w.event M i q a ∈ (w.after M i q a).eventsOf i := by
  rw [eventsOf_after_self]
  exact List.mem_cons_self

lemma eventsOf_after_ne {j : ℕ} (h : j ≠ i) : (w.after M i q a).eventsOf j = w.eventsOf j := by
  simp [eventsOf, Ne.symm h]

/-- A call that is not made yet has executed nothing. -/
lemma eventsOf_eq_nil (h : ∀ e ∈ w.trace, e.caller < i) : w.eventsOf i = [] := by
  refine List.filter_eq_nil_iff.mpr fun e he => ?_
  simpa using Nat.ne_of_lt (h e he)

end World

/-- A machine, the calls that can be made on it, and the stores it starts from. -/
structure System (L : Language) (σ : Type) (Call : Type) (Result : Call → Type) extends
    Machine L σ where
  body : (c : Call) → Prog L (Result c)
  init : σ → Prop

/-- A call that was made and what is left of it; `none` once it has crashed. -/
structure Thread (L : Language) {Call : Type} (Result : Call → Type) where
  call : Call
  prog : Option (Prog L (Result call))

/-- The shared world and every call made so far, in the order in which they were made. -/
structure Config (L : Language) (σ : Type) {Call : Type} (Result : Call → Type) where
  world : World L σ
  threads : List (Thread L Result)

variable {L : Language} {σ Call : Type} {Result : Call → Type}

/-- Which runs are considered: the calls that are made, the statements that are taken (`permits w
i q`: call `i` may execute `q` from `w`), and whether calls may crash. -/
structure Regime (L : Language) (σ Call : Type) where
  calls : Call → Prop
  permits : World L σ → ℕ → L.Stmt → Prop
  crashes : Prop

/-- Every call, every interleaving, every crash. -/
def Regime.free (L : Language) (σ Call : Type) : Regime L σ Call where
  calls := fun _ => True
  permits := fun _ _ _ => True
  crashes := True

/-- Every call, every interleaving, no crash. -/
def Regime.crashFree (L : Language) (σ Call : Type) : Regime L σ Call where
  calls := fun _ => True
  permits := fun _ _ _ => True
  crashes := False

namespace System

variable (S : System L σ Call Result) (G : Regime L σ Call)

/-- One step of a run. -/
inductive Step : Config L σ Result → Config L σ Result → Prop
  /-- A call is made; it has executed nothing yet. -/
  | start (w : World L σ) (ts : List (Thread L Result)) (c : Call) (hc : G.calls c) :
      Step ⟨w, ts⟩ ⟨w, ts ++ [⟨c, some (S.body c)⟩]⟩
  /-- Call `i` executes its next statement. -/
  | exec (w : World L σ) (ts : List (Thread L Result)) (i : ℕ) (c : Call) (q : L.Stmt)
      (k : L.Reply q → Prog L (Result c)) (a : L.Answer q)
      (hi : ts[i]? = some ⟨c, some (.stmt q k)⟩) (hq : G.permits w i q) :
      Step ⟨w, ts⟩
        ⟨w.after S.toMachine i q a, ts.set i ⟨c, some (k (S.run q a w.store).1)⟩⟩
  /-- Call `i` crashes before its next statement. -/
  | crash (w : World L σ) (ts : List (Thread L Result)) (i : ℕ) (c : Call) (q : L.Stmt)
      (k : L.Reply q → Prog L (Result c))
      (hi : ts[i]? = some ⟨c, some (.stmt q k)⟩) (hG : G.crashes) :
      Step ⟨w, ts⟩ ⟨w, ts.set i ⟨c, none⟩⟩
  /-- The store drifts. -/
  | drift (w : World L σ) (ts : List (Thread L Result)) (d : S.Drift) :
      Step ⟨w, ts⟩ ⟨w.drift S.toMachine d, ts⟩

/-- Reachable by some run from some initial store. -/
def Reachable (g : Config L σ Result) : Prop :=
  ∃ s, S.init s ∧ Relation.ReflTransGen (S.Step G) ⟨⟨s, []⟩, []⟩ g

/-- **What holds initially and is kept by every step holds of every reachable configuration.** -/
theorem reachable_induction {P : Config L σ Result → Prop} {g : Config L σ Result}
    (h : S.Reachable G g) (hinit : ∀ s, S.init s → P ⟨⟨s, []⟩, []⟩)
    (hstep : ∀ g g', P g → S.Step G g g' → P g') : P g := by
  obtain ⟨s, hs, hrun⟩ := h
  induction hrun with
  | refl => exact hinit s hs
  | tail _ hst ih => exact hstep _ _ ih hst

lemma Reachable.step {g g' : Config L σ Result} (h : S.Reachable G g) (hs : S.Step G g g') :
    S.Reachable G g' := by
  obtain ⟨s, hi, hrun⟩ := h
  exact ⟨s, hi, hrun.tail hs⟩

/-! ## Playing a schedule

A run can be given as data and computed; the configuration it ends in is reachable. -/

/-- An entry of a schedule.  `exec i a` lets call `i` execute its next statement, whatever it is,
with the contribution `a` has for it. -/
inductive Move
  | start (c : Call)
  | exec (i : ℕ) (a : (q : L.Stmt) → L.Answer q)
  | crash (i : ℕ)
  | drift (d : S.Drift)

/-- Make one move; a move that names a call with no statement left does nothing. -/
def play (g : Config L σ Result) : S.Move → Config L σ Result
  | .start c => ⟨g.world, g.threads ++ [⟨c, some (S.body c)⟩]⟩
  | .exec i a =>
    match g.threads[i]? with
    | some ⟨c, some (.stmt q k)⟩ =>
      ⟨g.world.after S.toMachine i q (a q),
        g.threads.set i ⟨c, some (k (S.run q (a q) g.world.store).1)⟩⟩
    | _ => g
  | .crash i =>
    match g.threads[i]? with
    | some ⟨c, some (.stmt _ _)⟩ => ⟨g.world, g.threads.set i ⟨c, none⟩⟩
    | _ => g
  | .drift d => ⟨g.world.drift S.toMachine d, g.threads⟩

/-- The configuration a schedule ends in, from the store `s`. -/
def runFrom (s : σ) (moves : List S.Move) : Config L σ Result :=
  moves.foldl S.play ⟨⟨s, []⟩, []⟩

/-- Does the regime allow the move? -/
def Allows (g : Config L σ Result) : S.Move → Prop
  | .start c => G.calls c
  | .exec i _ => ∀ c q k, g.threads[i]? = some ⟨c, some (.stmt q k)⟩ → G.permits g.world i q
  | .crash _ => G.crashes
  | .drift _ => True

/-- Does the regime allow the schedule, move by move? -/
def AllowsAll : Config L σ Result → List S.Move → Prop
  | _, [] => True
  | g, m :: ms => S.Allows G g m ∧ AllowsAll (S.play g m) ms

lemma Reachable.run {g g' : Config L σ Result} (h : S.Reachable G g)
    (hrun : Relation.ReflTransGen (S.Step G) g g') : S.Reachable G g' := by
  obtain ⟨s, hi, hpast⟩ := h
  exact ⟨s, hi, hpast.trans hrun⟩

lemma play_steps {g : Config L σ Result} {m : S.Move} (hm : S.Allows G g m) :
    Relation.ReflTransGen (S.Step G) g (S.play g m) := by
  cases m with
  | start c => exact .single (.start _ _ c hm)
  | drift d => exact .single (.drift _ _ d)
  | exec i a =>
    simp only [play]
    split
    · next c q k hi => exact .single (.exec _ _ i c q k (a q) hi (hm c q k hi))
    · exact .refl
  | crash i =>
    simp only [play]
    split
    · next c q k hi => exact .single (.crash _ _ i c q k hi hm)
    · exact .refl

/-- An allowed schedule is a run. -/
theorem plays_steps {g : Config L σ Result} {moves : List S.Move} (h : S.AllowsAll G g moves) :
    Relation.ReflTransGen (S.Step G) g (moves.foldl S.play g) := by
  induction moves generalizing g with
  | nil => exact .refl
  | cons m ms ih => exact (S.play_steps G h.1).trans (ih h.2)

/-- **An allowed schedule ends in a reachable configuration.** -/
theorem runFrom_reachable_of {s : σ} (hs : S.init s) {moves : List S.Move}
    (hmoves : S.AllowsAll G ⟨⟨s, []⟩, []⟩ moves) : S.Reachable G (S.runFrom s moves) :=
  ⟨s, hs, S.plays_steps G hmoves⟩

variable {G} in
/-- Where only the calls are restricted, a schedule that makes allowed calls is allowed. -/
lemma allowsAll_of_starts (hpermits : ∀ w i q, G.permits w i q) (hcrashes : G.crashes)
    {ms : List S.Move} (hcalls : ∀ c, Move.start c ∈ ms → G.calls c) :
    ∀ g : Config L σ Result, S.AllowsAll G g ms := by
  induction ms with
  | nil => exact fun _ => trivial
  | cons m ms ih =>
    refine fun g => ⟨?_, ih (fun c hc => hcalls c (List.mem_cons_of_mem _ hc)) _⟩
    cases m with
    | start c => exact hcalls c List.mem_cons_self
    | exec i a => exact fun _ _ _ _ => hpermits _ _ _
    | crash i => exact hcrashes
    | drift d => trivial

/-- Without a restriction every schedule is allowed. -/
theorem runFrom_reachable {s : σ} (hs : S.init s) (moves : List S.Move) :
    S.Reachable (Regime.free L σ Call) (S.runFrom s moves) :=
  S.runFrom_reachable_of _ hs
    (S.allowsAll_of_starts (fun _ _ _ => trivial) trivial (fun _ _ => trivial) _)

/-- Does the statement a move executes, if any, pass the check `ok`?  A crash does not. -/
def passesMove (ok : World L σ → ℕ → L.Stmt → Bool) (g : Config L σ Result) : S.Move → Bool
  | .start _ | .drift _ => true
  | .crash _ => false
  | .exec i _ =>
    match g.threads[i]? with
    | some ⟨_, some (.stmt q _)⟩ => ok g.world i q
    | _ => true

/-- Play a schedule, checking every statement before it is executed. -/
def passes (ok : World L σ → ℕ → L.Stmt → Bool) : Config L σ Result → List S.Move → Bool
  | _, [] => true
  | g, m :: ms => S.passesMove ok g m && passes ok (S.play g m) ms

variable {G} in
/-- A schedule whose statements pass the check is allowed. -/
lemma allowsAll_of_passes {ok : World L σ → ℕ → L.Stmt → Bool}
    (hok : ∀ w i q, ok w i q = true → G.permits w i q) {g : Config L σ Result}
    {ms : List S.Move} (hcalls : ∀ c, Move.start c ∈ ms → G.calls c)
    (h : S.passes ok g ms = true) : S.AllowsAll G g ms := by
  induction ms generalizing g with
  | nil => trivial
  | cons m ms ih =>
    rw [passes, Bool.and_eq_true] at h
    refine ⟨?_, ih (fun c hc => hcalls c (List.mem_cons_of_mem _ hc)) h.2⟩
    cases m with
    | start c => exact hcalls c List.mem_cons_self
    | drift d => trivial
    | crash i => simp [passesMove] at h
    | exec i a =>
      intro c q k hi
      have hpass := h.1
      rw [passesMove, hi] at hpass
      exact hok _ _ _ hpass

/-- Is the move a crash? -/
def Move.isCrash {S : System L σ Call Result} : S.Move → Bool
  | .crash _ => true
  | _ => false

/-- A schedule without a crash needs no crash to be allowed. -/
theorem runFrom_reachable_crashFree {s : σ} (hs : S.init s) {moves : List S.Move}
    (hmoves : moves.all (fun m => !m.isCrash) = true) :
    S.Reachable (Regime.crashFree L σ Call) (S.runFrom s moves) := by
  have hall : ∀ (ms : List S.Move) (g : Config L σ Result),
      ms.all (fun m => !m.isCrash) = true →
        S.AllowsAll (Regime.crashFree L σ Call) g ms := by
    intro ms
    induction ms with
    | nil => exact fun _ _ => trivial
    | cons m ms ih =>
      intro g hms
      rw [List.all_cons, Bool.and_eq_true] at hms
      refine ⟨?_, ih _ hms.2⟩
      cases m with
      | start c => trivial
      | exec i a => exact fun _ _ _ _ => trivial
      | crash i => simp [Move.isCrash] at hms
      | drift d => trivial
  exact S.runFrom_reachable_of _ hs (hall moves _ hmoves)

end System

end Interleaving
