import Mathlib.Algebra.BigOperators.Group.List.Basic
import Mathlib.Algebra.Group.PUnit
import Mathlib.Algebra.GroupWithZero.Nat
import Mathlib.Algebra.Order.BigOperators.Group.List
import Mathlib.Algebra.Order.Group.Nat
import Mathlib.Algebra.Order.PUnit
import Relaycast.Interleaving.Run

/-!
# Rely, guarantee and credits

A run interleaves any number of calls, so a proof about it has to speak of one call at a time.  A
`Discipline` fixes what that needs: a relation `rely i` that every step not taken by call `i`
respects, and an invariant of the world.  The invariant also sees the total of the *credits* the
calls hold.  A credit is what a call owns of the store's accounting between two of its statements
(a reservation it has taken and must hand back, a transition it performed and has not reported
yet); credits live in any commutative monoid.

`Discipline.Safe` is the local obligation: from any world the others may have produced, the next
statement keeps the invariant with the caller's credits updated, is an allowed step for everybody
else, and leaves a continuation that is safe again.  `Discipline.sound` is the global conclusion:
if every call is safe when it is made, then in every reachable configuration the invariant holds
with the credits of all calls together, and every call that has returned satisfies its
postcondition.
-/

namespace Interleaving

variable {L : Language} {σ Call N : Type} {Result : Call → Type}

/-- What the calls may do to each other (`rely i w w'`: the others may take `w` to `w'` while call
`i` is between two statements) and the invariant they keep together, given the credits they
hold. -/
structure Discipline (L : Language) (σ N : Type) where
  rely : ℕ → World L σ → World L σ → Prop
  refl : ∀ i w, rely i w w
  trans : ∀ i w₁ w₂ w₃, rely i w₁ w₂ → rely i w₂ w₃ → rely i w₁ w₃
  inv : World L σ → N → Prop

/-! ## Sums of credits -/

section Sum

variable [AddCommMonoid N]

/-- Splitting one entry off a sum, so that it can be replaced. -/
lemma sum_split_getElem? {ns : List N} {i : ℕ} {n : N} (h : ns[i]? = some n) :
    ∃ rest, ns.sum = n + rest ∧ ∀ m, (ns.set i m).sum = m + rest := by
  induction ns generalizing i with
  | nil => simp at h
  | cons x xs ih =>
    cases i with
    | zero =>
      obtain rfl : x = n := by simpa using h
      exact ⟨xs.sum, by simp, fun m => by simp⟩
    | succ i =>
      obtain ⟨rest, hsum, hset⟩ := ih (by simpa using h)
      refine ⟨x + rest, ?_, fun m => ?_⟩
      · rw [List.sum_cons, hsum, add_left_comm]
      · rw [List.set_cons_succ, List.sum_cons, hset, add_left_comm]

end Sum

namespace Discipline

variable [AddCommMonoid N] (M : Machine L σ) (D : Discipline L σ N)
  (permits : World L σ → ℕ → L.Stmt → Prop)

/-- Call `i`, holding the credits `n` in the world `w`, is safe to run with what is left of it,
and returns with the postcondition `Q`. -/
def Safe (i : ℕ) {α : Type} (Q : α → N → World L σ → Prop) : Prog L α → N → World L σ → Prop
  | .done a, n, w => Q a n w
  | .stmt q k, n, w =>
    ∀ w' rest, D.rely i w w' → D.inv w' (n + rest) → permits w' i q → ∀ a : L.Answer q,
      (∀ j, j ≠ i → D.rely j w' (w'.after M i q a)) ∧
      ∃ n', D.inv (w'.after M i q a) (n' + rest) ∧
        Safe i Q (k (M.run q a w'.store).1) n' (w'.after M i q a)

section Rules

variable {M D permits} {α β : Type} {i : ℕ}

@[simp] lemma safe_done (Q : α → N → World L σ → Prop) (a : α) (n : N) (w : World L σ) :
    D.Safe M permits i Q (.done a) n w ↔ Q a n w := Iff.rfl

/-- The rule of a statement. -/
lemma Safe.ask_bind {Q : α → N → World L σ → Prop} {q : L.Stmt} {f : L.Reply q → Prog L α} {n : N}
    {w : World L σ}
    (h : ∀ w' rest, D.rely i w w' → D.inv w' (n + rest) → permits w' i q → ∀ a : L.Answer q,
      (∀ j, j ≠ i → D.rely j w' (w'.after M i q a)) ∧
      ∃ n', D.inv (w'.after M i q a) (n' + rest) ∧
        ∀ r, r = (M.run q a w'.store).1 → D.Safe M permits i Q (f r) n' (w'.after M i q a)) :
    D.Safe M permits i Q (Prog.ask q >>= f) n w := by
  intro w' rest hw hI hq a
  obtain ⟨hrely, n', hI', hk⟩ := h w' rest hw hI hq a
  exact ⟨hrely, n', hI', hk _ rfl⟩

/-- The rule of sequence. -/
lemma Safe.bind {Q : α → N → World L σ → Prop} {Q' : β → N → World L σ → Prop} {p : Prog L α}
    {f : α → Prog L β} {n : N} {w : World L σ} (hp : D.Safe M permits i Q p n w)
    (hf : ∀ a n w, Q a n w → D.Safe M permits i Q' (f a) n w) :
    D.Safe M permits i Q' (p >>= f) n w := by
  induction p generalizing n w with
  | done a => exact hf a n w hp
  | stmt q k ih =>
    intro w' rest hw hI hq a
    obtain ⟨hrely, n', hI', hk⟩ := hp w' rest hw hI hq a
    exact ⟨hrely, n', hI', ih _ hk⟩

/-- The rule of consequence. -/
lemma Safe.mono {Q Q' : α → N → World L σ → Prop} {p : Prog L α} {n : N} {w : World L σ}
    (hp : D.Safe M permits i Q p n w) (hQ : ∀ a n w, Q a n w → Q' a n w) :
    D.Safe M permits i Q' p n w := by
  induction p generalizing n w with
  | done a => exact hQ a n w hp
  | stmt q k ih =>
    intro w' rest hw hI hq a
    obtain ⟨hrely, n', hI', hk⟩ := hp w' rest hw hI hq a
    exact ⟨hrely, n', hI', ih _ hk⟩

/-- Safety of a call that still has a statement to execute survives what the others do. -/
lemma Safe.of_rely {Q : α → N → World L σ → Prop} {q : L.Stmt} {k : L.Reply q → Prog L α} {n : N}
    {w w₁ : World L σ} (hp : D.Safe M permits i Q (.stmt q k) n w) (h : D.rely i w w₁) :
    D.Safe M permits i Q (.stmt q k) n w₁ :=
  fun w' rest hw => hp w' rest (D.trans i _ _ _ h hw)

/-- A call is safe if every statement it can issue is: each keeps the invariant without touching a
credit, and is an allowed step for everybody else. -/
lemma Safe.of_issues {P : L.Stmt → Prop} {p : Prog L α} (hp : p.Issues P)
    (hstmt : ∀ w n q, P q → D.inv w n → permits w i q → ∀ a : L.Answer q,
      (∀ j, j ≠ i → D.rely j w (w.after M i q a)) ∧ D.inv (w.after M i q a) n) (n : N)
    (w : World L σ) : D.Safe M permits i (fun _ m _ => m = n) p n w := by
  induction p generalizing w with
  | done a => rfl
  | stmt q k ih =>
    intro w' rest _ hI hq a
    obtain ⟨hrely, hI'⟩ := hstmt w' _ q hp.1 hI hq a
    exact ⟨hrely, n, hI', ih _ (hp.2 _) _⟩

end Rules

variable (S : System L σ Call Result) (G : Regime L σ Call)
  (Q : (c : Call) → ℕ → Result c → N → World L σ → Prop)

/-- Safety of a call that was made; one that has crashed owes nothing. -/
def ThreadSafe (i : ℕ) (t : Thread L Result) (n : N) (w : World L σ) : Prop :=
  ∀ p, t.prog = some p → D.Safe S.toMachine G.permits i (Q t.call i) p n w

/-- The invariant holds with the credits of all calls together, and every call is safe to run from
a world the others have since taken to the present one. -/
def Pool (g : Config L σ Result) : Prop :=
  ∃ ns : List N, ns.length = g.threads.length ∧ D.inv g.world ns.sum ∧
    (∀ e ∈ g.world.trace, e.caller < g.threads.length) ∧
    ∀ i t n, g.threads[i]? = some t → ns[i]? = some n →
      ∃ w₀, D.rely i w₀ g.world ∧ D.ThreadSafe S G Q i t n w₀

/-- What has to be shown once for a discipline: it holds initially, drifting respects it, and
every call is safe when it is made. -/
structure Keeps : Prop where
  init : ∀ s, S.init s → D.inv ⟨s, []⟩ 0
  drift_inv : ∀ d w n, D.inv w n → D.inv (w.drift S.toMachine d) n
  drift_rely : ∀ d w i, D.rely i w (w.drift S.toMachine d)
  call : ∀ c, G.calls c → ∀ i w n, (∀ e ∈ w.trace, e.caller < i) → D.inv w n →
    D.Safe S.toMachine G.permits i (Q c i) (S.body c) 0 w

variable {D S G Q}

lemma Pool.start {w : World L σ} {ts : List (Thread L Result)} (hK : D.Keeps S G Q)
    (h : D.Pool S G Q ⟨w, ts⟩) (c : Call) (hc : G.calls c) :
    D.Pool S G Q ⟨w, ts ++ [⟨c, some (S.body c)⟩]⟩ := by
  obtain ⟨ns, hlen, hI, hcaller, hsafe⟩ := h
  refine ⟨ns ++ [0], by simpa using hlen, by simpa using hI, fun e he => ?_, fun i t n ht hn => ?_⟩
  · simpa using Nat.lt_succ_of_lt (hcaller e he)
  rcases Nat.lt_or_ge i ts.length with hi | hi
  · rw [List.getElem?_append_left hi] at ht
    rw [List.getElem?_append_left (hlen.symm ▸ hi)] at hn
    exact hsafe i t n ht hn
  · obtain ⟨rfl, rfl⟩ : i = ts.length ∧ t = ⟨c, some (S.body c)⟩ := by
      rw [List.getElem?_append_right hi] at ht
      have hzero : i - ts.length = 0 := by
        by_contra hne
        obtain ⟨m, hm⟩ := Nat.exists_eq_succ_of_ne_zero hne
        simp [hm] at ht
      refine ⟨by omega, ?_⟩
      simpa [hzero] using ht.symm
    obtain rfl : n = 0 := by
      have hn' : (ns ++ [0])[ns.length]? = some n := hlen ▸ hn
      simpa using hn'.symm
    refine ⟨w, D.refl _ w, fun p hp => ?_⟩
    obtain rfl : S.body c = p := by simpa using hp
    exact hK.call c hc _ w ns.sum hcaller hI

lemma Pool.exec {w : World L σ} {ts : List (Thread L Result)} (h : D.Pool S G Q ⟨w, ts⟩)
    {i : ℕ} {c : Call} {q : L.Stmt} {k : L.Reply q → Prog L (Result c)}
    (hi : ts[i]? = some ⟨c, some (.stmt q k)⟩) (hq : G.permits w i q) (a : L.Answer q) :
    D.Pool S G Q
      ⟨w.after S.toMachine i q a, ts.set i ⟨c, some (k (S.run q a w.store).1)⟩⟩ := by
  obtain ⟨ns, hlen, hI, hcaller, hsafe⟩ := h
  have hlt : i < ts.length := (List.getElem?_eq_some_iff.mp hi).1
  have hlt' : i < ns.length := hlen.symm ▸ hlt
  have hni : ns[i]? = some ns[i] := List.getElem?_eq_getElem hlt'
  obtain ⟨rest, hsum, hset⟩ := sum_split_getElem? hni
  obtain ⟨w₀, hw₀, hprog⟩ := hsafe i _ _ hi hni
  obtain ⟨hrely, n', hI', hk⟩ := hprog _ rfl w rest hw₀ (hsum ▸ hI) hq a
  refine ⟨ns.set i n', by simpa using hlen, (hset n').symm ▸ hI', fun e he => ?_,
    fun j t n ht hn => ?_⟩
  · rcases List.mem_cons.mp he with rfl | he
    · simpa using hlt
    · simpa using hcaller e he
  by_cases hj : j = i
  · subst hj
    obtain rfl : n' = n := by simpa [hlt'] using hn
    refine ⟨w.after S.toMachine j q a, D.refl _ _, fun p hp => ?_⟩
    obtain rfl : t = ⟨c, some (k (S.run q a w.store).1)⟩ := by
      simpa [hlt] using ht.symm
    obtain rfl : k (S.run q a w.store).1 = p := by simpa using hp
    exact hk
  · rw [List.getElem?_set_ne (Ne.symm hj)] at ht hn
    obtain ⟨w₁, hw₁, ht₁⟩ := hsafe j t n ht hn
    exact ⟨w₁, D.trans j _ _ _ hw₁ (hrely j hj), ht₁⟩

lemma Pool.crash {w : World L σ} {ts : List (Thread L Result)} (h : D.Pool S G Q ⟨w, ts⟩)
    (i : ℕ) (c : Call) : D.Pool S G Q ⟨w, ts.set i ⟨c, none⟩⟩ := by
  obtain ⟨ns, hlen, hI, hcaller, hsafe⟩ := h
  refine ⟨ns, by simpa using hlen, hI, fun e he => by simpa using hcaller e he,
    fun j t n ht hn => ?_⟩
  by_cases hj : j = i
  · subst hj
    have hlt : j < ts.length := by simpa using (List.getElem?_eq_some_iff.mp ht).1
    obtain rfl : t = ⟨c, none⟩ := by simpa [hlt] using ht.symm
    exact ⟨w, D.refl _ w, fun p hp => by simp at hp⟩
  · rw [List.getElem?_set_ne (Ne.symm hj)] at ht
    exact hsafe j t n ht hn

lemma Pool.drift {w : World L σ} {ts : List (Thread L Result)} (hK : D.Keeps S G Q)
    (h : D.Pool S G Q ⟨w, ts⟩) (d : S.Drift) :
    D.Pool S G Q ⟨w.drift S.toMachine d, ts⟩ := by
  obtain ⟨ns, hlen, hI, hcaller, hsafe⟩ := h
  refine ⟨ns, hlen, hK.drift_inv d w _ hI, hcaller, fun j t n ht hn => ?_⟩
  obtain ⟨w₁, hw₁, ht₁⟩ := hsafe j t n ht hn
  exact ⟨w₁, D.trans j _ _ _ hw₁ (hK.drift_rely d w j), ht₁⟩

/-- **Soundness.**  If every call is safe when it is made, every reachable configuration satisfies
the invariant with the credits of all calls together. -/
theorem sound (hK : D.Keeps S G Q) {g : Config L σ Result} (h : S.Reachable G g) :
    D.Pool S G Q g := by
  refine S.reachable_induction G h (fun s hs => ?_) fun g g' hg hst => ?_
  · exact ⟨[], rfl, hK.init s hs, by simp, by simp⟩
  · cases hst with
    | start w ts c hc => exact hg.start hK c hc
    | exec w ts i c q k a hi hq => exact hg.exec hi hq a
    | crash w ts i c q k hi _ => exact hg.crash i c
    | drift w ts d => exact hg.drift hK d

/-- The invariant in every reachable configuration. -/
lemma Keeps.inv_of_reachable (hK : D.Keeps S G Q) {g : Config L σ Result}
    (h : S.Reachable G g) : ∃ n, D.inv g.world n := by
  obtain ⟨ns, _, hI, _⟩ := sound hK h
  exact ⟨_, hI⟩

/-- A call that has returned did so with its postcondition, and holds its credits beside those of
the others. -/
lemma Keeps.returned (hK : D.Keeps S G Q) {g : Config L σ Result} (h : S.Reachable G g)
    {i : ℕ} {c : Call} {a : Result c} (hi : g.threads[i]? = some ⟨c, some (.done a)⟩) :
    ∃ n rest w₀, D.rely i w₀ g.world ∧ Q c i a n w₀ ∧ D.inv g.world (n + rest) := by
  obtain ⟨ns, hlen, hI, _, hsafe⟩ := sound hK h
  have hlt : i < ns.length := hlen.symm ▸ (List.getElem?_eq_some_iff.mp hi).1
  have hni : ns[i]? = some ns[i] := List.getElem?_eq_getElem hlt
  obtain ⟨rest, hsum, _⟩ := sum_split_getElem? hni
  obtain ⟨w₀, hw₀, hprog⟩ := hsafe i _ _ hi hni
  exact ⟨_, rest, w₀, hw₀, hprog _ rfl, hsum ▸ hI⟩

/-- The credits of all calls at once: whoever has returned did so with its postcondition. -/
lemma Keeps.credits (hK : D.Keeps S G Q) {g : Config L σ Result} (h : S.Reachable G g) :
    ∃ ns : List N, ns.length = g.threads.length ∧ D.inv g.world ns.sum ∧
      ∀ i c a n, g.threads[i]? = some ⟨c, some (.done a)⟩ → ns[i]? = some n →
        ∃ w₀, D.rely i w₀ g.world ∧ Q c i a n w₀ := by
  obtain ⟨ns, hlen, hI, _, hsafe⟩ := sound hK h
  refine ⟨ns, hlen, hI, fun i c a n hi hn => ?_⟩
  obtain ⟨w₀, hw₀, hprog⟩ := hsafe i _ n hi hn
  exact ⟨w₀, hw₀, hprog _ rfl⟩

end Discipline

/-! ## Runs that have come to rest -/

/-- Has the call returned? -/
def Thread.hasReturned (t : Thread L Result) : Bool := t.prog.any Prog.isDone

/-- Has every call returned? -/
def Config.isIdle (g : Config L σ Result) : Bool := g.threads.all Thread.hasReturned

/-- If calls return without credits, the invariant holds without credits once all have
returned. -/
lemma Discipline.Keeps.inv_of_isIdle [AddCommMonoid N] {D : Discipline L σ N}
    {S : System L σ Call Result} {G : Regime L σ Call}
    {Q : (c : Call) → ℕ → Result c → N → World L σ → Prop} (hK : D.Keeps S G Q)
    (hQ : ∀ c i a n w, Q c i a n w → n = 0) {g : Config L σ Result} (h : S.Reachable G g)
    (hidle : g.isIdle = true) : D.inv g.world 0 := by
  obtain ⟨ns, hlen, hI, hns⟩ := hK.credits h
  have hzero : ∀ n ∈ ns, n = 0 := by
    intro n hn
    obtain ⟨i, hi, rfl⟩ := List.getElem_of_mem hn
    have hlt : i < g.threads.length := hlen ▸ hi
    have hreturned := List.all_eq_true.mp hidle _ (List.getElem_mem hlt)
    rcases hthread : g.threads[i] with ⟨c, prog⟩
    rw [hthread] at hreturned
    match prog, hreturned with
    | some (.done a), _ =>
      have hget : g.threads[i]? = some ⟨c, some (.done a)⟩ := by
        rw [List.getElem?_eq_getElem hlt, hthread]
      obtain ⟨w₀, -, hq⟩ := hns i c a _ hget (List.getElem?_eq_getElem hi)
      exact hQ c i a _ w₀ hq
    | some (.stmt _ _), h => simp [Thread.hasReturned, Prog.isDone] at h
    | none, h => simp [Thread.hasReturned] at h
  rw [List.sum_eq_zero hzero] at hI
  exact hI

/-! ## Counting what was returned -/

/-- How much a call that was made has reported, in the measure `f`; nothing before it returns. -/
def Thread.reported (f : (c : Call) → Result c → ℕ) : Thread L Result → ℕ
  | ⟨c, some (.done a)⟩ => f c a
  | _ => 0

/-- How much all calls have reported. -/
def Config.reported (f : (c : Call) → Result c → ℕ) (g : Config L σ Result) : ℕ :=
  (g.threads.map fun t => t.reported f).sum

/-- What the calls report stays within the credits they hold. -/
lemma Discipline.Keeps.reported_le {D : Discipline L σ ℕ} {S : System L σ Call Result}
    {G : Regime L σ Call} {Q : (c : Call) → ℕ → Result c → ℕ → World L σ → Prop}
    (hK : D.Keeps S G Q) {f : (c : Call) → Result c → ℕ}
    (hQ : ∀ c i a n w, Q c i a n w → f c a ≤ n) {g : Config L σ Result} (h : S.Reachable G g) :
    ∃ n, D.inv g.world n ∧ g.reported f ≤ n := by
  obtain ⟨ns, hlen, hI, hns⟩ := hK.credits h
  refine ⟨ns.sum, hI, List.Forall₂.sum_le_sum (List.forall₂_iff_get.mpr ⟨by simp [hlen], ?_⟩)⟩
  intro i hi hi'
  have hlt : i < g.threads.length := by simpa using hi
  have hget : ns[i]? = some ns[i] := List.getElem?_eq_getElem hi'
  simp only [List.get_eq_getElem, List.getElem_map]
  rcases hthread : g.threads[i] with ⟨c, prog⟩
  match prog with
  | none => exact Nat.zero_le _
  | some (.stmt q k) => exact Nat.zero_le _
  | some (.done a) =>
    have hi : g.threads[i]? = some ⟨c, some (.done a)⟩ := by
      rw [List.getElem?_eq_getElem hlt, hthread]
    obtain ⟨w₀, -, hq⟩ := hns i c a _ hi hget
    exact hQ c i a _ w₀ hq

/-! ## Invariants of statements -/

/-- What every call can issue when it is made, every unfinished call can still issue. -/
lemma System.issues_of_reachable {S : System L σ Call Result} {G : Regime L σ Call}
    {P : L.Stmt → Prop} (hbody : ∀ c, G.calls c → (S.body c).Issues P) {g : Config L σ Result}
    (h : S.Reachable G g) :
    ∀ (i : ℕ) (t : Thread L Result), g.threads[i]? = some t → ∀ p, t.prog = some p →
      p.Issues P := by
  refine S.reachable_induction G (P := fun g => ∀ (i : ℕ) (t : Thread L Result),
    g.threads[i]? = some t → ∀ p, t.prog = some p → p.Issues P) h (fun s _ i t hi => ?_) fun g g' ih hst j t hj p hp => ?_
  · simp at hi
  cases hst with
  | start w ts c hc =>
    rcases List.mem_append.mp (List.mem_of_getElem? hj) with ht | ht
    · obtain ⟨i, hi⟩ := List.mem_iff_getElem?.mp ht
      exact ih i t hi p hp
    · obtain rfl : t = ⟨c, some (S.body c)⟩ := by simpa using ht
      obtain rfl : S.body c = p := by simpa using hp
      exact hbody c hc
  | exec w ts i c q k a hi _ =>
    rcases List.mem_or_eq_of_mem_set (List.mem_of_getElem? hj) with ht | rfl
    · obtain ⟨i', hi'⟩ := List.mem_iff_getElem?.mp ht
      exact ih i' t hi' p hp
    · obtain rfl : k (S.run q a w.store).1 = p := by simpa using hp
      exact (ih i _ hi _ rfl).2 _
  | crash w ts i c q k hi _ =>
    rcases List.mem_or_eq_of_mem_set (List.mem_of_getElem? hj) with ht | rfl
    · obtain ⟨i', hi'⟩ := List.mem_iff_getElem?.mp ht
      exact ih i' t hi' p hp
    · simp at hp
  | drift w ts d => exact ih j t hj p hp

/-- Whatever was executed was issued by a call that can issue it. -/
lemma System.caller_of_event {S : System L σ Call Result} {G : Regime L σ Call}
    {P : Call → L.Stmt → Prop} (hbody : ∀ c, G.calls c → (S.body c).Issues (P c))
    {g : Config L σ Result} (h : S.Reachable G g) :
    ∀ e ∈ g.world.trace, ∃ t, g.threads[e.caller]? = some t ∧ P t.call e.stmt := by
  have hboth : (∀ (i : ℕ) (t : Thread L Result), g.threads[i]? = some t → ∀ p, t.prog = some p →
      p.Issues (P t.call)) ∧
      ∀ e ∈ g.world.trace, ∃ t, g.threads[e.caller]? = some t ∧ P t.call e.stmt := by
    refine S.reachable_induction G (P := fun g => (∀ (i : ℕ) (t : Thread L Result),
      g.threads[i]? = some t → ∀ p, t.prog = some p → p.Issues (P t.call)) ∧
      ∀ e ∈ g.world.trace, ∃ t, g.threads[e.caller]? = some t ∧ P t.call e.stmt) h
      (fun s _ => by simp) fun g g' ih hst => ?_
    obtain ⟨hissues, hevents⟩ := ih
    cases hst with
    | start w ts c hc =>
      refine ⟨fun j t hj p hp => ?_, fun e he => ?_⟩
      · rcases List.mem_append.mp (List.mem_of_getElem? hj) with ht | ht
        · obtain ⟨i, hi⟩ := List.mem_iff_getElem?.mp ht
          exact hissues i t hi p hp
        · obtain rfl : t = ⟨c, some (S.body c)⟩ := by simpa using ht
          obtain rfl : S.body c = p := by simpa using hp
          exact hbody c hc
      · obtain ⟨t, ht, hP⟩ := hevents e he
        have hlt := (List.getElem?_eq_some_iff.mp ht).1
        exact ⟨t, (List.getElem?_append_left hlt).trans ht, hP⟩
    | exec w ts i c q k a hi _ =>
      have hq := hissues i _ hi _ rfl
      refine ⟨fun j t hj p hp => ?_, fun e he => ?_⟩
      · rcases List.mem_or_eq_of_mem_set (List.mem_of_getElem? hj) with ht | rfl
        · obtain ⟨i', hi'⟩ := List.mem_iff_getElem?.mp ht
          exact hissues i' t hi' p hp
        · obtain rfl : k (S.run q a w.store).1 = p := by simpa using hp
          exact hq.2 _
      · have hlt := (List.getElem?_eq_some_iff.mp hi).1
        rcases List.mem_cons.mp he with rfl | he
        · exact ⟨_, List.getElem?_set_self hlt, hq.1⟩
        · obtain ⟨t, ht, hP⟩ := hevents e he
          by_cases hcaller : i = e.caller
          · obtain rfl : t = ⟨c, some (.stmt q k)⟩ :=
              Option.some.inj (ht.symm.trans (hcaller ▸ hi))
            refine ⟨⟨c, some (k (S.run q a w.store).1)⟩, ?_, hP⟩
            rw [← hcaller]
            exact List.getElem?_set_self hlt
          · exact ⟨t, (List.getElem?_set_ne hcaller).trans ht, hP⟩
    | crash w ts i c q k hi _ =>
      refine ⟨fun j t hj p hp => ?_, fun e he => ?_⟩
      · rcases List.mem_or_eq_of_mem_set (List.mem_of_getElem? hj) with ht | rfl
        · obtain ⟨i', hi'⟩ := List.mem_iff_getElem?.mp ht
          exact hissues i' t hi' p hp
        · simp at hp
      · have hlt := (List.getElem?_eq_some_iff.mp hi).1
        obtain ⟨t, ht, hP⟩ := hevents e he
        by_cases hcaller : i = e.caller
        · obtain rfl : t = ⟨c, some (.stmt q k)⟩ :=
            Option.some.inj (ht.symm.trans (hcaller ▸ hi))
          exact ⟨⟨c, none⟩, hcaller ▸ List.getElem?_set_self hlt, hP⟩
        · exact ⟨t, (List.getElem?_set_ne hcaller).trans ht, hP⟩
    | drift w ts d => exact ⟨hissues, hevents⟩
  exact hboth.2

/-- **A relation that every statement and every drift keeps holds between any reachable
configuration and every later one.** -/
theorem System.stable_of_statements {S : System L σ Call Result} {G : Regime L σ Call}
    {P : L.Stmt → Prop} {R : World L σ → World L σ → Prop} (hrefl : ∀ w, R w w)
    (htrans : ∀ w₁ w₂ w₃, R w₁ w₂ → R w₂ w₃ → R w₁ w₃)
    (hdrift : ∀ d w, R w (w.drift S.toMachine d))
    (hbody : ∀ c, G.calls c → (S.body c).Issues P)
    (hstmt : ∀ w i q, P q → G.permits w i q → ∀ a : L.Answer q, R w (w.after S.toMachine i q a))
    {g g' : Config L σ Result} (h : S.Reachable G g)
    (hrun : Relation.ReflTransGen (S.Step G) g g') : R g.world g'.world := by
  have hboth : S.Reachable G g' ∧ R g.world g'.world := by
    induction hrun with
    | refl => exact ⟨h, hrefl _⟩
    | tail _ hst ih =>
      obtain ⟨hreach, hR⟩ := ih
      refine ⟨hreach.step S G hst, ?_⟩
      cases hst with
      | start | crash => exact hR
      | exec w ts i c q k a hi hq =>
        have hP : P q := (System.issues_of_reachable hbody hreach i _ hi _ rfl).1
        exact htrans _ _ _ hR (hstmt w i q hP hq a)
      | drift w ts d => exact htrans _ _ _ hR (hdrift d w)
  exact hboth.2

/-- The discipline of an invariant that no call contributes to. -/
def Discipline.ofInvariant (I : World L σ → Prop) : Discipline L σ Unit where
  rely _ _ _ := True
  refl _ _ := trivial
  trans _ _ _ _ _ _ := trivial
  inv w _ := I w

/-- **An invariant that every statement keeps holds in every reachable configuration.** -/
theorem System.invariant_of_statements {S : System L σ Call Result} {G : Regime L σ Call}
    {P : L.Stmt → Prop} {I : World L σ → Prop} (hinit : ∀ s, S.init s → I ⟨s, []⟩)
    (hdrift : ∀ d w, I w → I (w.drift S.toMachine d))
    (hbody : ∀ c, G.calls c → (S.body c).Issues P)
    (hstmt : ∀ w i q, P q → I w → G.permits w i q → ∀ a : L.Answer q,
      I (w.after S.toMachine i q a))
    {g : Config L σ Result} (h : S.Reachable G g) : I g.world := by
  have hK : (Discipline.ofInvariant I).Keeps S G (fun _ _ _ n _ => n = ()) :=
    { init := hinit
      drift_inv := fun d w _ => hdrift d w
      drift_rely := fun _ _ _ => trivial
      call := fun c hc i w _ _ _ => Discipline.Safe.of_issues (hbody c hc)
        (fun w _ q hq hI hperm a => ⟨fun _ _ => trivial, hstmt w i q hq hI hperm a⟩) _ w }
  obtain ⟨_, hI⟩ := hK.inv_of_reachable h
  exact hI

/-- **A property of executed statements that each has when it is taken from a world satisfying the
invariant holds of everything that was executed.** -/
theorem System.events_of_statements {S : System L σ Call Result} {G : Regime L σ Call}
    {P : L.Stmt → Prop} {I : World L σ → Prop} {R : Event L σ → Prop}
    (hinit : ∀ s, S.init s → I ⟨s, []⟩) (hdrift : ∀ d w, I w → I (w.drift S.toMachine d))
    (hbody : ∀ c, G.calls c → (S.body c).Issues P)
    (hstmt : ∀ w i q, P q → I w → G.permits w i q → ∀ a : L.Answer q,
      I (w.after S.toMachine i q a))
    (hevent : ∀ w i q, P q → I w → ∀ a : L.Answer q, R (w.event S.toMachine i q a))
    {g : Config L σ Result} (h : S.Reachable G g) : ∀ e ∈ g.world.trace, R e := by
  have hboth : I g.world ∧ ∀ e ∈ g.world.trace, R e := by
    refine System.invariant_of_statements (I := fun w => I w ∧ ∀ e ∈ w.trace, R e)
      (fun s hs => ⟨hinit s hs, by simp⟩) (fun d w hw => ⟨hdrift d w hw.1, hw.2⟩) hbody ?_ h
    intro w i q hq hw hperm a
    refine ⟨hstmt w i q hq hw.1 hperm a, fun e he => ?_⟩
    rcases List.mem_cons.mp he with rfl | he
    · exact hevent w i q hq hw.1 a
    · exact hw.2 e he
  exact hboth.2

end Interleaving
