import Relaycast.Interleaving.Run

/-!
# Calls that run alone

What a call achieves when nothing is interleaved with it.  `System.SoloStep` is the execution of
the next statement of one call, with a contribution of the outside world that is allowed; a solo
run is a run of the system in which only that call moves.  `Prog.Alone` is the sequential
obligation, statement by statement, and `System.alone_sound` says that it decides all solo runs.
-/

namespace Interleaving

variable {L : Language} {σ Call : Type} {Result : Call → Type}

/-- Call `i` executes its next statement, the outside world contributing as `ok` allows. -/
inductive System.SoloStep (S : System L σ Call Result) (ok : (q : L.Stmt) → L.Answer q → Prop)
    (i : ℕ) : Config L σ Result → Config L σ Result → Prop
  | exec (w : World L σ) (ts : List (Thread L Result)) (c : Call) (q : L.Stmt)
      (k : L.Reply q → Prog L (Result c)) (a : L.Answer q)
      (hi : ts[i]? = some ⟨c, some (.stmt q k)⟩) (hok : ok q a) :
      SoloStep S ok i ⟨w, ts⟩
        ⟨w.after S.toMachine i q a, ts.set i ⟨c, some (k (S.run q a w.store).1)⟩⟩

/-- A solo run is a run of the system. -/
lemma System.reachable_of_solo {S : System L σ Call Result} {G : Regime L σ Call}
    {ok : (q : L.Stmt) → L.Answer q → Prop} {i : ℕ} (hperm : ∀ w q, G.permits w i q)
    {g g' : Config L σ Result} (h : S.Reachable G g)
    (hrun : Relation.ReflTransGen (S.SoloStep ok i) g g') : S.Reachable G g' := by
  induction hrun with
  | refl => exact h
  | tail _ hst ih =>
    cases hst with
    | exec w ts c q k a hi _ => exact ih.step S G (.exec w ts i c q k a hi (hperm w q))

namespace Prog

variable {α β : Type} (M : Machine L σ) (ok : (q : L.Stmt) → L.Answer q → Prop) (i : ℕ)

/-- Run alone as call `i` from `w`, the program returns with the postcondition `Q`. -/
def Alone (Q : α → World L σ → Prop) : Prog L α → World L σ → Prop
  | .done a, w => Q a w
  | .stmt q k, w =>
    ∀ a, ok q a → Alone Q (k (M.run q a w.store).1) (w.after M i q a)

variable {M ok i} {Q : α → World L σ → Prop}

@[simp] lemma alone_done (a : α) (w : World L σ) : (Prog.done a).Alone M ok i Q w ↔ Q a w := Iff.rfl

lemma Alone.ask_bind {q : L.Stmt} {f : L.Reply q → Prog L α} {w : World L σ}
    (h : ∀ a, ok q a → ∀ r, r = (M.run q a w.store).1 → (f r).Alone M ok i Q (w.after M i q a)) :
    (ask q >>= f).Alone M ok i Q w :=
  fun a ha => h a ha _ rfl

lemma Alone.mono {Q' : α → World L σ → Prop} {p : Prog L α} {w : World L σ}
    (hp : p.Alone M ok i Q w) (hQ : ∀ a w, Q a w → Q' a w) : p.Alone M ok i Q' w := by
  induction p generalizing w with
  | done a => exact hQ a w hp
  | stmt q k ih => exact fun a ha => ih _ (hp a ha)

lemma Alone.bind {Q' : β → World L σ → Prop} {p : Prog L α} {f : α → Prog L β} {w : World L σ}
    (hp : p.Alone M ok i Q w) (hf : ∀ a w, Q a w → (f a).Alone M ok i Q' w) :
    (p >>= f).Alone M ok i Q' w := by
  induction p generalizing w with
  | done a => exact hf a w hp
  | stmt q k ih => exact fun a ha => ih _ (hp a ha)

/-- What every statement of a program keeps, the program keeps. -/
lemma Alone.of_issues {P : L.Stmt → Prop} {K : World L σ → Prop} {p : Prog L α} (hp : p.Issues P)
    (hK : ∀ w q a, P q → ok q a → K w → K (w.after M i q a)) {w : World L σ} (h : K w) :
    p.Alone M ok i (fun _ w' => K w') w := by
  induction p generalizing w with
  | done a => exact h
  | stmt q k ih => exact fun a ha => ih _ (hp.2 _) (hK w q a hp.1 ha h)

end Prog

/-- **What a program establishes alone, every solo run of it that returns establishes.** -/
theorem System.alone_sound {S : System L σ Call Result} {ok : (q : L.Stmt) → L.Answer q → Prop}
    {i : ℕ} {c : Call} {Q : Result c → World L σ → Prop} {p : Prog L (Result c)} {w : World L σ}
    {ts : List (Thread L Result)} (hp : p.Alone S.toMachine ok i Q w)
    (hi : ts[i]? = some ⟨c, some p⟩) {g : Config L σ Result}
    (hrun : Relation.ReflTransGen (S.SoloStep ok i) ⟨w, ts⟩ g) {a : Result c}
    (ha : g.threads[i]? = some ⟨c, some (.done a)⟩) : Q a g.world := by
  have hrest : ∃ p' : Prog L (Result c), g.threads[i]? = some ⟨c, some p'⟩ ∧
      p'.Alone S.toMachine ok i Q g.world := by
    clear ha
    induction hrun with
    | refl => exact ⟨p, hi, hp⟩
    | tail _ hst ih =>
      obtain ⟨p', hi', hp'⟩ := ih
      cases hst with
      | exec w' ts' c' q k b hk hok =>
        have hlt : i < ts'.length := (List.getElem?_eq_some_iff.mp hk).1
        rw [hk] at hi'
        obtain ⟨rfl, hprog⟩ := (Thread.mk.injEq ..).mp (Option.some.inj hi')
        obtain rfl : Prog.stmt q k = p' := Option.some.inj (eq_of_heq hprog)
        exact ⟨_, by simp [hlt], hp' b hok⟩
  obtain ⟨p', hi', hp'⟩ := hrest
  rw [ha] at hi'
  obtain ⟨-, hprog⟩ := (Thread.mk.injEq ..).mp (Option.some.inj hi')
  obtain rfl : Prog.done a = p' := Option.some.inj (eq_of_heq hprog)
  exact hp'

/-- Left alone, a call returns. -/
theorem System.exists_solo_run (S : System L σ Call Result)
    {ok : (q : L.Stmt) → L.Answer q → Prop} (hok : ∀ q, ∃ a, ok q a) {i : ℕ} {c : Call}
    (p : Prog L (Result c)) (w : World L σ) (ts : List (Thread L Result))
    (hi : ts[i]? = some ⟨c, some p⟩) :
    ∃ (g : Config L σ Result) (a : Result c),
      Relation.ReflTransGen (S.SoloStep ok i) ⟨w, ts⟩ g ∧
        g.threads[i]? = some ⟨c, some (.done a)⟩ := by
  induction p generalizing w ts with
  | done a => exact ⟨_, a, .refl, hi⟩
  | stmt q k ih =>
    obtain ⟨b, hb⟩ := hok q
    have hlt : i < ts.length := (List.getElem?_eq_some_iff.mp hi).1
    obtain ⟨g, a, hrun, ha⟩ := ih (S.run q b w.store).1 (w.after S.toMachine i q b)
      (ts.set i ⟨c, some (k (S.run q b w.store).1)⟩) (by simp [hlt])
    exact ⟨g, a, .head (.exec w ts c q k b hi hb) hrun, ha⟩

end Interleaving
