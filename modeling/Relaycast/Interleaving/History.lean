import Relaycast.Interleaving.Safety

/-!
# Calls that know their own history

Most functions own nothing of the store between two statements.  What such a call can rely on is
its own history, which nobody else writes, and whatever the shared world never takes back.
`Shared` names the two shared parts, an invariant and a relation in which the world only grows;
`Shared.Safe` is the discipline they make up, with a rule for each statement and one conclusion for
every run: the invariant holds, and a call that has returned did so with a postcondition about its
own events.
-/

namespace Interleaving

/-- Of two entries of a list, one comes first unless they are the same. -/
lemma pair_sublist_or {α : Type} {xs : List α} {a b : α} (ha : a ∈ xs) (hb : b ∈ xs) :
    a = b ∨ [a, b].Sublist xs ∨ [b, a].Sublist xs := by
  induction xs with
  | nil => simp at ha
  | cons x xs ih =>
    rcases List.mem_cons.mp ha with hax | hax <;> rcases List.mem_cons.mp hb with hbx | hbx
    · exact .inl (hax.trans hbx.symm)
    · exact .inr (.inl (hax ▸ (List.singleton_sublist.mpr hbx).cons_cons a))
    · exact .inr (.inr (hbx ▸ (List.singleton_sublist.mpr hax).cons_cons b))
    · exact (ih hax hbx).imp id (Or.imp (·.cons _) (·.cons _))

variable {L : Language} {σ Call : Type} {Result : Call → Type}

/-- What every statement keeps, and what it never takes back. -/
structure Shared (L : Language) (σ : Type) where
  inv : World L σ → Prop
  grows : World L σ → World L σ → Prop
  refl : ∀ w, grows w w
  trans : ∀ w₁ w₂ w₃, grows w₁ w₂ → grows w₂ w₃ → grows w₁ w₃

namespace Shared

/-- Only an invariant. -/
def ofInv (I : World L σ → Prop) : Shared L σ where
  inv := I
  grows _ _ := True
  refl _ := trivial
  trans _ _ _ _ _ := trivial

variable (H : Shared L σ)

/-- The discipline of calls that own their history. -/
def discipline : Discipline L σ Unit where
  rely i w w' := w'.eventsOf i = w.eventsOf i ∧ H.grows w w'
  refl _ w := ⟨rfl, H.refl w⟩
  trans _ _ _ _ h h' := ⟨h'.1.trans h.1, H.trans _ _ _ h.2 h'.2⟩
  inv w _ := H.inv w

variable (M : Machine L σ) (permits : World L σ → ℕ → L.Stmt → Prop)

/-- Call `i` is safe to run with what is left of it from `w`, and returns with `Q`. -/
abbrev Safe (i : ℕ) {α : Type} (Q : α → World L σ → Prop) (p : Prog L α) (w : World L σ) : Prop :=
  H.discipline.Safe M permits i (fun a _ w => Q a w) p () w

variable {H M permits} {i : ℕ} {α β : Type} {Q : α → World L σ → Prop}

/-- The rule of a statement. -/
lemma Safe.ask {q : L.Stmt} {f : L.Reply q → Prog L α} {w : World L σ}
    (h : ∀ w', w'.eventsOf i = w.eventsOf i → H.grows w w' → H.inv w' → permits w' i q →
      ∀ a : L.Answer q, (H.inv (w'.after M i q a) ∧ H.grows w' (w'.after M i q a)) ∧
        ∀ r, r = (M.run q a w'.store).1 → H.Safe M permits i Q (f r) (w'.after M i q a)) :
    H.Safe M permits i Q (Prog.ask q >>= f) w := by
  refine Discipline.Safe.ask_bind fun w' _ hrely hI hq a => ?_
  obtain ⟨⟨hinv, hgrows⟩, hf⟩ := h w' hrely.1 hrely.2 hI hq a
  exact ⟨fun j hj => ⟨World.eventsOf_after_ne _ _ _ _ _ hj, hgrows⟩, (), hinv, hf⟩

/-- The rule of a branch. -/
lemma Safe.ite {c : Prop} [Decidable c] {p p' : Prog L α} {w : World L σ}
    (hp : c → H.Safe M permits i Q p w) (hp' : ¬ c → H.Safe M permits i Q p' w) :
    H.Safe M permits i Q (if c then p else p') w := by
  by_cases hc : c
  · rw [if_pos hc]
    exact hp hc
  · rw [if_neg hc]
    exact hp' hc

/-- The rule of sequence. -/
lemma Safe.then {Q' : β → World L σ → Prop} {p : Prog L α} {f : α → Prog L β} {w : World L σ}
    (hp : H.Safe M permits i Q p w) (hf : ∀ a w, Q a w → H.Safe M permits i Q' (f a) w) :
    H.Safe M permits i Q' (p >>= f) w :=
  Discipline.Safe.bind hp fun a _ w ha => hf a w ha

/-- The rule of consequence. -/
lemma Safe.weaken {Q' : α → World L σ → Prop} {p : Prog L α} {w : World L σ}
    (hp : H.Safe M permits i Q p w) (h : ∀ a w, Q a w → Q' a w) : H.Safe M permits i Q' p w :=
  Discipline.Safe.mono hp fun a _ w ha => h a w ha

/-- What every statement of a program keeps, whatever its call has executed. -/
lemma Safe.of_issues {P : L.Stmt → Prop} {p : Prog L α} (hp : p.Issues P)
    (hstmt : ∀ w q, P q → H.inv w → permits w i q → ∀ a : L.Answer q,
      H.inv (w.after M i q a) ∧ H.grows w (w.after M i q a)) (w : World L σ) :
    H.Safe M permits i (fun _ _ => True) p w := by
  induction p generalizing w with
  | done a => trivial
  | stmt q k ih =>
    exact Safe.ask fun w' _ _ hI hq a => ⟨hstmt w' q hp.1 hI hq a, fun r _ => ih r (hp.2 r) _⟩

/-- What every statement of a program keeps, together with a property of the call's own events. -/
lemma Safe.of_issues_own {P : L.Stmt → Prop} {K : List (Event L σ) → Prop} {p : Prog L α}
    (hp : p.Issues P)
    (hK : ∀ (w : World L σ) q, P q → ∀ a : L.Answer q, K (w.eventsOf i) →
      K (w.event M i q a :: w.eventsOf i))
    (hstmt : ∀ w q, P q → H.inv w → permits w i q → ∀ a : L.Answer q,
      H.inv (w.after M i q a) ∧ H.grows w (w.after M i q a))
    {w : World L σ} (h : K (w.eventsOf i)) :
    H.Safe M permits i (fun _ w => K (w.eventsOf i)) p w := by
  induction p generalizing w with
  | done a => exact h
  | stmt q k ih =>
    refine Safe.ask fun w' hown _ hI hq a => ⟨hstmt w' q hp.1 hI hq a, fun r _ => ih r (hp.2 r) ?_⟩
    rw [World.eventsOf_after_self]
    exact hK w' q hp.1 a (hown ▸ h)

/-- **Every run.**  If drifting respects what is shared and every call is safe when it is made,
the invariant holds in every reachable configuration, and a call that has returned did so with its
postcondition in a world from which only others have moved on. -/
theorem sound {S : System L σ Call Result} {G : Regime L σ Call}
    {Q : (c : Call) → ℕ → Result c → World L σ → Prop}
    (hinit : ∀ s, S.init s → H.inv ⟨s, []⟩)
    (hdrift : ∀ d w, H.inv w → H.inv (w.drift S.toMachine d))
    (hgrows : ∀ d w, H.grows w (w.drift S.toMachine d))
    (hcall : ∀ c, G.calls c → ∀ i w, w.eventsOf i = [] → H.inv w →
      H.Safe S.toMachine G.permits i (Q c i) (S.body c) w)
    {g : Config L σ Result} (h : S.Reachable G g) :
    H.inv g.world ∧ ∀ (i : ℕ) (c : Call) (a : Result c),
      g.threads[i]? = some ⟨c, some (.done a)⟩ →
        ∃ w₀, g.world.eventsOf i = w₀.eventsOf i ∧ H.grows w₀ g.world ∧ Q c i a w₀ := by
  have hK : H.discipline.Keeps S G (fun c i a _ w => Q c i a w) :=
    { init := hinit
      drift_inv := fun d w _ => hdrift d w
      drift_rely := fun d w _ => ⟨rfl, hgrows d w⟩
      call := fun c hc i w _ hcaller hI => hcall c hc i w (w.eventsOf_eq_nil i hcaller) hI }
  refine ⟨(hK.inv_of_reachable h).choose_spec, fun i c a hi => ?_⟩
  obtain ⟨_, _, w₀, hrely, hq, _⟩ := hK.returned h hi
  exact ⟨w₀, hrely.1, hrely.2, hq⟩

end Shared

end Interleaving
