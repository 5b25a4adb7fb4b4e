import Mathlib.Data.List.Basic

/-!
# Runs of event-driven components

A component that reacts to events one at a time is a partial function from a state and an event to
the next state; it is undefined where the event cannot happen in that state.  A run is a list of
events, first to last.  What every event keeps, a run keeps (`run_induction`); what only the events
of a certain kind keep, a run of such events keeps (`along_induction`), and a run that is not of the
kind has a first event that is not (`exists_of_not_along`).  A run whose every event lowers a
variant is finite (`length_le_of_variant`).
-/

namespace Reactive

variable {σ ε : Type} (step : σ → ε → Option σ)

/-- The state after the events; none if one of them cannot happen. -/
def run : σ → List ε → Option σ
  | s, [] => some s
  | s, e :: es => (step s e).bind fun s' => run s' es

/-- Every event of the run satisfies `C` in the state it happens in. -/
def Along (C : σ → ε → Prop) : σ → List ε → Prop
  | _, [] => True
  | s, e :: es => C s e ∧ ∀ s', step s e = some s' → Along C s' es

variable {step} {s s' : σ} {e : ε} {es es' : List ε}

@[simp] lemma run_nil : run step s [] = some s := rfl

lemma run_cons : run step s (e :: es) = some s' ↔
    ∃ s₁, step s e = some s₁ ∧ run step s₁ es = some s' := by
  simp [run, Option.bind_eq_some_iff]

lemma run_append : run step s (es ++ es') = some s' ↔
    ∃ s₁, run step s es = some s₁ ∧ run step s₁ es' = some s' := by
  induction es generalizing s with
  | nil => simp
  | cons e es ih =>
    rw [List.cons_append, run_cons]
    constructor
    · rintro ⟨s₁, hstep, hrest⟩
      obtain ⟨s₂, hes, hes'⟩ := ih.mp hrest
      exact ⟨s₂, run_cons.mpr ⟨s₁, hstep, hes⟩, hes'⟩
    · rintro ⟨s₂, hes, hes'⟩
      obtain ⟨s₁, hstep, hrest⟩ := run_cons.mp hes
      exact ⟨s₁, hstep, ih.mpr ⟨s₂, hrest, hes'⟩⟩

/-- **What every event keeps holds after every run.** -/
theorem run_induction {I : σ → Prop} (hstep : ∀ s e s', I s → step s e = some s' → I s')
    (hs : I s) (hrun : run step s es = some s') : I s' := by
  induction es generalizing s with
  | nil =>
    obtain rfl := Option.some.inj hrun
    exact hs
  | cons e es ih =>
    obtain ⟨s₁, hfirst, hrest⟩ := run_cons.mp hrun
    exact ih (hstep s e s₁ hs hfirst) hrest

/-- **What every event that satisfies `C` keeps holds after every run of such events.** -/
theorem along_induction {I : σ → Prop} {C : σ → ε → Prop}
    (hstep : ∀ s e s', I s → C s e → step s e = some s' → I s') (hs : I s)
    (halong : Along step C s es) (hrun : run step s es = some s') : I s' := by
  induction es generalizing s with
  | nil =>
    obtain rfl := Option.some.inj hrun
    exact hs
  | cons e es ih =>
    obtain ⟨s₁, hfirst, hrest⟩ := run_cons.mp hrun
    exact ih (hstep s e s₁ hs halong.1 hfirst) (halong.2 s₁ hfirst) hrest

/-- **A run is no longer than its variant allows**, where every event that satisfies `C` lowers the
variant by one, and none happens at zero. -/
theorem length_le_of_variant {I : ℕ → σ → Prop} {C : σ → ε → Prop}
    (hzero : ∀ s e, I 0 s → C s e → step s e = none)
    (hstep : ∀ n s e s', I (n + 1) s → C s e → step s e = some s' → I n s') {n : ℕ} (hs : I n s)
    (halong : Along step C s es) (hrun : run step s es = some s') :
    es.length ≤ n ∧ I (n - es.length) s' := by
  induction es generalizing s n with
  | nil =>
    obtain rfl := Option.some.inj hrun
    exact ⟨Nat.zero_le n, hs⟩
  | cons e es ih =>
    obtain ⟨s₁, hfirst, hrest⟩ := run_cons.mp hrun
    cases n with
    | zero => exact absurd hfirst (by simp [hzero s e hs halong.1])
    | succ n =>
      obtain ⟨hlength, hlast⟩ :=
        ih (hstep n s e s₁ hs halong.1 hfirst) (halong.2 s₁ hfirst) hrest
      refine ⟨Nat.succ_le_succ hlength, ?_⟩
      rwa [List.length_cons, Nat.succ_sub_succ]

instance decidableAlong (C : σ → ε → Prop) [∀ s e, Decidable (C s e)] :
    (s : σ) → (es : List ε) → Decidable (Along step C s es)
  | _, [] => .isTrue trivial
  | s, e :: es =>
    match h : step s e with
    | none => decidable_of_iff (C s e) ⟨fun hC => ⟨hC, by simp [h]⟩, And.left⟩
    | some s₁ =>
      have := decidableAlong C s₁ es
      decidable_of_iff (C s e ∧ Along step C s₁ es) (and_congr_right fun _ => by simp [h])

lemma along_append {C : σ → ε → Prop} : Along step C s (es ++ es') ↔
    Along step C s es ∧ ∀ s₁, run step s es = some s₁ → Along step C s₁ es' := by
  induction es generalizing s with
  | nil => simp [Along]
  | cons e es ih =>
    simp only [List.cons_append, Along, ih, run_cons]
    constructor
    · rintro ⟨hC, hrest⟩
      refine ⟨⟨hC, fun s₁ hfirst => (hrest s₁ hfirst).1⟩, ?_⟩
      rintro s₂ ⟨s₁, hfirst, hes⟩
      exact (hrest s₁ hfirst).2 s₂ hes
    · rintro ⟨⟨hC, hes⟩, hes'⟩
      exact ⟨hC, fun s₁ hfirst => ⟨hes s₁ hfirst, fun s₂ hs₂ => hes' s₂ ⟨s₁, hfirst, hs₂⟩⟩⟩

/-- A run of events that satisfy `P` besides. -/
lemma Along.and {C : σ → ε → Prop} {P : ε → Prop} (h : Along step C s es) (hP : ∀ e ∈ es, P e) :
    Along step (fun s e => C s e ∧ P e) s es := by
  induction es generalizing s with
  | nil => trivial
  | cons e es ih =>
    exact ⟨⟨h.1, hP e List.mem_cons_self⟩, fun s₁ hfirst =>
      ih (h.2 s₁ hfirst) fun e' he' => hP e' (List.mem_cons_of_mem e he')⟩

/-- A run of events of one kind. -/
lemma along_of_forall {P : ε → Prop} (h : ∀ e ∈ es, P e) : Along step (fun _ e => P e) s es := by
  induction es generalizing s with
  | nil => trivial
  | cons e es ih =>
    exact ⟨h e List.mem_cons_self, fun s₁ _ => ih fun e' he' => h e' (List.mem_cons_of_mem e he')⟩

/-- A run that does not satisfy `C` all along has an event that does not. -/
theorem exists_of_not_along {C : σ → ε → Prop} (hrun : run step s es = some s')
    (halong : ¬ Along step C s es) : ∃ before e after s₁ s₂, es = before ++ e :: after ∧
      run step s before = some s₁ ∧ ¬ C s₁ e ∧ step s₁ e = some s₂ ∧
        run step s₂ after = some s' := by
  induction es generalizing s with
  | nil => exact absurd trivial halong
  | cons e es ih =>
    obtain ⟨s₁, hfirst, hrest⟩ := run_cons.mp hrun
    by_cases hC : C s e
    · have hlater : ¬ Along step C s₁ es := fun hall =>
        halong ⟨hC, fun s₂ hs₂ => Option.some.inj (hfirst.symm.trans hs₂) ▸ hall⟩
      obtain ⟨before, e', after, s₂, s₃, rfl, hbefore, hC', hstep, hafter⟩ := ih hrest hlater
      exact ⟨e :: before, e', after, s₂, s₃, rfl, run_cons.mpr ⟨s₁, hfirst, hbefore⟩, hC', hstep,
        hafter⟩
    · exact ⟨[], e, es, s, s₁, rfl, rfl, hC, hfirst, hrest⟩

end Reactive
