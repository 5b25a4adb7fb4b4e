import Relaycast.Interleaving.History
import Relaycast.Interleaving.Since

/-!
# Later in a run

What a step never takes back of the store is a relation between the stores of any two
configurations of a run, and between the earlier of them and every store a statement was executed
on since.  `LaterOn K` says both of two worlds, for a preorder `K` on stores; it is itself a
preorder that every statement and every drift keeping `K` respects.  What a call executes that was
made after a configuration, it executes on stores that are later than the one there
(`LaterOn.of_new`).
-/

namespace Interleaving

variable {L : Language} {σ Call : Type} {Result : Call → Type} {K : σ → σ → Prop}

/-- The store has moved on along `K`, and whatever was executed since was executed on a store that
had. -/
structure LaterOn (K : σ → σ → Prop) (w w' : World L σ) : Prop where
  kept : K w.store w'.store
  newer : ∃ newer, w'.trace = newer ++ w.trace ∧ ∀ e ∈ newer, K w.store e.before

namespace LaterOn

lemma refl (hrefl : ∀ s, K s s) (w : World L σ) : LaterOn K w w :=
  ⟨hrefl _, [], rfl, by simp⟩

lemma trans (htrans : ∀ s₁ s₂ s₃, K s₁ s₂ → K s₂ s₃ → K s₁ s₃) {w₁ w₂ w₃ : World L σ}
    (h : LaterOn K w₁ w₂) (h' : LaterOn K w₂ w₃) : LaterOn K w₁ w₃ := by
  obtain ⟨hkept, newer, htrace, hnewer⟩ := h
  obtain ⟨hkept', newer', htrace', hnewer'⟩ := h'
  refine ⟨htrans _ _ _ hkept hkept', newer' ++ newer, ?_, fun e he => ?_⟩
  · rw [htrace', htrace, List.append_assoc]
  · rcases List.mem_append.mp he with he | he
    · exact htrans _ _ _ hkept (hnewer' e he)
    · exact hnewer e he

lemma after {M : Machine L σ} (hrefl : ∀ s, K s s) {w : World L σ} {i : ℕ} {q : L.Stmt}
    {a : L.Answer q} (h : K w.store (M.run q a w.store).2) : LaterOn K w (w.after M i q a) := by
  refine ⟨h, [_], rfl, fun e he => ?_⟩
  obtain rfl := List.mem_singleton.mp he
  exact hrefl _

lemma drift {M : Machine L σ} {w : World L σ} {d : M.Drift} (h : K w.store (M.drift d w.store)) :
    LaterOn K w (w.drift M d) := ⟨h, [], rfl, by simp⟩

variable {w w' : World L σ}

lemma trace_subset (h : LaterOn K w w') : w.trace ⊆ w'.trace := by
  obtain ⟨-, newer, htrace, -⟩ := h
  rw [htrace]
  exact List.subset_append_right newer w.trace

/-- What a call executes that is made after `g`. -/
lemma of_new {S : System L σ Call Result} {G : Regime L σ Call} {g g' : Config L σ Result}
    (h : S.Reachable G g) (hlater : LaterOn K g.world g'.world) {i : ℕ}
    (hi : g.threads.length ≤ i) : ∀ e ∈ g'.world.eventsOf i, K g.world.store e.before := by
  obtain ⟨-, newer, htrace, hnewer⟩ := hlater
  intro e he
  obtain ⟨hmem, rfl⟩ := World.mem_eventsOf.mp he
  rw [htrace] at hmem
  rcases List.mem_append.mp hmem with hmem | hmem
  · exact hnewer e hmem
  · obtain ⟨t, ht, -⟩ := System.caller_of_event (P := fun _ _ => True)
      (fun c _ => Prog.issues_true _) h e hmem
    have hlt := (List.getElem?_eq_some_iff.mp ht).1
    omega

end LaterOn

/-- **What the shared world never takes back in a step, it does not take back in a run.** -/
theorem Shared.grows_of_run {H : Shared L σ} {S : System L σ Call Result} {G : Regime L σ Call}
    {Q : (c : Call) → ℕ → Result c → World L σ → Prop} (hinit : ∀ s, S.init s → H.inv ⟨s, []⟩)
    (hdrift : ∀ d w, H.inv w → H.inv (w.drift S.toMachine d))
    (hgrows : ∀ d w, H.grows w (w.drift S.toMachine d))
    (hcall : ∀ c, G.calls c → ∀ i w, w.eventsOf i = [] → H.inv w →
      H.Safe S.toMachine G.permits i (Q c i) (S.body c) w)
    {g g' : Config L σ Result} (h : S.Reachable G g)
    (hrun : Relation.ReflTransGen (S.Step G) g g') : H.grows g.world g'.world := by
  have hK : H.discipline.Keeps S G (fun c i a _ w => Q c i a w) :=
    { init := hinit
      drift_inv := fun d w _ => hdrift d w
      drift_rely := fun d w _ => ⟨rfl, hgrows d w⟩
      call := fun c hc i w _ hcaller hI => hcall c hc i w (w.eventsOf_eq_nil i hcaller) hI }
  have hboth : S.Reachable G g' ∧ H.grows g.world g'.world := by
    induction hrun with
    | refl => exact ⟨h, H.refl _⟩
    | tail _ hst ih =>
      obtain ⟨hreach, hgrown⟩ := ih
      refine ⟨hreach.step S G hst, ?_⟩
      cases hst with
      | start | crash => exact hgrown
      | exec w ts i c q k a hi hq =>
        -- The pool lets everybody but the caller rely on the step; what they rely on includes it.
        obtain ⟨ns, hlen, hI, -, hsafe⟩ := Discipline.sound hK hreach
        have hlt : i < ns.length := hlen.symm ▸ (List.getElem?_eq_some_iff.mp hi).1
        have hni : ns[i]? = some ns[i] := List.getElem?_eq_getElem hlt
        obtain ⟨rest, hsum, -⟩ := sum_split_getElem? hni
        obtain ⟨w₀, hw₀, hprog⟩ := hsafe i _ _ hi hni
        obtain ⟨hrely, -⟩ := hprog _ rfl w rest hw₀ (hsum ▸ hI) hq a
        exact H.trans _ _ _ hgrown (hrely (i + 1) (by omega)).2
      | drift w ts d => exact H.trans _ _ _ hgrown (hgrows d w)
  exact hboth.2

end Interleaving
