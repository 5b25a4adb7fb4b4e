import Relaycast.Interleaving.Safety

/-!
# Parallel groups

The branches of a parallel group are one call to everybody else, and to each other they are like
other calls: what one of them does comes between two statements of the others.  Where a discipline
lets everything happen in between (`Discipline.Lax`), a group is safe if each of its branches is,
with the credits of the branches put together (`Discipline.Safe.all`).
-/

namespace Interleaving

variable {L : Language} {σ N : Type} [AddCommMonoid N] {M : Machine L σ} {D : Discipline L σ N}
  {permits : World L σ → ℕ → L.Stmt → Prop} {i : ℕ}

/-- Anything may happen between two statements of a call. -/
def Discipline.Lax (D : Discipline L σ N) : Prop := ∀ i w w', D.rely i w w'

namespace Discipline

variable {α : Type} {Q : α → N → Prop} {p : Prog L α} {n : N}

/-- Where anything may happen in between, it does not matter where a call is looked at. -/
lemma Safe.anywhere (hD : D.Lax) {w : World L σ}
    (hp : D.Safe M permits i (fun a n _ => Q a n) p n w) (w' : World L σ) :
    D.Safe M permits i (fun a n _ => Q a n) p n w' := by
  cases p with
  | done a => exact hp
  | stmt q k => exact Safe.of_rely hp (hD i w w')

/-- A branch of a group gives all its credits back. -/
abbrev BranchSafe (D : Discipline L σ N) (M : Machine L σ)
    (permits : World L σ → ℕ → L.Stmt → Prop) (i : ℕ) (p : Prog L Unit) (n : N) : Prop :=
  ∀ w, D.Safe M permits i (fun _ m _ => m = 0) p n w

/-- Credits beside those of a call stay where they are. -/
lemma Safe.frame {w : World L σ} (hp : D.Safe M permits i (fun a n _ => Q a n) p n w) (m : N) :
    D.Safe M permits i (fun a n _ => ∃ n', Q a n' ∧ n = n' + m) p (n + m) w := by
  induction p generalizing n w with
  | done a => exact ⟨n, hp, rfl⟩
  | stmt q k ih =>
    intro w' rest hw hI hq a
    rw [add_assoc] at hI
    obtain ⟨hrely, n', hI', hk⟩ := hp w' (m + rest) hw hI hq a
    exact ⟨hrely, n' + m, by rwa [add_assoc], ih _ hk⟩

lemma safe_inTurn {ps : List (Prog L Unit)} {ns : List N}
    (h : List.Forall₂ (D.BranchSafe M permits i) ps ns) :
    D.BranchSafe M permits i (Prog.inTurn ps) ns.sum := by
  induction h with
  | nil => exact fun _ => rfl
  | @cons p n ps ns hp _ ih =>
    intro w
    rw [List.sum_cons]
    refine Safe.bind ((hp w).frame ns.sum) fun _ m w' hm => ?_
    obtain ⟨m', rfl, rfl⟩ := hm
    rw [zero_add]
    exact ih w'

/-- **A parallel group is safe if its branches are**, whatever the schedule. -/
theorem Safe.all (hD : D.Lax) (sched : List ℕ) {ps : List (Prog L Unit)} {ns : List N}
    (h : List.Forall₂ (D.BranchSafe M permits i) ps ns) :
    D.BranchSafe M permits i (Prog.all sched ps) ns.sum := by
  induction sched generalizing ps ns with
  | nil => exact safe_inTurn h
  | cons j sched ih =>
    intro w
    rw [Prog.all]
    split
    · next q k hj =>
      intro w' rest hw hI hq a
      have hlt : j < ps.length := (List.getElem?_eq_some_iff.mp hj).1
      have hlt' : j < ns.length := h.length_eq ▸ hlt
      have hbranch : D.BranchSafe M permits i (.stmt q k) ns[j] := by
        have hpair := List.forall₂_iff_get.mp h
        have hget : ps[j] = .stmt q k := (List.getElem?_eq_some_iff.mp hj).2
        have hsafe := hpair.2 j hlt hlt'
        simp only [List.get_eq_getElem] at hsafe
        rwa [hget] at hsafe
      obtain ⟨others, hsum, hset⟩ := sum_split_getElem? (List.getElem?_eq_getElem hlt')
      rw [hsum, add_assoc] at hI
      obtain ⟨hrely, n', hI', hk⟩ := hbranch w w' (others + rest) (hD i w w') hI hq a
      refine ⟨hrely, n' + others, by rwa [add_assoc], ?_⟩
      rw [← hset n']
      refine ih ?_ _
      refine List.forall₂_iff_get.mpr ⟨by simpa using h.length_eq, fun l hl hl' => ?_⟩
      simp only [List.get_eq_getElem, List.getElem_set]
      by_cases hl'' : j = l
      · rw [if_pos hl'', if_pos hl'']
        exact hk.anywhere hD
      · rw [if_neg hl'', if_neg hl'']
        have hpair := (List.forall₂_iff_get.mp h).2 l (by simpa using hl) (by simpa using hl')
        simpa only [List.get_eq_getElem] using hpair
    · exact ih h w

/-- A group of branches that start without credits. -/
theorem Safe.all_zero (hD : D.Lax) (sched : List ℕ) {ps : List (Prog L Unit)}
    (h : ∀ p ∈ ps, D.BranchSafe M permits i p 0) :
    D.BranchSafe M permits i (Prog.all sched ps) 0 := by
  have hall : List.Forall₂ (D.BranchSafe M permits i) ps (ps.map fun _ => 0) := by
    refine List.forall₂_map_right_iff.mpr (List.forall₂_same.mpr h)
  have hsum : (ps.map fun _ => (0 : N)).sum = 0 := List.sum_eq_zero fun n hn => by
    obtain ⟨_, -, rfl⟩ := List.mem_map.mp hn
    rfl
  rw [← hsum]
  exact Safe.all hD sched hall

end Discipline

end Interleaving
