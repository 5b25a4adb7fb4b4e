import Mathlib.Data.List.Basic

/-!
# Histories

A history lists what happened, latest first.  `Since x P h` says that, of every occurrence of `x`
in `h`, what happened after it satisfies `P`.
-/

namespace Interleaving

variable {α : Type} {x y : α} {P P' : List α → Prop} {h : List α}

/-- What happened at most once is the same wherever it is found. -/
lemma eq_of_mem_of_length_le_one (hlen : h.length ≤ 1) (hx : x ∈ h) (hy : y ∈ h) : x = y := by
  rcases h with _ | ⟨z, _ | ⟨z', h⟩⟩
  · simp at hx
  · exact (List.mem_singleton.mp hx).trans (List.mem_singleton.mp hy).symm
  · simp at hlen

/-- Whatever happened since an occurrence of `x` satisfies `P`. -/
def Since (x : α) (P : List α → Prop) (h : List α) : Prop :=
  ∀ newer older, h = newer ++ x :: older → P newer

@[simp] lemma since_nil : Since x P [] := by
  intro newer older h
  simp at h

/-- One more entry: it may be an occurrence itself, and it comes after the earlier ones. -/
@[simp] lemma since_cons :
    Since x P (y :: h) ↔ (y = x → P []) ∧ Since x (fun newer => P (y :: newer)) h := by
  constructor
  · intro hy
    refine ⟨fun hyx => hy [] h (by simp [hyx]), fun newer older hh => hy (y :: newer) older ?_⟩
    simp [hh]
  · rintro ⟨hhead, htail⟩ newer older hh
    cases newer with
    | nil =>
      obtain ⟨rfl, -⟩ := List.cons.inj hh
      exact hhead rfl
    | cons z newer =>
      obtain ⟨rfl, rfl⟩ := List.cons.inj hh
      exact htail newer older rfl

lemma Since.mono (hP : Since x P h) (himp : ∀ newer, P newer → P' newer) : Since x P' h :=
  fun newer older hh => himp newer (hP newer older hh)

/-- Nothing is asked of what did not happen. -/
lemma since_of_notMem (hx : x ∉ h) : Since x P h := by
  intro newer older hh
  exact absurd (hh ▸ List.mem_append_right newer List.mem_cons_self) hx

/-- What happened since one occurrence. -/
lemma Since.exists_of_mem (hP : Since x P h) (hx : x ∈ h) :
    ∃ newer older, h = newer ++ x :: older ∧ P newer := by
  obtain ⟨newer, older, hh⟩ := List.append_of_mem hx
  exact ⟨newer, older, hh, hP newer older hh⟩

end Interleaving
