import Mathlib.Data.List.Infix

/-!
# Patterns with runs

A pattern is a list of tokens: a *run* stands for any number of elements, also for none, and every
other token for one element of which it says something.  `Matches` says when a list is what a
pattern stands for.

Two ways to decide it go through the pattern once.  A table over the initial parts of the list is
brought from a pattern to the pattern with one more token by `matches_concat_one` and
`matches_concat_run`.  A search that goes back to the last run only is complete because of
`Matches.run_of_later`: whatever an earlier run could still make up for, the last run can.
-/

namespace Script

/-- A token: a run, or one element with a property. -/
inductive Token (α : Type)
  | run
  | one (p : α → Prop)

variable {α : Type}

/-- The list is what the pattern stands for. -/
def Matches : List (Token α) → List α → Prop
  | [], xs => xs = []
  | .run :: ts, xs => ∃ front back, xs = front ++ back ∧ Matches ts back
  | .one p :: ts, xs => ∃ x back, xs = x :: back ∧ p x ∧ Matches ts back

variable {p : α → Prop} {ts us : List (Token α)} {xs ys : List α} {x : α}

@[simp] lemma matches_nil : Matches [] xs ↔ xs = [] := Iff.rfl

@[simp] lemma matches_one_nil : ¬ Matches (.one p :: ts) [] := by
  rintro ⟨x, back, h, -⟩
  exact List.cons_ne_nil x back h.symm

@[simp] lemma matches_one_cons : Matches (.one p :: ts) (x :: xs) ↔ p x ∧ Matches ts xs := by
  constructor
  · rintro ⟨y, back, h, hp, hts⟩
    obtain ⟨rfl, rfl⟩ := List.cons.inj h
    exact ⟨hp, hts⟩
  · rintro ⟨hp, hts⟩
    exact ⟨x, xs, rfl, hp, hts⟩

@[simp] lemma matches_run_nil : Matches (.run :: ts) [] ↔ Matches ts [] := by
  constructor
  · rintro ⟨front, back, h, hts⟩
    obtain ⟨-, rfl⟩ := List.append_eq_nil_iff.mp h.symm
    exact hts
  · intro hts
    exact ⟨[], [], rfl, hts⟩

/-- A run ends before the first element, or takes it. -/
lemma matches_run_cons :
    Matches (.run :: ts) (x :: xs) ↔ Matches ts (x :: xs) ∨ Matches (.run :: ts) xs := by
  constructor
  · rintro ⟨front, back, h, hts⟩
    cases front with
    | nil => exact .inl (by rwa [show x :: xs = back from h])
    | cons y front => exact .inr ⟨front, back, (List.cons.inj h).2, hts⟩
  · rintro (hts | ⟨front, back, rfl, hts⟩)
    · exact ⟨[], x :: xs, rfl, hts⟩
    · exact ⟨x :: front, back, rfl, hts⟩

/-- A run takes whatever stands in front. -/
lemma Matches.run_append (h : Matches (.run :: ts) ys) : Matches (.run :: ts) (xs ++ ys) := by
  obtain ⟨front, back, rfl, hts⟩ := h
  exact ⟨xs ++ front, back, (List.append_assoc _ _ _).symm, hts⟩

/-- A run is over at some place. -/
lemma matches_run_iff_drop :
    Matches (.run :: ts) xs ↔ ∃ n ≤ xs.length, Matches ts (xs.drop n) := by
  constructor
  · rintro ⟨front, back, rfl, hts⟩
    exact ⟨front.length, by simp, by simpa using hts⟩
  · rintro ⟨n, -, hts⟩
    exact ⟨xs.take n, xs.drop n, (List.take_append_drop n xs).symm, hts⟩

/-- A pattern written after another matches the parts of a list one after the other. -/
lemma matches_append : Matches (ts ++ us) xs ↔
    ∃ front back, xs = front ++ back ∧ Matches ts front ∧ Matches us back := by
  induction ts generalizing xs with
  | nil => simp
  | cons t ts ih =>
    cases t with
    | run =>
      constructor
      · rintro ⟨front, back, rfl, h⟩
        obtain ⟨mid, back, rfl, hts, hus⟩ := ih.mp h
        exact ⟨front ++ mid, back, (List.append_assoc _ _ _).symm, ⟨front, mid, rfl, hts⟩, hus⟩
      · rintro ⟨-, back, rfl, ⟨front, mid, rfl, hts⟩, hus⟩
        exact ⟨front, mid ++ back, List.append_assoc _ _ _, ih.mpr ⟨mid, back, rfl, hts, hus⟩⟩
    | one p =>
      constructor
      · rintro ⟨x, rest, rfl, hp, h⟩
        obtain ⟨mid, back, rfl, hts, hus⟩ := ih.mp h
        exact ⟨x :: mid, back, rfl, ⟨x, mid, rfl, hp, hts⟩, hus⟩
      · rintro ⟨-, back, rfl, ⟨x, mid, rfl, hp, hts⟩, hus⟩
        exact ⟨x, mid ++ back, rfl, hp, ih.mpr ⟨mid, back, rfl, hts, hus⟩⟩

/-! ## One more token -/

lemma not_matches_concat_one_nil : ¬ Matches (ts ++ [.one p]) [] := by
  intro h
  obtain ⟨front, back, hxs, -, hone⟩ := matches_append.mp h
  obtain ⟨-, rfl⟩ := List.append_eq_nil_iff.mp hxs.symm
  exact matches_one_nil hone

lemma matches_concat_one : Matches (ts ++ [.one p]) (xs ++ [x]) ↔ Matches ts xs ∧ p x := by
  rw [matches_append]
  constructor
  · rintro ⟨front, -, h, hts, y, -, rfl, hp, rfl⟩
    obtain ⟨rfl, hy⟩ := List.append_inj' h rfl
    obtain rfl := List.singleton_inj.mp hy
    exact ⟨hts, hp⟩
  · rintro ⟨hts, hp⟩
    exact ⟨xs, [x], rfl, hts, by simpa using hp⟩

lemma matches_concat_run_nil : Matches (ts ++ [.run]) [] ↔ Matches ts [] := by
  rw [matches_append]
  constructor
  · rintro ⟨front, back, h, hts, -⟩
    obtain ⟨rfl, -⟩ := List.append_eq_nil_iff.mp h.symm
    exact hts
  · intro hts
    exact ⟨[], [], rfl, hts, by simp⟩

/-- A last run is empty, or takes the last element. -/
lemma matches_concat_run :
    Matches (ts ++ [.run]) (xs ++ [x]) ↔
      Matches ts (xs ++ [x]) ∨ Matches (ts ++ [.run]) xs := by
  have hany : ∀ ys : List α, Matches [.run] ys := fun ys => ⟨ys, [], by simp, rfl⟩
  constructor
  · intro h
    obtain ⟨front, back, hxs, hts, -⟩ := matches_append.mp h
    by_cases hback : back = []
    · subst hback
      rw [List.append_nil] at hxs
      exact .inl (hxs ▸ hts)
    · rw [← List.dropLast_append_getLast hback, ← List.append_assoc] at hxs
      obtain ⟨rfl, -⟩ := List.append_inj' hxs rfl
      exact .inr (matches_append.mpr ⟨front, back.dropLast, rfl, hts, hany _⟩)
  · rintro (hts | h)
    · exact matches_append.mpr ⟨xs ++ [x], [], by simp, hts, hany _⟩
    · obtain ⟨front, back, rfl, hts, -⟩ := matches_append.mp h
      exact matches_append.mpr ⟨front, back ++ [x], by simp, hts, hany _⟩

/-! ## Elements that stand for themselves -/

/-- The tokens that stand for the elements of a list. -/
def literals (xs : List α) : List (Token α) := xs.map fun x => .one (· = x)

lemma matches_literals_append :
    Matches (literals xs ++ ts) ys ↔ ∃ back, ys = xs ++ back ∧ Matches ts back := by
  induction xs generalizing ys with
  | nil => simp [literals]
  | cons x xs ih =>
    rw [literals, List.map_cons, List.cons_append]
    constructor
    · rintro ⟨y, rest, rfl, rfl, h⟩
      obtain ⟨back, rfl, hts⟩ := ih.mp h
      exact ⟨back, rfl, hts⟩
    · rintro ⟨back, rfl, hts⟩
      exact ⟨x, xs ++ back, rfl, rfl, ih.mpr ⟨back, rfl, hts⟩⟩

/-- What is left of a list behind a match of literals, if a run follows them, is matched also when
the literals are found further on: the run takes what is in between. -/
lemma Matches.run_of_later {rest later : List α} (hlater : later <:+ xs ++ rest)
    (h : Matches (literals xs ++ .run :: ts) later) : Matches (.run :: ts) rest := by
  obtain ⟨back, rfl, hts⟩ := matches_literals_append.mp h
  obtain ⟨front, hfront⟩ := hlater
  have hlen : back.length ≤ rest.length := by
    have := congrArg List.length hfront
    simp only [List.length_append] at this
    omega
  have hback : back <:+ rest := List.suffix_of_suffix_length_le
    (⟨front ++ xs, by rw [List.append_assoc, hfront]⟩) (List.suffix_append xs rest) hlen
  obtain ⟨between, rfl⟩ := hback
  exact hts.run_append

/-- A list shorter than the literals of a pattern does not match it. -/
lemma not_matches_of_shorter (h : ys.length < xs.length) : ¬ Matches (literals xs ++ ts) ys := by
  intro hmatches
  obtain ⟨back, rfl, -⟩ := matches_literals_append.mp hmatches
  rw [List.length_append] at h
  omega

end Script
