import Mathlib.Algebra.GroupWithZero.Nat
import Mathlib.Data.List.Basic

/-!
# Replacing every match of a pattern

`text.replace(/pattern/g, …)` goes through a text from the left: where the pattern matches, what it
matches is replaced and the search goes on behind it, and elsewhere a character is copied.  A
pattern is given by the length of its match at the start of a text.

The search *reaches* the places between its pieces.  Every other place lies inside of a match that
begins at a place it has reached (`reaches_or_inside`), and none lies inside of two.
-/

namespace Script

variable {α : Type}

/-- A pattern, by the length of its match at the start of a text, if there is one. -/
structure Pattern (α : Type) where
  length : List α → Option ℕ
  pos : ∀ {text n}, length text = some n → 0 < n
  le : ∀ {text n}, length text = some n → n ≤ text.length

/-- What becomes of a part of the text. -/
inductive Piece (α : Type)
  | copied (c : α)
  | matched (text : List α)

namespace Piece

/-- The part of the text that it is. -/
def source : Piece α → List α
  | copied c => [c]
  | matched text => text

/-- What it is replaced by. -/
def output (replacement : List α) : Piece α → List α
  | copied c => [c]
  | matched _ => replacement

end Piece

namespace Pattern

variable (P : Pattern α)

/-- The pieces of a text, of whose first characters so many belong to the last match. -/
def pieces : ℕ → List α → List (Piece α)
  | _, [] => []
  | rest + 1, _ :: text => pieces rest text
  | 0, c :: text =>
    match P.length (c :: text) with
    | some n => .matched ((c :: text).take n) :: pieces (n - 1) text
    | none => .copied c :: pieces 0 text

/-- `text.replace(P, () => replacement)`. -/
def replace (text replacement : List α) : List α :=
  (P.pieces 0 text).flatMap (Piece.output replacement)

/-- How much of the text the pieces are. -/
def extent (pieces : List (Piece α)) : ℕ := (pieces.map fun piece => piece.source.length).sum

/-- Some match covers the `len` characters from `start` on. -/
def Replaced (text : List α) (start len : ℕ) : Prop :=
  ∃ before matched after, P.pieces 0 text = before ++ .matched matched :: after ∧
    extent before ≤ start ∧ start + len ≤ extent before + matched.length

/-- The character at a place is copied. -/
def Copied (text : List α) (place : ℕ) : Prop :=
  ∃ before c after, P.pieces 0 text = before ++ .copied c :: after ∧ extent before = place

variable {P} {text : List α} {n p s : ℕ}

@[simp] lemma extent_nil : extent ([] : List (Piece α)) = 0 := rfl

@[simp] lemma extent_cons (piece : Piece α) (pieces : List (Piece α)) :
    extent (piece :: pieces) = piece.source.length + extent pieces := rfl

@[simp] lemma extent_append (before after : List (Piece α)) :
    extent (before ++ after) = extent before + extent after := by
  simp [extent]

lemma pieces_drop (k : ℕ) (text : List α) : P.pieces k text = P.pieces 0 (text.drop k) := by
  induction k generalizing text with
  | zero => rfl
  | succ k ih =>
    cases text with
    | nil => rfl
    | cons c text => exact ih text

lemma ne_nil_of_length (h : P.length text = some n) : text ≠ [] := by
  rintro rfl
  have hpos := P.pos h
  have hle := P.le h
  simp only [List.length_nil] at hle
  omega

lemma pieces_of_some (h : P.length text = some n) :
    P.pieces 0 text = .matched (text.take n) :: P.pieces 0 (text.drop n) := by
  obtain ⟨c, rest, rfl⟩ := List.exists_cons_of_ne_nil (ne_nil_of_length h)
  obtain ⟨k, rfl⟩ := Nat.exists_eq_succ_of_ne_zero (Nat.ne_of_gt (P.pos h))
  rw [pieces, h]
  simp only [Nat.succ_eq_add_one, Nat.add_sub_cancel, List.drop_succ_cons]
  rw [pieces_drop]

lemma pieces_of_none {c : α} (h : P.length (c :: text) = none) :
    P.pieces 0 (c :: text) = .copied c :: P.pieces 0 text := by
  rw [pieces, h]

/-! ## Where the search gets to -/

variable (P) in
/-- The places that the search reaches. -/
inductive Reaches (text : List α) : ℕ → Prop
  | start : Reaches text 0
  | match_ {p n : ℕ} (h : Reaches text p) (hn : P.length (text.drop p) = some n) :
    Reaches text (p + n)
  | copy {p : ℕ} (h : Reaches text p) (hp : p < text.length) (hn : P.length (text.drop p) = none) :
    Reaches text (p + 1)

/-- What the search finds behind a place it has reached. -/
lemma Reaches.trans (hn : P.Reaches text n) (h : P.Reaches (text.drop n) p) :
    P.Reaches text (n + p) := by
  induction h with
  | start => exact hn
  | match_ h hlength ih =>
    rw [List.drop_drop] at hlength
    rw [← Nat.add_assoc]
    exact .match_ ih hlength
  | @copy p h hlt hlength ih =>
    rw [List.drop_drop] at hlength
    rw [List.length_drop] at hlt
    have hlt' : n + p < text.length := by omega
    exact .copy ih hlt' hlength

/-- The search is at the places between pieces. -/
lemma reaches_of_pieces {before after : List (Piece α)} (h : P.pieces 0 text = before ++ after) :
    P.Reaches text (extent before) ∧ after = P.pieces 0 (text.drop (extent before)) := by
  induction before generalizing text with
  | nil => exact ⟨.start, h.symm⟩
  | cons piece before ih =>
    cases text with
    | nil => simp [pieces] at h
    | cons c text =>
      cases hlength : P.length (c :: text) with
      | none =>
        rw [pieces_of_none hlength] at h
        obtain ⟨rfl, hrest⟩ := List.cons.inj h
        obtain ⟨hreaches, hafter⟩ := ih hrest
        have hone : P.Reaches (c :: text) 1 := .copy .start (Nat.succ_pos _) hlength
        refine ⟨hone.trans hreaches, ?_⟩
        rw [hafter, extent_cons]
        exact congrArg (P.pieces 0) (by rw [Nat.add_comm]; rfl)
      | some n =>
        rw [pieces_of_some hlength] at h
        obtain ⟨rfl, hrest⟩ := List.cons.inj h
        obtain ⟨hreaches, hafter⟩ := ih hrest
        have hstart : P.Reaches (c :: text) (0 + n) := .match_ .start hlength
        have hlen : ((c :: text).take n).length = n := List.length_take_of_le (P.le hlength)
        rw [Nat.zero_add] at hstart
        simp only [extent_cons, Piece.source, hlen]
        exact ⟨hstart.trans hreaches, by rw [hafter, List.drop_drop]⟩

/-- What has been done when the search reaches a place. -/
lemma Reaches.pieces (h : P.Reaches text p) :
    ∃ before, P.pieces 0 text = before ++ P.pieces 0 (text.drop p) ∧ extent before = p := by
  induction h with
  | start => exact ⟨[], rfl, rfl⟩
  | @match_ p n h hlength ih =>
    obtain ⟨before, hbefore, hextent⟩ := ih
    rw [pieces_of_some hlength, List.drop_drop] at hbefore
    have hlen : ((text.drop p).take n).length = n := List.length_take_of_le (P.le hlength)
    refine ⟨before ++ [.matched ((text.drop p).take n)], by simp [hbefore], ?_⟩
    simp [Piece.source, hlen, hextent]
  | @copy p h hlt hlength ih =>
    obtain ⟨before, hbefore, hextent⟩ := ih
    rw [List.drop_eq_getElem_cons hlt] at hlength hbefore
    rw [pieces_of_none hlength] at hbefore
    refine ⟨before ++ [.copied text[p]], by simp [hbefore], ?_⟩
    simp [Piece.source, hextent]

variable (P) in
/-- The place lies inside of the match that begins at `s`. -/
def Inside (text : List α) (s p : ℕ) : Prop :=
  P.Reaches text s ∧ ∃ n, P.length (text.drop s) = some n ∧ s < p ∧ p < s + n

/-- Places are reached, or inside of a match. -/
lemma reaches_or_inside (hp : p ≤ text.length) : P.Reaches text p ∨ ∃ s, P.Inside text s p := by
  induction p with
  | zero => exact .inl .start
  | succ p ih =>
    rcases ih (by omega) with h | ⟨s, hs, n, hn, hlt, hlt'⟩
    · cases hlength : P.length (text.drop p) with
      | none => exact .inl (.copy h (by omega) hlength)
      | some n =>
        have hpos := P.pos hlength
        by_cases hone : n = 1
        · subst hone
          exact .inl (.match_ h hlength)
        · exact .inr ⟨p, h, n, hlength, by omega, by omega⟩
    · by_cases hstop : p + 1 = s + n
      · rw [hstop]
        exact .inl (.match_ hs hn)
      · exact .inr ⟨s, hs, n, hn, by omega, by omega⟩

/-- Not both. -/
lemma Inside.not_reaches (h : P.Inside text s p) : ¬ P.Reaches text p := by
  intro hreaches
  induction p using Nat.strongRecOn generalizing s with
  | ind p ih =>
    obtain ⟨hs, n, hn, hlt, hlt'⟩ := h
    cases hreaches with
    | start => omega
    | @match_ p' n' hp' hn' =>
      have hpos' := P.pos hn'
      rcases Nat.lt_trichotomy s p' with hsp | rfl | hsp
      · exact ih p' (by omega) ⟨hs, n, hn, hsp, by omega⟩ hp'
      · have heq := Option.some.inj (hn.symm.trans hn')
        omega
      · exact ih s hlt ⟨hp', n', hn', hsp, hlt⟩ hs
    | @copy p' hp' hlen hn' =>
      rcases Nat.lt_or_ge s p' with hsp | hsp
      · exact ih p' (by omega) ⟨hs, n, hn, hsp, by omega⟩ hp'
      · have heq : s = p' := by omega
        rw [heq, hn'] at hn
        cases hn

/-- What a match covers, by where it begins. -/
lemma replaced_iff {start len : ℕ} : P.Replaced text start len ↔
    ∃ s n, P.Reaches text s ∧ P.length (text.drop s) = some n ∧ s ≤ start ∧ start + len ≤ s + n := by
  constructor
  · rintro ⟨before, matched, after, hpieces, hbefore, hafter⟩
    obtain ⟨hreaches, hrest⟩ := reaches_of_pieces hpieces
    refine ⟨extent before, matched.length, hreaches, ?_, hbefore, hafter⟩
    cases htext : text.drop (extent before) with
    | nil =>
      rw [htext] at hrest
      simp [Pattern.pieces] at hrest
    | cons c rest =>
      rw [htext] at hrest
      cases hlength : P.length (c :: rest) with
      | none =>
        rw [pieces_of_none hlength] at hrest
        cases (List.cons.inj hrest).1
      | some n =>
        rw [pieces_of_some hlength] at hrest
        obtain rfl := Piece.matched.inj (List.cons.inj hrest).1
        rw [List.length_take_of_le (P.le hlength)]
  · rintro ⟨s, n, hs, hn, hstart, hstop⟩
    obtain ⟨before, hbefore, rfl⟩ := hs.pieces
    rw [pieces_of_some hn] at hbefore
    refine ⟨before, _, _, hbefore, hstart, ?_⟩
    rw [List.length_take_of_le (P.le hn)]
    exact hstop

lemma Copied.reaches (h : P.Copied text p) :
    P.Reaches text p ∧ P.length (text.drop p) = none := by
  obtain ⟨before, c, after, hpieces, rfl⟩ := h
  obtain ⟨hreaches, hrest⟩ := reaches_of_pieces hpieces
  refine ⟨hreaches, ?_⟩
  cases htext : text.drop (extent before) with
  | nil =>
    rw [htext] at hrest
    simp [Pattern.pieces] at hrest
  | cons c' rest =>
    rw [htext] at hrest
    cases hlength : P.length (c' :: rest) with
    | none => rfl
    | some n =>
      rw [pieces_of_some hlength] at hrest
      cases (List.cons.inj hrest).1

/-- What a match covers is not copied. -/
lemma Replaced.not_copied {start len : ℕ} (h : P.Replaced text start len) (hstart : start ≤ p)
    (hstop : p < start + len) : ¬ P.Copied text p := by
  intro hcopied
  obtain ⟨hreaches, hnone⟩ := hcopied.reaches
  obtain ⟨s, n, hs, hn, hbefore, hafter⟩ := replaced_iff.mp h
  rcases Nat.lt_or_ge s p with hlt | hle
  · exact Inside.not_reaches ⟨hs, n, hn, hlt, by omega⟩ hreaches
  · have heq : s = p := by omega
    rw [heq, hnone] at hn
    cases hn

end Pattern

end Script
