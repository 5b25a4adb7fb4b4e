import Mathlib.Data.List.Basic

/-!
# Timers that are kept in a field

A component keeps the handle of its timer in a field and clears the timer through it.  A timer that
is set while another is running would take its place in the field, and nothing could clear the other
any more.
-/

namespace Reactive

/-- The field, the timers that are running, and how many were ever set. -/
structure Timer where
  handle : Option ℕ
  running : List ℕ
  created : ℕ
  deriving DecidableEq

namespace Timer

/-- No timer was set. -/
def unset : Timer := ⟨none, [], 0⟩

variable (t : Timer)

def set : Timer := ⟨some t.created, t.created :: t.running, t.created + 1⟩

def clear : Timer :=
  match t.handle with
  | none => t
  | some n => { t with handle := none, running := t.running.filter (· != n) }

/-- A timer fires once, and its callback empties the field. -/
def fire (n : ℕ) : Timer := { t with handle := none, running := t.running.filter (· != n) }

/-- The running timer is that of the field. -/
def Kept : Prop := t.running = t.handle.toList

variable {t}

lemma kept_unset : unset.Kept := rfl

lemma Kept.running_eq_nil (h : t.Kept) : t.running = [] ↔ t.handle = none := by
  rw [show t.running = t.handle.toList from h]
  cases t.handle <;> simp

lemma Kept.set (h : t.Kept) (hnone : t.handle = none) : t.set.Kept := by
  have hrunning := h.running_eq_nil.mpr hnone
  simp [Kept, Timer.set, hrunning]

lemma Kept.clear (h : t.Kept) : t.clear.Kept ∧ t.clear.handle = none := by
  have hrunning : t.running = t.handle.toList := h
  unfold Timer.clear
  cases hhandle : t.handle with
  | none => exact ⟨by rw [Kept, hrunning, hhandle], hhandle⟩
  | some n => simp [Kept, hrunning, hhandle]

lemma Kept.fire (h : t.Kept) {n : ℕ} (hn : n ∈ t.running) :
    (t.fire n).Kept ∧ t.handle = some n := by
  have hrunning : t.running = t.handle.toList := h
  cases hhandle : t.handle with
  | none => simp [hrunning, hhandle] at hn
  | some m =>
    simp only [hrunning, hhandle, Option.toList_some, List.mem_singleton] at hn
    subst hn
    exact ⟨by simp [Kept, Timer.fire, hrunning, hhandle], rfl⟩

end Timer

end Reactive
