import Mathlib.Data.Nat.Notation

/-!
# Instants

A `Date` holds milliseconds; a timestamp column stores whole seconds.  Two dates in one second are
one column value, which is what a compare on such a column sees.
-/

namespace Relational

/-- Milliseconds, as a `Date` holds them. -/
abbrev Millis := ℕ

/-- Seconds, as a timestamp column holds them. -/
abbrev Seconds := ℕ

/-- What a timestamp column stores of a `Date`. -/
def toSeconds (at' : Millis) : Seconds := at' / 1000

/-- The `Date` a timestamp column is read as. -/
def toDate (at' : Seconds) : Millis := at' * 1000

@[simp] lemma toSeconds_toDate (at' : Seconds) : toSeconds (toDate at') = at' := by
  unfold toSeconds toDate
  exact Nat.mul_div_cancel at' (by omega)

end Relational
