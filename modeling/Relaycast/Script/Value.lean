import Mathlib.Data.Int.Notation
import Mathlib.Data.Nat.Notation

/-!
# Script values

The values a dynamically typed program passes around: a missing field reads as `undefined`, a test
for truth accepts any value, and an object is built by writing fields one after the other, where a
later field of the same name replaces an earlier one.
-/

namespace Script

/-- A value of the language. -/
inductive Value
  | undefined
  | null
  | bool (b : Bool)
  | num (n : ℤ)
  | str (s : String)
  | arr (items : List Value)
  | obj (fields : List (String × Value))

/-- The fields of an object, in the order they were written. -/
abbrev Record := List (String × Value)

/-- The field `k`, if it was written: the last one of that name counts. -/
def Record.field? : Record → String → Option Value
  | [], _ => none
  | (name, v) :: r, k => (Record.field? r k).or (if name = k then some v else none)

/-- `r[k]`. -/
def Record.field (r : Record) (k : String) : Value := (Record.field? r k).getD .undefined

/-- `c ? r : {}`, as a spread. -/
def Record.given (c : Bool) (r : Record) : Record := if c then r else []

namespace Value

/-- `typeof v === 'string' ? v : null`. -/
def string? : Value → Option String
  | str s => some s
  | _ => none

/-- Does the value count as true? -/
def truthy : Value → Bool
  | undefined | null => false
  | bool b => b
  | num n => n != 0
  | str s => s != ""
  | arr _ | obj _ => true

/-- `v ?? w`. -/
def orElse : Value → Value → Value
  | undefined, w | null, w => w
  | v, _ => v

/-- The fields of an object; anything else has none. -/
def asRecord : Value → Record
  | obj fields => fields
  | _ => []

/-- Is the value an object, and not an array? -/
def isRecord : Value → Bool
  | obj _ => true
  | _ => false

/-- The number of items of an array. -/
def length : Value → ℕ
  | arr items => items.length
  | _ => 0

end Value

namespace Record

@[simp] lemma field?_nil (k : String) : Record.field? [] k = none := rfl

@[simp] lemma field?_cons (name : String) (v : Value) (r : Record) (k : String) :
    Record.field? ((name, v) :: r) k =
      (Record.field? r k).or (if name = k then some v else none) := rfl

/-- Spreading `r'` after `r`: the fields of `r'` hide those of `r`. -/
@[simp] lemma field?_append (r r' : Record) (k : String) :
    Record.field? (r ++ r') k = (Record.field? r' k).or (Record.field? r k) := by
  induction r with
  | nil => simp
  | cons f r ih =>
    obtain ⟨name, v⟩ := f
    rw [List.cons_append, field?_cons, ih, field?_cons, Option.or_assoc]

@[simp] lemma field?_given (c : Bool) (r : Record) (k : String) :
    Record.field? (Record.given c r) k = if c then Record.field? r k else none := by
  cases c <;> rfl

end Record

end Script
