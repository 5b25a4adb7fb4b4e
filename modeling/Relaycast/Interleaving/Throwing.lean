import Relaycast.Interleaving.History

/-!
# Programs that throw

A function that can throw is a program that returns an `Except`; `Throwing` is that reading with
its monad, so that a body can be written with `throw` where the source throws, and an early
failure skips the rest.  A statement that can fail replies with an `Except`, and `query` raises
what it replies.

The rules are those of programs, with the failure as a second way to leave: the sequence of two
throwing programs is safe if the second is safe after every value of the first, and the
postcondition holds of every failure of the first.
-/

namespace Interleaving

variable {L : Language} {σ ε α β : Type}

/-- A function body that can throw an `ε`. -/
abbrev Throwing (L : Language) (ε : Type) : Type → Type := ExceptT ε (Prog L)

namespace Throwing

/-- What an `Except` says, as a program. -/
def ofExcept : Except ε α → Throwing L ε α
  | .ok a => pure a
  | .error e => throw e

@[simp] lemma run_ofExcept (x : Except ε α) :
    (ofExcept x : Throwing L ε α).run = Prog.done x := by
  cases x with
  | ok a => rfl
  | error e => rfl

/-- A program that does not throw. -/
def lift (p : Prog L α) : Throwing L ε α := ExceptT.lift p

@[simp] lemma run_lift_bind (p : Prog L α) (f : α → Throwing L ε β) :
    (lift p >>= f).run = p >>= fun a => (f a).run := ExceptT.run_bind_lift p f

/-- What comes after a value, and what a failure skips. -/
lemma run_bind (x : Throwing L ε α) (f : α → Throwing L ε β) :
    (x >>= f).run = x.run >>= fun
      | .ok a => (f a).run
      | .error e => .done (.error e) := rfl

@[simp] lemma run_ofExcept_ok_bind (a : α) (f : α → Throwing L ε β) :
    (ofExcept (.ok a) >>= f).run = (f a).run := rfl

@[simp] lemma run_ofExcept_error_bind (e : ε) (f : α → Throwing L ε β) :
    (ofExcept (.error e) >>= f).run = Prog.done (.error e) := rfl

/-- Whatever the first issues, and whatever the second issues after a value. -/
lemma issues_bind {P : L.Stmt → Prop} {x : Throwing L ε α} {f : α → Throwing L ε β}
    (hx : x.run.Issues P) (hf : ∀ a, (f a).run.Issues P) : (x >>= f).run.Issues P := by
  rw [run_bind]
  refine hx.bind fun outcome => ?_
  cases outcome with
  | ok a => exact hf a
  | error e => trivial

end Throwing

namespace Shared

variable {H : Shared L σ} {M : Machine L σ} {permits : World L σ → ℕ → L.Stmt → Prop} {i : ℕ}
  {w : World L σ}

/-- The rule of sequence, with the failures of the first. -/
lemma Safe.throwing_bind {x : Throwing L ε α} {f : α → Throwing L ε β}
    {Q : Except ε α → World L σ → Prop} {Q' : Except ε β → World L σ → Prop}
    (hx : H.Safe M permits i Q x.run w)
    (hok : ∀ a w, Q (.ok a) w → H.Safe M permits i Q' (f a).run w)
    (herror : ∀ e w, Q (.error e) w → Q' (.error e) w) :
    H.Safe M permits i Q' (x >>= f).run w := by
  rw [Throwing.run_bind]
  refine Safe.then hx fun outcome w₁ h₁ => ?_
  cases outcome with
  | ok a => exact hok a w₁ h₁
  | error e => exact herror e w₁ h₁

end Shared

end Interleaving
