import Mathlib.Data.Nat.Notation

/-!
# Programs of atomic statements

An asynchronous function is, to everyone who shares a store with it, a sequence of atomic
statements with private computation in between: each `await` hands one statement to the store,
and the rest of the function runs on the reply.  `Prog` is that reading as a tree.  A node issues
one statement and continues on every possible reply; a leaf is the value the function returns.

The statements are data.  A `Language` lists them together with the type of their replies and
with what the outside world contributes to each (`Answer`: nothing for a database statement, the
outcome of a network send, the reading of a clock).  A `Machine` says what a statement does to a
store, as a function of that answer, so every definition here can be executed once the answers
are given.

`Prog` is a monad, so a function body is written in `do` notation in the order of its `await`s.
`Prog.all` is the parallel group (`Promise.all`): its branches advance in the order of a schedule
that the outside world picks.
-/

namespace Interleaving

/-- The statements an area of the code can issue, what the outside world contributes to each, and
what each replies. -/
structure Language where
  Stmt : Type
  Answer : Stmt → Type
  Reply : Stmt → Type

/-- A function body: either it has returned, or it issues a statement and continues on the
reply. -/
inductive Prog (L : Language) (α : Type) : Type
  | done (result : α)
  | stmt (q : L.Stmt) (next : L.Reply q → Prog L α)

namespace Prog

variable {L : Language} {α β : Type}

/-- Run `p`, then `f` on what it returns. -/
def bind : Prog L α → (α → Prog L β) → Prog L β
  | .done a, f => f a
  | .stmt q k, f => .stmt q fun r => (k r).bind f

instance : Monad (Prog L) where
  pure := .done
  bind := bind

@[simp] lemma pure_eq_done (a : α) : (pure a : Prog L α) = .done a := rfl

@[simp] lemma done_bind (a : α) (f : α → Prog L β) : (Prog.done a >>= f) = f a := rfl

@[simp] lemma stmt_bind (q : L.Stmt) (k : L.Reply q → Prog L α) (f : α → Prog L β) :
    (Prog.stmt q k >>= f) = .stmt q fun r => k r >>= f := rfl

@[simp] lemma bind_done (p : Prog L α) : (p >>= Prog.done) = p := by
  induction p with
  | done a => rfl
  | stmt q k ih => simp only [stmt_bind, ih]

lemma bind_assoc {γ : Type} (p : Prog L α) (f : α → Prog L β) (g : β → Prog L γ) :
    ((p >>= f) >>= g) = p >>= fun a => f a >>= g := by
  induction p with
  | done a => rfl
  | stmt q k ih => simp only [stmt_bind, ih]

instance : LawfulMonad (Prog L) :=
  LawfulMonad.mk' (Prog L) bind_done (fun _ _ => rfl) bind_assoc

/-- Issue one statement and return its reply. -/
def ask (q : L.Stmt) : Prog L (L.Reply q) := .stmt q .done

@[simp] lemma ask_bind (q : L.Stmt) (f : L.Reply q → Prog L α) : (ask q >>= f) = .stmt q f := rfl

/-- Has the function returned? -/
def isDone : Prog L α → Bool
  | .done _ => true
  | .stmt _ _ => false

/-! ## Which statements a program can issue -/

/-- Every statement `p` can issue, on any replies, satisfies `P`. -/
def Issues (P : L.Stmt → Prop) : Prog L α → Prop
  | .done _ => True
  | .stmt q k => P q ∧ ∀ r, (k r).Issues P

@[simp] lemma issues_done (P : L.Stmt → Prop) (a : α) : (Prog.done a : Prog L α).Issues P :=
  trivial

@[simp] lemma issues_stmt (P : L.Stmt → Prop) (q : L.Stmt) (k : L.Reply q → Prog L α) :
    (Prog.stmt q k).Issues P ↔ P q ∧ ∀ r, (k r).Issues P := Iff.rfl

lemma Issues.mono {P P' : L.Stmt → Prop} {p : Prog L α} (hp : p.Issues P)
    (h : ∀ q, P q → P' q) : p.Issues P' := by
  induction p with
  | done a => trivial
  | stmt q k ih => exact ⟨h q hp.1, fun r => ih r (hp.2 r)⟩

/-- Where nothing is asked of a statement, every program will do. -/
lemma issues_true (p : Prog L α) : p.Issues fun _ => True := by
  induction p with
  | done a => trivial
  | stmt q k ih => exact ⟨trivial, ih⟩

lemma issues_ask_bind {P : L.Stmt → Prop} {q : L.Stmt} {f : L.Reply q → Prog L α} (hq : P q)
    (hf : ∀ r, (f r).Issues P) : (ask q >>= f).Issues P := ⟨hq, hf⟩

lemma issues_ask {P : L.Stmt → Prop} {q : L.Stmt} (hq : P q) : (ask q).Issues P :=
  ⟨hq, fun _ => trivial⟩

lemma Issues.bind {P : L.Stmt → Prop} {p : Prog L α} {f : α → Prog L β}
    (hp : p.Issues P) (hf : ∀ a, (f a).Issues P) : (p >>= f).Issues P := by
  induction p with
  | done a => exact hf a
  | stmt q k ih => exact ⟨hp.1, fun r => ih r (hp.2 r)⟩

/-- The rule of a branch. -/
lemma issues_ite {P : L.Stmt → Prop} {c : Prop} [Decidable c] {p p' : Prog L α}
    (hp : c → p.Issues P) (hp' : ¬ c → p'.Issues P) : (if c then p else p').Issues P := by
  by_cases hc : c
  · rw [if_pos hc]
    exact hp hc
  · rw [if_neg hc]
    exact hp' hc

/-! ## Programs in a larger language -/

/-- The program with its statements read as those of a language that has more of them. -/
def embed {K : Language} (ι : L.Stmt → K.Stmt) (reply : ∀ q, K.Reply (ι q) → L.Reply q) :
    Prog L α → Prog K α
  | .done a => .done a
  | .stmt q k => .stmt (ι q) fun r => (k (reply q r)).embed ι reply

section Embed

variable {K : Language} {ι : L.Stmt → K.Stmt} {reply : ∀ q, K.Reply (ι q) → L.Reply q}

@[simp] lemma embed_done (a : α) : (Prog.done a : Prog L α).embed ι reply = .done a := rfl

lemma embed_ask_bind (q : L.Stmt) (f : L.Reply q → Prog L α) :
    (ask q >>= f).embed ι reply = ask (ι q) >>= fun r => (f (reply q r)).embed ι reply := rfl

lemma embed_bind (p : Prog L α) (f : α → Prog L β) :
    (p >>= f).embed ι reply = p.embed ι reply >>= fun a => (f a).embed ι reply := by
  induction p with
  | done a => rfl
  | stmt q k ih => simp only [stmt_bind, embed, ih]

end Embed

/-! ## Parallel groups -/

/-- The branches one after the other. -/
def inTurn : List (Prog L Unit) → Prog L Unit
  | [] => .done ()
  | p :: ps => p >>= fun _ => inTurn ps

/-- `Promise.all`: each entry of the schedule lets the branch it names issue its next statement
(nothing happens if that branch has returned); whatever the schedule leaves over finishes in
turn.  Every interleaving of the branches is the one of some schedule. -/
def all : List ℕ → List (Prog L Unit) → Prog L Unit
  | [], ps => inTurn ps
  | i :: sched, ps =>
    match ps[i]? with
    | some (.stmt q k) => .stmt q fun r => all sched (ps.set i (k r))
    | _ => all sched ps

end Prog

/-- What the statements of a language do to a store.  `run q a s` is the reply of `q` and the
store it leaves, when the outside world contributes `a`; `drift` is what happens to the store
between statements, on nobody's behalf (a clock that advances, writers outside the area). -/
structure Machine (L : Language) (σ : Type) where
  run : (q : L.Stmt) → L.Answer q → σ → L.Reply q × σ
  Drift : Type
  drift : Drift → σ → σ

end Interleaving
