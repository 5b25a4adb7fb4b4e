import Mathlib.Data.Nat.Notation
import Relaycast.Reactive.Run

/-!
# The background work of an actor call

Work that a call starts without awaiting it is passed to `schedule`, and the call is not to return
before all of it has settled: its writes commit with the call, and its sockets are still there.
`finish` runs the work of the call and then `settleBackground`, a loop that awaits the slice of the
list it has not awaited yet and moves on to the end of the list.

The end it moves on to is the one the list has once the slice has settled.  What was scheduled in
the meantime lies before it and is in no slice: `settled_iff_timely` says that a call leaves nothing
behind exactly if nothing is scheduled while the loop is awaiting.

A promise is one passing of a promise to `schedule`.  The events are those of one actor, whose calls
come one after the other.
-/

namespace Actor

open Reactive

/-- One passing of a promise to `schedule`. -/
abbrev Scheduled := ℕ

/-- What the actor is doing: no call, the work of a call, or the `await` of the loop, on a slice of
the list. -/
inductive Phase
  | idle
  | working
  | awaiting (slice : List Scheduled)
  deriving DecidableEq

/-- The list `background` and the phase, with what was ever scheduled, what of it has settled, and
what of it was ever awaited. -/
structure Background where
  background : List Scheduled
  phase : Phase
  scheduled : List Scheduled
  settled : List Scheduled
  awaited : List Scheduled
  deriving DecidableEq

/-- An actor that was never called. -/
def Background.start : Background := ⟨[], .idle, [], [], []⟩

inductive Event
  /-- A call (`handle`, `maintain`, `onConnect`, `onMessage`, `onDisconnect`) begins its work. -/
  | call
  /-- `schedule(p)`, by the work of the call or by a scheduled promise that is still running. -/
  | schedule (caller : Option Scheduled) (p : Scheduled)
  /-- A scheduled promise settles. -/
  | settle (p : Scheduled)
  /-- The work of the call settles. -/
  | workSettled
  /-- `Promise.allSettled` settles, and the loop goes on. -/
  | resume
  deriving DecidableEq

namespace Background

variable (s : Background)

/-- `schedule`. -/
def schedule (p : Scheduled) : Background :=
  { s with background := s.background ++ [p], scheduled := p :: s.scheduled }

/-- The head of the loop: await what comes after `settled`, or empty the list and return. -/
def loop (settled : ℕ) : Background :=
  if settled < s.background.length then
    { s with
      phase := .awaiting (s.background.drop settled)
      awaited := s.background.drop settled ++ s.awaited }
  else { s with background := [], phase := .idle }

/-- The loop from its beginning. -/
def settleBackground : Background := s.loop 0

/-- The loop after an `await`: `settled = background.length`. -/
def afterAwait : Background := s.loop s.background.length

/-- May `caller` run now? -/
def runs : Option Scheduled → Bool
  | none => s.phase == .working
  | some q => decide (q ∈ s.scheduled) && !decide (q ∈ s.settled)

/-- What an event does, if it can happen. -/
def step (s : Background) : Event → Option Background
  | .call => if s.phase = .idle then some { s with phase := .working } else none
  | .schedule caller p =>
    if s.runs caller ∧ p ∉ s.scheduled then some (s.schedule p) else none
  | .settle p =>
    if p ∈ s.scheduled ∧ p ∉ s.settled then some { s with settled := p :: s.settled } else none
  | .workSettled => if s.phase = .working then some s.settleBackground else none
  | .resume =>
    match s.phase with
    | .awaiting slice => if ∀ p ∈ slice, p ∈ s.settled then some s.afterAwait else none
    | _ => none

/-- Everything that was scheduled has settled and was awaited, and the list is empty. -/
def Settled : Prop := (∀ p ∈ s.scheduled, p ∈ s.settled ∧ p ∈ s.awaited) ∧ s.background = []

instance : Decidable s.Settled := inferInstanceAs (Decidable (_ ∧ _))

/-- Nothing is scheduled while the loop is awaiting. -/
def Timely (s : Background) : Event → Prop
  | .schedule _ _ => ∀ slice, s.phase ≠ .awaiting slice
  | _ => True

variable {s} {s' : Background} {e : Event}

/-! ## What the loop does -/

/-- From its beginning the loop awaits the whole list. -/
lemma settleBackground_eq : s.settleBackground =
    if s.background = [] then { s with phase := .idle }
    else { s with phase := .awaiting s.background, awaited := s.background ++ s.awaited } := by
  unfold settleBackground loop
  cases hlist : s.background with
  | nil => simp
  | cons p ps => simp

/-- After an `await` the loop is at the end of the list. -/
lemma afterAwait_eq : s.afterAwait = { s with background := [], phase := .idle } := by
  unfold afterAwait loop
  rw [if_neg (Nat.lt_irrefl _)]

/-- What an event can do. -/
lemma step_cases (h : step s e = some s') :
    (e = .call ∧ s.phase = .idle ∧ s' = { s with phase := .working }) ∨
    (∃ caller p, e = .schedule caller p ∧ s.runs caller = true ∧ p ∉ s.scheduled ∧
      s' = s.schedule p) ∨
    (∃ p, e = .settle p ∧ p ∈ s.scheduled ∧ s' = { s with settled := p :: s.settled }) ∨
    (e = .workSettled ∧ s.phase = .working ∧ s' = s.settleBackground) ∨
    (∃ slice, e = .resume ∧ s.phase = .awaiting slice ∧ (∀ p ∈ slice, p ∈ s.settled) ∧
      s' = s.afterAwait) := by
  cases e with
  | call =>
    obtain ⟨hphase, rfl⟩ := by simpa [step] using h
    exact .inl ⟨rfl, hphase, rfl⟩
  | schedule caller p =>
    obtain ⟨⟨hruns, hfresh⟩, rfl⟩ := by simpa [step] using h
    exact .inr (.inl ⟨caller, p, rfl, hruns, hfresh, rfl⟩)
  | settle p =>
    obtain ⟨⟨hmem, -⟩, rfl⟩ := by simpa [step] using h
    exact .inr (.inr (.inl ⟨p, rfl, hmem, rfl⟩))
  | workSettled =>
    obtain ⟨hphase, rfl⟩ := by simpa [step] using h
    exact .inr (.inr (.inr (.inl ⟨rfl, hphase, rfl⟩)))
  | resume =>
    cases hphase : s.phase with
    | awaiting slice =>
      simp only [step, hphase, Option.ite_none_right_eq_some, Option.some.injEq] at h
      obtain ⟨hsettled, rfl⟩ := h
      exact .inr (.inr (.inr (.inr ⟨slice, rfl, rfl, hsettled, rfl⟩)))
    | idle => simp [step, hphase] at h
    | working => simp [step, hphase] at h

/-! ## Calls that leave nothing behind -/

/-- Whatever is not on the list has settled and was awaited; the list is empty between calls, and
it is the slice that is being awaited. -/
structure Accounted (s : Background) : Prop where
  done : ∀ p ∈ s.scheduled, p ∉ s.background → p ∈ s.settled ∧ p ∈ s.awaited
  idle : s.phase = .idle → s.background = []
  awaiting : ∀ slice, s.phase = .awaiting slice →
    s.background = slice ∧ ∀ p ∈ slice, p ∈ s.awaited

lemma Accounted.settled (h : Accounted s) (hidle : s.phase = .idle) : s.Settled := by
  have hempty := h.idle hidle
  refine ⟨fun p hp => h.done p hp ?_, hempty⟩
  rw [hempty]
  exact List.not_mem_nil

/-- Between calls nothing runs. -/
lemma Accounted.not_runs (h : Accounted s) (hidle : s.phase = .idle) (caller : Option Scheduled) :
    s.runs caller = false := by
  cases caller with
  | none => simp [runs, hidle]
  | some q =>
    by_cases hq : q ∈ s.scheduled
    · simp [runs, ((h.settled hidle).1 q hq).1]
    · simp [runs, hq]

lemma Accounted.schedule (h : Accounted s) (hphase : s.phase = .working) (p : Scheduled) :
    Accounted (s.schedule p) where
  done q hq hlist := by
    simp only [Background.schedule, List.mem_append, List.mem_singleton, not_or] at hlist
    have hmem : q ∈ s.scheduled := (List.mem_cons.mp hq).resolve_left hlist.2
    exact h.done q hmem hlist.1
  idle hidle := absurd (hphase.symm.trans hidle) (by simp)
  awaiting slice hawaiting := absurd (hphase.symm.trans hawaiting) (by simp)

lemma Accounted.settleBackground (h : Accounted s) : Accounted s.settleBackground := by
  rw [settleBackground_eq]
  split_ifs with hempty
  · exact ⟨h.done, fun _ => hempty, fun slice hslice => by simp at hslice⟩
  · refine ⟨fun p hp hlist => ?_, fun hidle => by simp at hidle, fun slice hslice => ?_⟩
    · obtain ⟨hsettled, hawaited⟩ := h.done p hp hlist
      exact ⟨hsettled, List.mem_append_right _ hawaited⟩
    · obtain rfl : s.background = slice := by simpa using hslice
      exact ⟨rfl, fun p hp => List.mem_append_left _ hp⟩

lemma Accounted.afterAwait (h : Accounted s) {slice : List Scheduled}
    (hphase : s.phase = .awaiting slice) (hsettled : ∀ p ∈ slice, p ∈ s.settled) :
    Accounted s.afterAwait := by
  rw [afterAwait_eq]
  obtain ⟨hlist, hawaited⟩ := h.awaiting slice hphase
  refine ⟨fun p hp _ => ?_, fun _ => rfl, fun slice' hslice => by simp at hslice⟩
  by_cases hmem : p ∈ s.background
  · rw [hlist] at hmem
    exact ⟨hsettled p hmem, hawaited p hmem⟩
  · exact h.done p hp hmem

/-- A timely event keeps the account. -/
lemma Accounted.step (h : Accounted s) (htimely : s.Timely e) (hstep : step s e = some s') :
    Accounted s' := by
  rcases step_cases hstep with ⟨rfl, hphase, rfl⟩ | ⟨caller, p, rfl, hruns, -, rfl⟩ |
    ⟨p, rfl, -, rfl⟩ | ⟨rfl, -, rfl⟩ | ⟨slice, rfl, hphase, hsettled, rfl⟩
  · exact ⟨h.done, fun hidle => by simp at hidle, fun slice hslice => by simp at hslice⟩
  · cases hphase : s.phase with
    | idle => exact absurd hruns (by simp [h.not_runs hphase])
    | working => exact h.schedule hphase p
    | awaiting slice => exact absurd hphase (htimely slice)
  · refine ⟨fun q hq hlist => ?_, h.idle, h.awaiting⟩
    obtain ⟨hsettled, hawaited⟩ := h.done q hq hlist
    exact ⟨List.mem_cons_of_mem p hsettled, hawaited⟩
  · exact h.settleBackground
  · exact h.afterAwait hphase hsettled

/-! ## Promises that are missed -/

/-- A promise the loop passes over: it was scheduled, nothing awaited it, and it is not on the list,
unless the loop is awaiting. -/
structure Missed (p : Scheduled) (s : Background) : Prop where
  scheduled : p ∈ s.scheduled
  notAwaited : p ∉ s.awaited
  off : (∃ slice, s.phase = .awaiting slice) ∨ p ∉ s.background

/-- What is missed stays missed. -/
lemma Missed.step {p : Scheduled} (h : Missed p s) (hstep : step s e = some s') : Missed p s' := by
  rcases step_cases hstep with ⟨rfl, hphase, rfl⟩ | ⟨caller, q, rfl, -, hfresh, rfl⟩ |
    ⟨q, rfl, -, rfl⟩ | ⟨rfl, hphase, rfl⟩ | ⟨slice, rfl, hphase, -, rfl⟩
  · refine ⟨h.scheduled, h.notAwaited, .inr (h.off.resolve_left ?_)⟩
    rintro ⟨slice, hslice⟩
    simp [hphase] at hslice
  · refine ⟨List.mem_cons_of_mem q h.scheduled, h.notAwaited, h.off.imp id fun hoff hmem => ?_⟩
    rcases List.mem_append.mp hmem with hmem | hmem
    · exact hoff hmem
    · obtain rfl := List.mem_singleton.mp hmem
      exact hfresh h.scheduled
  · exact ⟨h.scheduled, h.notAwaited, h.off⟩
  · have hoff : p ∉ s.background := by
      refine h.off.resolve_left ?_
      rintro ⟨slice, hslice⟩
      simp [hphase] at hslice
    rw [settleBackground_eq]
    split_ifs with hempty
    · exact ⟨h.scheduled, h.notAwaited, .inr hoff⟩
    · refine ⟨h.scheduled, fun hmem => ?_, .inr hoff⟩
      exact (List.mem_append.mp hmem).elim hoff h.notAwaited
  · rw [afterAwait_eq]
    exact ⟨h.scheduled, h.notAwaited, .inr List.not_mem_nil⟩

/-- Only what was scheduled was awaited or is on the list. -/
structure Known (s : Background) : Prop where
  background : ∀ p ∈ s.background, p ∈ s.scheduled
  awaited : ∀ p ∈ s.awaited, p ∈ s.scheduled

lemma Known.step (h : Known s) (hstep : step s e = some s') : Known s' := by
  rcases step_cases hstep with ⟨rfl, -, rfl⟩ | ⟨caller, q, rfl, -, -, rfl⟩ | ⟨q, rfl, -, rfl⟩ |
    ⟨rfl, -, rfl⟩ | ⟨slice, rfl, -, -, rfl⟩
  · exact ⟨h.background, h.awaited⟩
  · refine ⟨fun p hp => ?_, fun p hp => List.mem_cons_of_mem q (h.awaited p hp)⟩
    rcases List.mem_append.mp hp with hp | hp
    · exact List.mem_cons_of_mem q (h.background p hp)
    · exact List.mem_cons.mpr (.inl (List.mem_singleton.mp hp))
  · exact ⟨h.background, h.awaited⟩
  · rw [settleBackground_eq]
    split_ifs with hempty
    · exact ⟨h.background, h.awaited⟩
    · exact ⟨h.background, fun p hp => (List.mem_append.mp hp).elim (h.background p) (h.awaited p)⟩
  · rw [afterAwait_eq]
    exact ⟨fun p hp => absurd hp List.not_mem_nil, h.awaited⟩

/-- What is scheduled while the loop is awaiting is missed. -/
lemma missed_of_not_timely (hknown : Known s) (htimely : ¬ s.Timely e)
    (hstep : step s e = some s') : ∃ p, Missed p s' := by
  rcases step_cases hstep with ⟨rfl, -, -⟩ | ⟨caller, p, rfl, -, hfresh, rfl⟩ | ⟨p, rfl, -, -⟩ |
    ⟨rfl, -, -⟩ | ⟨slice, rfl, -, -, -⟩
  · exact absurd trivial htimely
  · obtain ⟨slice, hslice⟩ : ∃ slice, s.phase = .awaiting slice := by
      simpa [Timely] using htimely
    exact ⟨p, List.mem_cons_self, fun hmem => hfresh (hknown.awaited p hmem), .inl ⟨slice, hslice⟩⟩
  all_goals exact absurd trivial htimely

lemma start_accounted : Accounted start :=
  ⟨by simp [start], fun _ => rfl, fun slice h => by simp [start] at h⟩

lemma start_known : Known start := ⟨by simp [start], by simp [start]⟩

/-- **When a call leaves nothing behind.**  In every run of the calls of an actor that ends between
two calls, everything scheduled has settled and was awaited, with the list empty, exactly if nothing
was scheduled while a loop was awaiting. -/
theorem settled_iff_timely (events : List Event) (s : Background)
    (hrun : run step start events = some s) (hidle : s.phase = .idle) :
    s.Settled ↔ Along step Timely start events := by
  constructor
  · intro hsettled
    by_contra hnot
    obtain ⟨before, e, after, s₁, s₂, -, hbefore, hlate, hstep, hafter⟩ :=
      exists_of_not_along hrun hnot
    have hknown : Known s₁ := run_induction (fun _ _ _ h hst => h.step hst) start_known hbefore
    obtain ⟨p, hmissed⟩ := missed_of_not_timely hknown hlate hstep
    have hend : Missed p s := run_induction (fun _ _ _ h hst => h.step hst) hmissed hafter
    exact hend.notAwaited (hsettled.1 p hend.scheduled).2
  · intro htimely
    exact (along_induction (fun _ _ _ h hC hst => h.step hC hst) start_accounted htimely
      hrun).settled hidle

/-- A call that schedules two promises, one from the other, before its work settles. -/
def timelyCall : List Event :=
  [.call, .schedule none 0, .schedule (some 0) 1, .workSettled, .settle 1, .settle 0, .resume]

/-- A call whose promise schedules another one while the loop is awaiting. -/
def lateCall : List Event :=
  [.call, .schedule none 0, .workSettled, .schedule (some 0) 1, .settle 0, .resume]

theorem settled_iff_timely_call : Along step Timely start timelyCall :=
  (settled_iff_timely timelyCall ⟨[], .idle, [1, 0], [0, 1], [0, 1]⟩ (by decide) rfl).mp (by decide)

theorem late_not_settled : ¬ ∀ (events : List Event) (s : Background),
    run step start events = some s → s.phase = .idle → s.Settled := by
  intro hall
  exact absurd (hall lateCall ⟨[], .idle, [1, 0], [0], [0]⟩ (by decide) rfl) (by decide)

end Background

end Actor
