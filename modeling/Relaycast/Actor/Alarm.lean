import Mathlib.Data.Int.Order.Basic
import Mathlib.Data.List.Basic

/-!
# The alarm of an actor call

An actor is woken by one alarm.  During a call its work asks for maintenance, at once or at a given
time, and when the call ends it is asked for once more, at the time of the nearest outstanding work.
Of two times the alarm is to keep the earlier one.

`requestMaintenance` keeps the alarm if it is still in the future and not after the time that is
asked for.  An alarm that is not in the future counts as one that has fired.  That holds of an alarm
from before the call, but not of one set by the call itself: an alarm that is set for now, or that
the clock reaches during the call, is replaced by whatever is asked for next.  `armed_iff` says when
nothing is lost in this way: it depends on the last time that is asked for only.
-/

namespace Actor

/-! ## The code -/

def MIN_RETRY_MS : ℤ := 5000

/-- A call of `requestMaintenance`: the time it is given, the reading that stands for the time if it
is given none, and the reading the alarm is compared with. -/
structure MaintenanceRequest where
  atMs : Option ℤ
  dateNow : ℤ
  now : ℤ
  deriving DecidableEq

/-- `atMs: number = Date.now()`. -/
def MaintenanceRequest.time (r : MaintenanceRequest) : ℤ := r.atMs.getD r.dateNow

/-- `requestMaintenance`, on the alarm. -/
def requestMaintenance (alarm : Option ℤ) (r : MaintenanceRequest) : Option ℤ :=
  match alarm with
  | some current => if r.now < current ∧ current ≤ r.time then some current else some r.time
  | none => some r.time

/-- The end of `nextMaintenanceAt`: the time of the nearest due work, in seconds, is not asked for
at once. -/
def nextMaintenanceAt (due : Option ℤ) (dateNow : ℤ) : Option ℤ :=
  due.map fun due => max (due * 1000) (dateNow + MIN_RETRY_MS)

/-- An actor call: the alarm and the reading at its beginning, what is asked for by its work and its
background work, and at its end the nearest due work with the readings of the clock. -/
structure Call where
  alarm : Option ℤ
  began : ℤ
  requests : List MaintenanceRequest
  due : Option ℤ
  dateNow : ℤ
  now : ℤ
  deriving DecidableEq

namespace Call

variable (c : Call)

/-- The last request, of `finish`. -/
def closing : Option MaintenanceRequest :=
  (nextMaintenanceAt c.due c.dateNow).map fun next => ⟨some next, c.dateNow, c.now⟩

/-- The alarm when the call returns. -/
def finish : Option ℤ :=
  let alarm := c.requests.foldl requestMaintenance c.alarm
  match c.closing with
  | some r => requestMaintenance alarm r
  | none => alarm

/-! ## What is wanted of it -/

/-- Everything that is asked for. -/
def asked : List MaintenanceRequest := c.requests ++ c.closing.toList

/-- The readings of a clock do not decrease. -/
def ClockRuns : Prop :=
  (c.began :: c.asked.flatMap fun r => [r.dateNow, r.now]).Pairwise (· ≤ ·)

instance : Decidable c.ClockRuns :=
  inferInstanceAs (Decidable (List.Pairwise _ _))

/-- The times the alarm is not to be after: that of an alarm that was still in the future, and every
time that is asked for. -/
def Wanted (time : ℤ) : Prop :=
  (c.alarm = some time ∧ c.began < time) ∨ ∃ r ∈ c.asked, r.time = time

/-- The alarm is set if it was asked for, and for no later than any time that is wanted. -/
structure Armed : Prop where
  set : c.asked ≠ [] → c.finish ≠ none
  earliest : ∀ time, c.Wanted time → ∃ at', c.finish = some at' ∧ at' ≤ time

/-- No wanted time that the clock has reached when the alarm is asked for last is before the time
that is asked for then. -/
def NoneReached : Prop :=
  ∀ r ∈ c.asked.getLast?, ∀ time, c.Wanted time → time ≤ r.now → r.time ≤ time

end Call

/-! ## One request -/

variable {alarm : Option ℤ} {current bound : ℤ} {r : MaintenanceRequest}
  {rs : List MaintenanceRequest} {c : Call}

lemma requestMaintenance_ne_none (alarm : Option ℤ) (r : MaintenanceRequest) :
    requestMaintenance alarm r ≠ none := by
  unfold requestMaintenance
  split
  · split <;> simp
  · simp

/-- A request leaves the alarm, which is then in the future and not after its time, or sets it to
its time. -/
lemma requestMaintenance_cases {at' : ℤ} (h : requestMaintenance alarm r = some at') :
    at' = r.time ∨ alarm = some at' ∧ r.now < at' ∧ at' ≤ r.time := by
  unfold requestMaintenance at h
  split at h
  · split at h
    · rename_i hkeep
      obtain rfl := Option.some.inj h
      exact .inr ⟨rfl, hkeep⟩
    · exact .inl (Option.some.inj h).symm
  · exact .inl (Option.some.inj h).symm

/-- An alarm in the future is kept, or set to something earlier. -/
lemma requestMaintenance_of_future (h : r.now < current) :
    requestMaintenance (some current) r = some (min current r.time) := by
  change (if r.now < current ∧ current ≤ r.time then some current else some r.time) = _
  split_ifs with hkeep
  · rw [min_eq_left hkeep.2]
  · rw [min_eq_right (by omega)]

/-- An alarm that is not in the future is replaced. -/
lemma requestMaintenance_of_past (h : ∀ current, alarm = some current → current ≤ r.now) :
    requestMaintenance alarm r = some r.time := by
  cases alarm with
  | none => rfl
  | some current =>
    have hpast := h current rfl
    exact if_neg (by omega)

/-! ## All requests -/

/-- As long as nothing that is asked for has been reached, the alarm is the earliest of it. -/
lemma foldl_of_future (halarm : bound < current)
    (h : ∀ r ∈ rs, r.now ≤ bound ∧ bound < r.time) :
    ∃ at', rs.foldl requestMaintenance (some current) = some at' ∧ at' ≤ current ∧
      ∀ r ∈ rs, at' ≤ r.time := by
  induction rs generalizing current with
  | nil => exact ⟨current, rfl, le_refl _, by simp⟩
  | cons r rs ih =>
    obtain ⟨hr, hrs⟩ := List.forall_mem_cons.mp h
    rw [List.foldl_cons, requestMaintenance_of_future (by omega)]
    obtain ⟨at', heq, hle, hall⟩ := ih (lt_min halarm hr.2) hrs
    refine ⟨at', heq, le_trans hle (min_le_left _ _), List.forall_mem_cons.mpr ⟨?_, hall⟩⟩
    exact le_trans hle (min_le_right _ _)

/-- The alarm of a call is that after everything that is asked for. -/
lemma Call.finish_eq (c : Call) : c.finish = c.asked.foldl requestMaintenance c.alarm := by
  unfold Call.finish Call.asked
  cases c.closing <;> simp

/-- The readings of a call lie between its beginning and those of the last request. -/
lemma Call.ClockRuns.bounds (h : c.ClockRuns) (hr : r ∈ c.asked.getLast?) :
    ∀ r' ∈ c.asked, c.began ≤ r'.now ∧ r'.now ≤ r.now := by
  obtain ⟨init, hasked⟩ : ∃ init, c.asked = init ++ [r] := by
    have hne : c.asked ≠ [] := List.ne_nil_of_mem (List.mem_of_getLast? hr)
    refine ⟨c.asked.dropLast, ?_⟩
    conv_lhs => rw [← List.dropLast_append_getLast hne]
    rw [List.getLast?_eq_getLast_of_ne_nil hne] at hr
    rw [Option.some.inj hr]
  unfold Call.ClockRuns at h
  rw [List.pairwise_cons] at h
  obtain ⟨hbegan, hrest⟩ := h
  intro r' hr'
  refine ⟨hbegan _ (List.mem_flatMap.mpr ⟨r', hr', by simp⟩), ?_⟩
  rw [hasked] at hr'
  rcases List.mem_append.mp hr' with hin | hin
  · rw [hasked, List.flatMap_append, List.pairwise_append] at hrest
    exact hrest.2.2 _ (List.mem_flatMap.mpr ⟨r', hin, by simp⟩) _ (by simp)
  · rw [List.mem_singleton.mp hin]

/-- A call that asks for the alarm sets it. -/
lemma Call.finish_ne_none (h : c.asked ≠ []) : c.finish ≠ none := by
  rw [Call.finish_eq, ← List.dropLast_append_getLast h, List.foldl_append]
  exact requestMaintenance_ne_none _ _

lemma Call.foldl_asked (h : r ∈ c.asked.getLast?) :
    c.finish = requestMaintenance (c.asked.dropLast.foldl requestMaintenance c.alarm) r := by
  have hne : c.asked ≠ [] := List.ne_nil_of_mem (List.mem_of_getLast? h)
  rw [List.getLast?_eq_getLast_of_ne_nil hne] at h
  rw [Call.finish_eq, ← List.dropLast_append_getLast hne, List.foldl_append, List.foldl_cons,
    List.foldl_nil, Option.some.inj h]
  simp

/-- The alarm is never after the time that is asked for last. -/
lemma Call.finish_le_last (h : r ∈ c.asked.getLast?) :
    ∃ at', c.finish = some at' ∧ at' ≤ r.time := by
  obtain ⟨at', hfinish⟩ := Option.ne_none_iff_exists'.mp
    (requestMaintenance_ne_none (c.asked.dropLast.foldl requestMaintenance c.alarm) r)
  refine ⟨at', (Call.foldl_asked h).trans hfinish, ?_⟩
  rcases requestMaintenance_cases hfinish with rfl | ⟨-, -, hle⟩
  · exact le_refl _
  · exact hle

/-- When nothing that is wanted has been reached, the alarm is the earliest of it. -/
lemma Call.earliest_of_future (hclock : ∀ r ∈ c.asked, c.began ≤ r.now ∧ r.now ≤ bound)
    (hfuture : ∀ time, c.Wanted time → bound < time) {time : ℤ} (hwanted : c.Wanted time) :
    ∃ at', c.finish = some at' ∧ at' ≤ time := by
  have hasked : ∀ r ∈ c.asked, r.now ≤ bound ∧ bound < r.time := fun r hr =>
    ⟨(hclock r hr).2, hfuture _ (.inr ⟨r, hr, rfl⟩)⟩
  rw [Call.finish_eq]
  by_cases hpending : ∃ current, c.alarm = some current ∧ c.began < current
  · obtain ⟨current, halarm, hbegan⟩ := hpending
    obtain ⟨at', heq, hle, hall⟩ :=
      foldl_of_future (hfuture current (.inl ⟨halarm, hbegan⟩)) hasked
    rw [halarm]
    refine ⟨at', heq, ?_⟩
    rcases hwanted with ⟨hsame, -⟩ | ⟨r, hr, rfl⟩
    · rw [← Option.some.inj (halarm.symm.trans hsame)]
      exact hle
    · exact hall r hr
  · have hnotPending : ∀ current, c.alarm = some current → current ≤ c.began := fun current halarm =>
      not_lt.mp fun hlt => hpending ⟨current, halarm, hlt⟩
    cases hlist : c.asked with
    | nil =>
      rcases hwanted with h | ⟨r, hr, -⟩
      · exact absurd ⟨time, h⟩ hpending
      · rw [hlist] at hr
        exact absurd hr List.not_mem_nil
    | cons first rest =>
      rw [hlist] at hasked hclock
      obtain ⟨hfirst, hrest⟩ := List.forall_mem_cons.mp hasked
      have hbegan := (hclock first List.mem_cons_self).1
      rw [List.foldl_cons, requestMaintenance_of_past fun current halarm =>
        le_trans (hnotPending current halarm) hbegan]
      obtain ⟨at', heq, hle, hall⟩ := foldl_of_future hfirst.2 hrest
      refine ⟨at', heq, ?_⟩
      rcases hwanted with h | ⟨r, hr, rfl⟩
      · exact absurd ⟨time, h⟩ hpending
      · rw [hlist] at hr
        rcases List.mem_cons.mp hr with rfl | hr
        · exact hle
        · exact hall r hr

/-- The alarm that a call leaves is set if it was asked for, and no later than any time that is
wanted, exactly if no such time that was reached when the alarm was asked for last is before the
time that was asked for then. -/
theorem armed_iff (c : Call) (hclock : c.ClockRuns) : c.Armed ↔ c.NoneReached := by
  constructor
  · rintro ⟨-, hearliest⟩ r hr time hwanted hreached
    obtain ⟨at', hfinish, hle⟩ := hearliest time hwanted
    rw [Call.foldl_asked hr] at hfinish
    rcases requestMaintenance_cases hfinish with rfl | ⟨-, hfuture, -⟩
    · exact hle
    · omega
  · intro hnone
    refine ⟨Call.finish_ne_none, fun time hwanted => ?_⟩
    cases hlast : c.asked.getLast? with
    | none =>
      -- nothing is asked for, and the alarm is left as it is
      rw [List.getLast?_eq_none_iff] at hlast
      rw [Call.finish_eq, hlast, List.foldl_nil]
      rcases hwanted with ⟨halarm, -⟩ | ⟨r, hr, -⟩
      · exact ⟨time, halarm, le_refl _⟩
      · rw [hlast] at hr
        exact absurd hr List.not_mem_nil
    | some r =>
      have hreached := hnone r hlast
      by_cases hfirst : r.time ≤ time
      · obtain ⟨at', hfinish, hle⟩ := Call.finish_le_last hlast
        exact ⟨at', hfinish, le_trans hle hfirst⟩
      · -- a time before the one asked for last is in the future then, and so is every other
        refine Call.earliest_of_future (hclock.bounds hlast) (fun time' hwanted' => ?_) hwanted
        by_contra hpast
        have hlater := hreached time' hwanted' (by omega)
        have hthis : ¬ time ≤ r.now := fun hle => hfirst (hreached time hwanted hle)
        omega

/-- A message is queued and an alarm in an hour is there already: what is asked for last is not
reached. -/
theorem armed_iff_queued :
    (⟨some 3600000, 0, [⟨some 1800000, 10, 10⟩], some 60, 20, 20⟩ : Call).Armed ↔
      (⟨some 3600000, 0, [⟨some 1800000, 10, 10⟩], some 60, 20, 20⟩ : Call).NoneReached :=
  armed_iff _ (by decide)

/-- Maintenance is asked for at once, and at the end of the call for an hour later: nothing happens
before. -/
theorem not_armed_immediate :
    (⟨none, 1000, [⟨none, 1000, 1000⟩], some 3600, 1000, 1000⟩ : Call).finish = some 3600000 ∧
      ¬ (⟨none, 1000, [⟨none, 1000, 1000⟩], some 3600, 1000, 1000⟩ : Call).Armed := by
  refine ⟨by decide, fun harmed => ?_⟩
  obtain ⟨at', hfinish, hle⟩ := harmed.earliest 1000 (.inr ⟨⟨none, 1000, 1000⟩, by decide, rfl⟩)
  have hhour : (3600000 : ℤ) = at' := Option.some.inj hfinish
  omega

end Actor
