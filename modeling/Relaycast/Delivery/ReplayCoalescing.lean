import Relaycast.Delivery.ReplayObjects

/-!
# Calls that share a pass

What the flights keep about promises.  A promise is in a map, with a pass, or settled by the pass
that was started for it; a call finds the job of its scope as long as that job has not started; and
the history shows no two passes of one key at a time.
-/

namespace Delivery

open Interleaving

variable {Registry Deps Error : Type}

section
variable [DecidableEq Registry]

/-- Is a pass of the key running, by the latest start or end of one? -/
def passRunning (key : ReplayKey Registry) : List (ReplayEvent Registry Error) → Bool
  | [] => false
  | .called .. :: h => passRunning key h
  | .began key' _ _ :: h => if key' = key then true else passRunning key h
  | .ended key' _ _ :: h => if key' = key then false else passRunning key h

/-- A pass starts only when none of its key is running. -/
def OnePassAtATime (h : List (ReplayEvent Registry Error)) : Prop :=
  ∀ newer key scopeKey p older, h = newer ++ .began key scopeKey p :: older →
    passRunning key older = false

end

namespace ReplayFlights

/-- Every call that returned `p` came before a pass for `p`, which ended with `outcome`. -/
def SettledByPass (h : List (ReplayEvent Registry Error)) (p : ℕ) (outcome : Except Error ℕ) :
    Prop :=
  ∀ key scopeKey, Since (.called key scopeKey p) (fun newer =>
    [.ended key p outcome, .began key scopeKey p].Sublist newer) h

/-! ## The invariant -/

section
variable (s : ReplayFlights Registry Deps Error)

/-- The promise of a job that has not started. -/
structure Waiting (key : ReplayKey Registry) (scopeKey : ScopeKey) (p : ℕ) : Prop where
  unsettled : s.promises[p]? = some none
  called : .called key scopeKey p ∈ s.history
  only : ∀ key' scopeKey', .called key' scopeKey' p ∈ s.history →
    key' = key ∧ scopeKey' = scopeKey
  fresh : ∀ key' scopeKey', .began key' scopeKey' p ∉ s.history

/-- The promise of a job whose pass is running. -/
structure Running (key : ReplayKey Registry) (scopeKey : ScopeKey) (p : ℕ) : Prop where
  unsettled : s.promises[p]? = some none
  called : .called key scopeKey p ∈ s.history
  began : ∀ key' scopeKey', Since (.called key' scopeKey' p) (fun newer =>
    key' = key ∧ scopeKey' = scopeKey ∧ .began key scopeKey p ∈ newer) s.history

/-- Every promise is where its job is: in a map, with a pass, or settled by one. -/
structure Tracks [DecidableEq Registry] (turning : Option ℕ) : Prop where
  waits : ∀ key scopeKey job, s.Filed key scopeKey job → s.Waiting key scopeKey job.promise
  runs : ∀ key scopeKey job, s.Passing turning key scopeKey job →
    s.Running key scopeKey job.promise
  settled : ∀ p outcome, s.promises[p]? = some (some outcome) → SettledByPass s.history p outcome
  awaited : ∀ p, s.promises[p]? = some none → ∃ key scopeKey job, job.promise = p ∧
    (s.Filed key scopeKey job ∨ s.Passing turning key scopeKey job)
  made : ∀ key scopeKey p, .called key scopeKey p ∈ s.history → p < s.promises.length
  began : ∀ key scopeKey p, .began key scopeKey p ∈ s.history → p < s.promises.length
  joins : ∀ key scopeKey p, Since (.called key scopeKey p) (fun newer =>
    (∀ q, .began key scopeKey q ∉ newer) →
      ∃ job, s.Filed key scopeKey job ∧ job.promise = p) s.history
  running : ∀ key, passRunning key s.history = true ↔
    ∃ scopeKey job, s.Passing turning key scopeKey job

end

/-! ## The promises stay tracked -/

section
variable {s : ReplayFlights Registry Deps Error} {turning : Option ℕ} {f : ℕ}
  {flight : ReplayFlight Registry Deps} {key : ReplayKey Registry} {scopeKey : ScopeKey}
  {job : ReplayJob Deps}

/-- A job that has not started is not passing. -/
lemma Waiting.not_running {key' : ReplayKey Registry} {scopeKey' : ScopeKey} {p : ℕ}
    (hwait : s.Waiting key scopeKey p) : ¬ s.Running key' scopeKey' p := by
  intro hrun
  obtain ⟨newer, older, hh, -, -, hbegan⟩ :=
    (hrun.began key scopeKey).exists_of_mem hwait.called
  exact hwait.fresh key' scopeKey' (hh ▸ List.mem_append_left _ hbegan)

variable [DecidableEq Registry]

/-- A call that returns the promise of a job which has not started, filing the job if it is not
filed yet. -/
lemma Tracks.call (ht : s.Tracks none) {s' : ReplayFlights Registry Deps Error}
    (hhistory : s'.history = .called key scopeKey job.promise :: s.history)
    (hlength : s.promises.length ≤ s'.promises.length)
    (hold : ∀ q, q ≠ job.promise → s'.promises[q]? = s.promises[q]?)
    (hnew : s'.promises[job.promise]? = some none)
    (hfiled : ∀ key' scopeKey' job', s'.Filed key' scopeKey' job' ↔
      s.Filed key' scopeKey' job' ∨ key' = key ∧ scopeKey' = scopeKey ∧ job' = job)
    (hpassing : ∀ key' scopeKey' job', s'.Passing none key' scopeKey' job' ↔
      s.Passing none key' scopeKey' job')
    (hp : s.Waiting key scopeKey job.promise ∨ job.promise = s.promises.length) :
    s'.Tracks none := by
  have hpast : ∀ {key' scopeKey'}, .called key' scopeKey' job.promise ∈ s.history →
      key' = key ∧ scopeKey' = scopeKey := by
    intro key' scopeKey' hmem
    rcases hp with hwait | hp
    · exact hwait.only key' scopeKey' hmem
    · exact absurd (ht.made _ _ _ hmem) (by omega)
  have hwaits : ∀ {key' scopeKey' p}, s.Waiting key' scopeKey' p → p ≠ job.promise →
      s'.Waiting key' scopeKey' p := by
    intro key' scopeKey' p hwait hne
    refine
      { unsettled := (hold p hne).trans hwait.unsettled
        called := hhistory ▸ List.mem_cons_of_mem _ hwait.called
        only := fun key'' scopeKey'' hmem => ?_
        fresh := fun key'' scopeKey'' hmem => ?_ }
    · rw [hhistory, List.mem_cons] at hmem
      rcases hmem with hhead | hmem
      · exact absurd (ReplayEvent.called.inj hhead).2.2 hne
      · exact hwait.only key'' scopeKey'' hmem
    · rw [hhistory, List.mem_cons] at hmem
      rcases hmem with hhead | hmem
      · cases hhead
      · exact hwait.fresh key'' scopeKey'' hmem
  have hself : s'.Waiting key scopeKey job.promise := by
    refine
      { unsettled := hnew
        called := hhistory ▸ List.mem_cons_self
        only := fun key' scopeKey' hmem => ?_
        fresh := fun key' scopeKey' hmem => ?_ }
    · rw [hhistory, List.mem_cons] at hmem
      rcases hmem with hhead | hmem
      · obtain ⟨rfl, rfl, -⟩ := ReplayEvent.called.inj hhead
        exact ⟨rfl, rfl⟩
      · exact hpast hmem
    · rw [hhistory, List.mem_cons] at hmem
      rcases hmem with hhead | hmem
      · cases hhead
      · rcases hp with hwait | hp
        · exact hwait.fresh key' scopeKey' hmem
        · exact absurd (ht.began _ _ _ hmem) (by omega)
  refine
    { waits := fun key' scopeKey' job' hmem => ?_
      runs := fun key' scopeKey' job' hpass => ?_
      settled := fun p outcome hout => ?_
      awaited := fun p hout => ?_
      made := fun key' scopeKey' p hmem => ?_
      began := fun key' scopeKey' p hmem => ?_
      joins := fun key' scopeKey' p => ?_
      running := fun key' => ?_ }
  · rcases (hfiled key' scopeKey' job').mp hmem with hmem | ⟨rfl, rfl, rfl⟩
    · by_cases hne : job'.promise = job.promise
      · obtain ⟨rfl, rfl⟩ := hpast (hne ▸ (ht.waits _ _ _ hmem).called)
        exact hne ▸ hself
      · exact hwaits (ht.waits _ _ _ hmem) hne
    · exact hself
  · have hrun := ht.runs _ _ _ ((hpassing key' scopeKey' job').mp hpass)
    have hne : job'.promise ≠ job.promise := by
      intro hne
      rcases hp with hwait | hp
      · exact hwait.not_running (hne ▸ hrun)
      · exact absurd (ht.made _ _ _ hrun.called) (by omega)
    refine ⟨(hold _ hne).trans hrun.unsettled, hhistory ▸ List.mem_cons_of_mem _ hrun.called, ?_⟩
    intro key'' scopeKey''
    rw [hhistory, since_cons]
    refine ⟨fun hhead => absurd (ReplayEvent.called.inj hhead).2.2.symm hne, ?_⟩
    exact (hrun.began key'' scopeKey'').mono fun newer ⟨hk, hsk, hmem⟩ =>
      ⟨hk, hsk, List.mem_cons_of_mem _ hmem⟩
  · have hne : p ≠ job.promise := by
      rintro rfl
      simp [hnew] at hout
    rw [hold p hne] at hout
    intro key' scopeKey'
    rw [hhistory, since_cons]
    refine ⟨fun hhead => absurd (ReplayEvent.called.inj hhead).2.2.symm hne, ?_⟩
    exact (ht.settled p outcome hout key' scopeKey').mono fun newer hsub => hsub.cons _
  · by_cases hne : p = job.promise
    · exact ⟨key, scopeKey, job, hne.symm, .inl ((hfiled _ _ _).mpr (.inr ⟨rfl, rfl, rfl⟩))⟩
    · rw [hold p hne] at hout
      obtain ⟨key', scopeKey', job', hjob', hmem⟩ := ht.awaited p hout
      refine ⟨key', scopeKey', job', hjob', hmem.imp ?_ ?_⟩
      · exact fun hmem => (hfiled _ _ _).mpr (.inl hmem)
      · exact (hpassing _ _ _).mpr
  · rw [hhistory, List.mem_cons] at hmem
    rcases hmem with hhead | hmem
    · obtain ⟨-, -, rfl⟩ := ReplayEvent.called.inj hhead
      exact (List.getElem?_eq_some_iff.mp hnew).1
    · exact lt_of_lt_of_le (ht.made _ _ _ hmem) hlength
  · rw [hhistory, List.mem_cons] at hmem
    rcases hmem with hhead | hmem
    · cases hhead
    · exact lt_of_lt_of_le (ht.began _ _ _ hmem) hlength
  · rw [hhistory, since_cons]
    refine ⟨fun hhead _ => ?_, (ht.joins key' scopeKey' p).mono fun newer hnewer hnone => ?_⟩
    · obtain ⟨rfl, rfl, rfl⟩ := ReplayEvent.called.inj hhead
      exact ⟨job, (hfiled _ _ _).mpr (.inr ⟨rfl, rfl, rfl⟩), rfl⟩
    · obtain ⟨job', hmem, hjob'⟩ := hnewer fun q hq => hnone q (List.mem_cons_of_mem _ hq)
      exact ⟨job', (hfiled _ _ _).mpr (.inl hmem), hjob'⟩
  · simp only [hhistory, passRunning, ht.running, hpassing]

/-- The start of a pass. -/
lemma Tracks.begin {pending : List (ScopeKey × ReplayJob Deps)} (ht : s.Tracks (some f))
    (hw : s.WellFormed (some f)) (hf : s.At f flight)
    (hp : flight.pending = (scopeKey, job) :: pending) :
    (s.begin f flight scopeKey job pending).Tracks none := by
  have hfiled : s.Filed flight.key scopeKey job :=
    ⟨f, flight, hf, rfl, hp ▸ List.mem_cons_self⟩
  have hwait := ht.waits _ _ _ hfiled
  refine
    { waits := fun key' scopeKey' job' hmem => ?_
      runs := fun key' scopeKey' job' hpass => ?_
      settled := fun p outcome hout => ?_
      awaited := fun p hout => ?_
      made := fun key' scopeKey' p hmem => ?_
      began := fun key' scopeKey' p hmem => ?_
      joins := fun key' scopeKey' p => ?_
      running := fun key' => ?_ }
  · obtain ⟨f', flight', hf', rfl, hmem', hself⟩ := Filed.of_begin hf hp hmem
    have hwait' := ht.waits _ _ _ ⟨f', flight', hf', rfl, hmem'⟩
    -- the same promise would be filed twice under one key of one map
    have hne : job'.promise ≠ job.promise := by
      intro hne
      obtain ⟨hkey, rfl⟩ := hwait.only _ _ (hne ▸ hwait'.called)
      have hff : f' = f := hw.unique hf' hf hkey
        (fun hrun => by simp [hw.ended f' flight' hf' hrun] at hmem')
        (fun hrun => by simp [hw.ended f flight hf hrun] at hp)
      have hnodup := hw.distinct f flight hf
      rw [hp, List.map_cons, List.nodup_cons] at hnodup
      exact hnodup.1 (List.mem_map.mpr ⟨_, hself hff, rfl⟩)
    refine
      { unsettled := hwait'.unsettled
        called := List.mem_cons_of_mem _ hwait'.called
        only := fun key'' scopeKey'' hcalled => ?_
        fresh := fun key'' scopeKey'' hbegan => ?_ }
    · rcases List.mem_cons.mp hcalled with hhead | hcalled
      · cases hhead
      · exact hwait'.only _ _ hcalled
    · rcases List.mem_cons.mp hbegan with hhead | hbegan
      · exact hne (ReplayEvent.began.inj hhead).2.2
      · exact hwait'.fresh _ _ hbegan
  · rcases (passing_begin hf).mp hpass with hpass | ⟨rfl, rfl, rfl⟩
    · have hrun := ht.runs _ _ _ hpass
      refine ⟨hrun.unsettled, List.mem_cons_of_mem _ hrun.called, fun key'' scopeKey'' => ?_⟩
      refine since_cons.mpr ⟨by simp, (hrun.began _ _).mono fun newer ⟨hk, hsk, hmem⟩ => ?_⟩
      exact ⟨hk, hsk, List.mem_cons_of_mem _ hmem⟩
    · refine ⟨hwait.unsettled, List.mem_cons_of_mem _ hwait.called, fun key'' scopeKey'' => ?_⟩
      refine since_cons.mpr ⟨by simp, fun newer older hh => ?_⟩
      obtain ⟨hk, hsk⟩ := hwait.only key'' scopeKey'' (by simp [hh])
      exact ⟨hk, hsk, List.mem_cons_self⟩
  · exact fun key' scopeKey' => since_cons.mpr ⟨by simp,
      (ht.settled p outcome hout key' scopeKey').mono fun newer hsub => hsub.cons _⟩
  · obtain ⟨key', scopeKey', job', hjob', hmem | hpass⟩ := ht.awaited p hout
    · refine ⟨key', scopeKey', job', hjob', ?_⟩
      exact (hmem.begin hf hp).imp_right fun h => (passing_begin hf).mpr (.inr h)
    · exact ⟨key', scopeKey', job', hjob', .inr ((passing_begin hf).mpr (.inl hpass))⟩
  · rcases List.mem_cons.mp hmem with hhead | hmem
    · cases hhead
    · exact ht.made _ _ _ hmem
  · rcases List.mem_cons.mp hmem with hhead | hmem
    · obtain ⟨-, -, rfl⟩ := ReplayEvent.began.inj hhead
      exact ht.made _ _ _ hwait.called
    · exact ht.began _ _ _ hmem
  · refine since_cons.mpr ⟨by simp, (ht.joins key' scopeKey' p).mono fun newer hnewer hnone => ?_⟩
    obtain ⟨job', hmem, hjob'⟩ := hnewer fun q hq => hnone q (List.mem_cons_of_mem _ hq)
    rcases hmem.begin hf hp with hmem | ⟨rfl, rfl, rfl⟩
    · exact ⟨job', hmem, hjob'⟩
    · exact absurd List.mem_cons_self (hnone job'.promise)
  · simp only [ReplayFlights.begin, passRunning]
    by_cases hkey : flight.key = key'
    · subst hkey
      rw [if_pos rfl]
      exact iff_of_true rfl ⟨scopeKey, job, (passing_begin hf).mpr (.inr ⟨rfl, rfl, rfl⟩)⟩
    · rw [if_neg hkey, ht.running key']
      refine exists₂_congr fun scopeKey' job' => ?_
      rw [← ReplayFlights.begin, passing_begin hf]
      simp [Ne.symm hkey]

/-- The end of the loop. -/
lemma Tracks.leave (ht : s.Tracks (some f)) (hf : s.At f flight) :
    (s.leave f flight).Tracks none where
  waits key' scopeKey' job' h :=
    let hw := ht.waits _ _ _ ((filed_leave hf).mp h)
    ⟨hw.unsettled, hw.called, hw.only, hw.fresh⟩
  runs key' scopeKey' job' h :=
    let hr := ht.runs _ _ _ ((passing_leave hf).mp h)
    ⟨hr.unsettled, hr.called, hr.began⟩
  settled := ht.settled
  awaited p hout := by
    obtain ⟨key', scopeKey', job', hjob', hmem⟩ := ht.awaited p hout
    exact ⟨key', scopeKey', job', hjob', hmem.imp (filed_leave hf).mpr (passing_leave hf).mpr⟩
  made := ht.made
  began := ht.began
  joins key' scopeKey' p := (ht.joins key' scopeKey' p).mono fun newer hnewer hnone =>
    let ⟨job', hmem, hjob'⟩ := hnewer hnone
    ⟨job', (filed_leave hf).mpr hmem, hjob'⟩
  running key' := (ht.running key').trans
    (exists₂_congr fun _ _ => (passing_leave hf).symm)

/-- The end of a pass.  What follows it in the same step is the turn of the loop. -/
lemma Tracks.settle (ht : s.Tracks none) (hw : s.WellFormed none) (hf : s.At f flight)
    (hrun : flight.runner = .replaying scopeKey job) (outcome : Except Error ℕ) :
    (s.settle flight.key job.promise outcome).Tracks (some f) := by
  have hlive : flight.runner ≠ .finished := by simp [hrun]
  have hself := ht.runs _ _ _ ⟨f, flight, hf, rfl, hrun, by simp⟩
  have hlt := ht.made _ _ _ hself.called
  have hother : ∀ {q}, q ≠ job.promise →
      (s.promises.set job.promise (some outcome))[q]? = s.promises[q]? := by
    intro q hq
    rw [List.getElem?_set_ne (Ne.symm hq)]
  -- a pass of another flight is the pass of another key
  have hpassing : ∀ {key' scopeKey' job'}, s.Passing (some f) key' scopeKey' job' →
      s.Passing none key' scopeKey' job' ∧ key' ≠ flight.key := by
    rintro key' scopeKey' job' ⟨f', flight', hf', rfl, hrun', hff⟩
    refine ⟨⟨f', flight', hf', rfl, hrun', by simp⟩, fun hkey => hff ?_⟩
    rw [hw.unique hf hf' hkey.symm hlive (by simp [hrun'])]
  refine
    { waits := fun key' scopeKey' job' hmem => ?_
      runs := fun key' scopeKey' job' hpass => ?_
      settled := fun p outcome' hout => ?_
      awaited := fun p hout => ?_
      made := fun key' scopeKey' p hmem => ?_
      began := fun key' scopeKey' p hmem => ?_
      joins := fun key' scopeKey' p => ?_
      running := fun key' => ?_ }
  · have hwait := ht.waits key' scopeKey' job' hmem
    have hne : job'.promise ≠ job.promise := fun hne => hwait.not_running (hne ▸ hself)
    refine
      { unsettled := (hother hne).trans hwait.unsettled
        called := List.mem_cons_of_mem _ hwait.called
        only := fun key'' scopeKey'' hcalled => ?_
        fresh := fun key'' scopeKey'' hbegan => ?_ }
    · rcases List.mem_cons.mp hcalled with hhead | hcalled
      · cases hhead
      · exact hwait.only _ _ hcalled
    · rcases List.mem_cons.mp hbegan with hhead | hbegan
      · cases hhead
      · exact hwait.fresh _ _ hbegan
  · obtain ⟨hpass, hkey⟩ := hpassing hpass
    have hother' := ht.runs _ _ _ hpass
    have hne : job'.promise ≠ job.promise := by
      intro hne
      obtain ⟨_, _, _, h, -⟩ :=
        (hself.began key' scopeKey').exists_of_mem (hne ▸ hother'.called)
      exact hkey h
    refine ⟨(hother hne).trans hother'.unsettled, List.mem_cons_of_mem _ hother'.called,
      fun key'' scopeKey'' => ?_⟩
    refine since_cons.mpr ⟨by simp, (hother'.began _ _).mono fun newer ⟨hk, hsk, hmem⟩ => ?_⟩
    exact ⟨hk, hsk, List.mem_cons_of_mem _ hmem⟩
  · intro key' scopeKey'
    refine since_cons.mpr ⟨by simp, ?_⟩
    by_cases hne : p = job.promise
    · subst hne
      simp only [ReplayFlights.settle, List.getElem?_set_self hlt, Option.some.injEq] at hout
      subst hout
      refine (hself.began key' scopeKey').mono fun newer ⟨hk, hsk, hmem⟩ => ?_
      subst hk hsk
      exact (List.singleton_sublist.mpr hmem).cons_cons _
    · simp only [ReplayFlights.settle, hother hne] at hout
      exact (ht.settled p outcome' hout key' scopeKey').mono fun newer hsub => hsub.cons _
  · have hne : p ≠ job.promise := by
      rintro rfl
      simp [ReplayFlights.settle, List.getElem?_set_self hlt] at hout
    simp only [ReplayFlights.settle, hother hne] at hout
    obtain ⟨key', scopeKey', job', hjob', hmem | ⟨f', flight', hf', rfl, hrun', -⟩⟩ :=
      ht.awaited p hout
    · exact ⟨key', scopeKey', job', hjob', .inl hmem⟩
    · refine ⟨_, scopeKey', job', hjob', .inr ⟨f', flight', hf', rfl, hrun', ?_⟩⟩
      rintro ⟨rfl⟩
      obtain rfl : flight = flight' := Option.some.inj (hf.symm.trans hf')
      obtain ⟨-, rfl⟩ := Runner.replaying.inj (hrun.symm.trans hrun')
      exact hne hjob'.symm
  · rcases List.mem_cons.mp hmem with hhead | hmem
    · cases hhead
    · simpa [ReplayFlights.settle] using ht.made _ _ _ hmem
  · rcases List.mem_cons.mp hmem with hhead | hmem
    · cases hhead
    · simpa [ReplayFlights.settle] using ht.began _ _ _ hmem
  · refine since_cons.mpr ⟨by simp, (ht.joins key' scopeKey' p).mono fun newer hnewer hnone => ?_⟩
    exact hnewer fun q hq => hnone q (List.mem_cons_of_mem _ hq)
  · simp only [ReplayFlights.settle, passRunning]
    by_cases hkey : flight.key = key'
    · subst hkey
      rw [if_pos rfl]
      refine iff_of_false (by simp) ?_
      rintro ⟨scopeKey', job', hpass⟩
      exact (hpassing hpass).2 rfl
    · rw [if_neg hkey, ht.running key']
      refine exists₂_congr fun scopeKey' job' => ⟨?_, fun hpass => (hpassing hpass).1⟩
      rintro ⟨f', flight', hf', rfl, hrun', -⟩
      refine ⟨f', flight', hf', rfl, hrun', ?_⟩
      rintro ⟨rfl⟩
      obtain rfl : flight = flight' := Option.some.inj (hf.symm.trans hf')
      exact hkey rfl

/-! ## What a history records -/

/-- The promises passes were started for, latest first. -/
def beganPromises (h : List (ReplayEvent Registry Error)) : List ℕ :=
  h.filterMap fun
    | .began _ _ p => some p
    | _ => none

/-- Passes of a key do not overlap, a promise gets one pass, and two calls of one scope get one
promise unless a pass of that scope started between them. -/
structure WellRecorded (h : List (ReplayEvent Registry Error)) : Prop where
  one : OnePassAtATime h
  once : (beganPromises h).Nodup
  shared : ∀ key scopeKey p, Since (.called key scopeKey p) (fun newer =>
    ∀ p' between, (∃ later, newer = later ++ .called key scopeKey p' :: between) →
      (∀ q, .began key scopeKey q ∉ between) → p' = p) h

lemma onePassAtATime_cons {h : List (ReplayEvent Registry Error)} (hone : OnePassAtATime h)
    {e : ReplayEvent Registry Error}
    (he : ∀ key scopeKey p, e = .began key scopeKey p → passRunning key h = false) :
    OnePassAtATime (e :: h) := by
  intro newer key scopeKey p older hh
  cases newer with
  | nil =>
    obtain ⟨rfl, rfl⟩ := List.cons.inj hh
    exact he key scopeKey p rfl
  | cons e' newer =>
    obtain ⟨rfl, rfl⟩ := List.cons.inj hh
    exact hone newer key scopeKey p older rfl

/-- An entry that is no call separates no two calls. -/
lemma WellRecorded.shared_cons {h : List (ReplayEvent Registry Error)} (hr : WellRecorded h)
    {e : ReplayEvent Registry Error} (he : ∀ key scopeKey p, e ≠ .called key scopeKey p)
    (key : ReplayKey Registry) (scopeKey : ScopeKey) (p : ℕ) :
    Since (.called key scopeKey p) (fun newer =>
      ∀ p' between, (∃ later, newer = later ++ .called key scopeKey p' :: between) →
        (∀ q, .began key scopeKey q ∉ between) → p' = p) (e :: h) := by
  refine since_cons.mpr ⟨fun hhead => absurd hhead (he _ _ _), ?_⟩
  refine (hr.shared key scopeKey p).mono fun newer hnewer p' between hsplit hnone => ?_
  obtain ⟨later, hlater⟩ := hsplit
  cases later with
  | nil => exact absurd (List.cons.inj hlater).1 (he _ _ _)
  | cons e' later => exact hnewer p' between ⟨later, (List.cons.inj hlater).2⟩ hnone

/-- A call is recorded well if it returns the promise of the job its scope is filed with. -/
lemma WellRecorded.call (hr : WellRecorded s.history) (ht : s.Tracks none)
    {p : ℕ} (hp : ∀ job, s.Filed key scopeKey job → p = job.promise) :
    WellRecorded (.called key scopeKey p :: s.history) := by
  refine ⟨onePassAtATime_cons hr.one (by simp), hr.once, fun key' scopeKey' p₀ => ?_⟩
  refine since_cons.mpr ⟨fun _ p' between hsplit => by simp at hsplit, ?_⟩
  intro newer older hh p' between hsplit hnone
  obtain ⟨later, hlater⟩ := hsplit
  cases later with
  | nil =>
    obtain ⟨hhead, rfl⟩ := List.cons.inj hlater
    obtain ⟨rfl, rfl, rfl⟩ := ReplayEvent.called.inj hhead
    obtain ⟨job, hjob, hjob'⟩ := ht.joins key scopeKey p₀ _ older hh hnone
    exact (hp job hjob).trans hjob'
  | cons e' later =>
    exact hr.shared key' scopeKey' p₀ newer older hh p' between
      ⟨later, (List.cons.inj hlater).2⟩ hnone

lemma WellRecorded.begin (hr : WellRecorded s.history) (ht : s.Tracks (some f))
    (hw : s.WellFormed (some f)) (hf : s.At f flight)
    {pending : List (ScopeKey × ReplayJob Deps)}
    (hp : flight.pending = (scopeKey, job) :: pending) :
    WellRecorded (s.begin f flight scopeKey job pending).history := by
  have hwait := ht.waits _ _ _ ⟨f, flight, hf, rfl, hp ▸ List.mem_cons_self⟩
  refine ⟨onePassAtATime_cons hr.one fun key' scopeKey' p he => ?_, ?_, hr.shared_cons (by simp)⟩
  · obtain ⟨rfl, -, -⟩ := ReplayEvent.began.inj he
    by_contra hrunning
    obtain ⟨_, _, f', flight', hf', hkey, hrun', hff⟩ :=
      (ht.running flight.key).mp (by simpa using hrunning)
    refine hff ?_
    rw [hw.unique hf hf' hkey.symm (fun hrun => by simp [hw.ended f flight hf hrun] at hp)
      (by simp [hrun'])]
  · refine List.nodup_cons.mpr ⟨fun hmem => ?_, hr.once⟩
    obtain ⟨e, he, hep⟩ := List.mem_filterMap.mp hmem
    cases e with
    | called | ended => cases hep
    | began key' scopeKey' p =>
      obtain rfl : p = job.promise := Option.some.inj hep
      exact hwait.fresh key' scopeKey' he

/-! ## Every run -/

/-- What holds between two steps. -/
structure Inv (s : ReplayFlights Registry Deps Error) : Prop where
  wellFormed : s.WellFormed none
  tracks : s.Tracks none
  recorded : WellRecorded s.history

lemma inv_idle : (idle : ReplayFlights Registry Deps Error).Inv where
  wellFormed := by
    refine ⟨?_, ?_, ?_, ?_, ?_⟩ <;> simp [idle, At]
  tracks := by
    refine ⟨?_, ?_, ?_, ?_, ?_, ?_, ?_, ?_⟩ <;> simp [idle, Filed, Passing, At, passRunning]
  recorded := by
    refine ⟨?_, ?_, ?_⟩ <;> simp [idle, OnePassAtATime, beganPromises]

/-- A call keeps the invariant. -/
lemma Inv.deliver (hi : s.Inv) (key : ReplayKey Registry) (scope : NodeDeliveryReplayScope)
    (deps : Option Deps) : (s.deliverPendingToNode key scope deps).2.Inv := by
  obtain ⟨hw, ht, hr⟩ := hi
  have hentry : ∀ f, s.flights key = some f → ∃ flight, s.objects[f]? = some flight :=
    fun f hf => let ⟨flight, hflight, _⟩ := (hw.entry key f).mp hf; ⟨flight, hflight⟩
  have hnew : s.promises[s.promises.length]? = none := List.getElem?_eq_none le_rfl
  have hold : ∀ q, q ≠ s.promises.length → (s.promises ++ [none])[q]? = s.promises[q]? := by
    intro q hq
    rw [List.getElem?_append]
    split_ifs with hlt
    · rfl
    · rw [List.getElem?_eq_none (by simp; omega), List.getElem?_eq_none (by omega)]
  rcases s.deliverPendingToNode_cases key scope deps with
    ⟨f, flight, job, hflight, hjob, heq⟩ | ⟨f, flight, hflight, hjob, heq⟩ | ⟨hflight, heq⟩ <;>
    rw [heq]
  · obtain ⟨hkey, hf⟩ := flight?_eq_some.mp hflight
    have hmem : s.Filed key scope.scopeKey job := by
      refine ⟨f, flight, hf, (hw.of_entry hkey hf).1, ?_⟩
      obtain ⟨before, after, hsplit, -⟩ := List.lookup_eq_some_iff.mp hjob
      simp [hsplit]
    have hwait := ht.waits _ _ _ hmem
    refine ⟨⟨hw.entry, hw.turns, hw.queued, hw.ended, hw.distinct⟩, ?_, ?_⟩
    · have hfiled : ∀ key' scopeKey' job', s.Filed key' scopeKey' job' ↔
          s.Filed key' scopeKey' job' ∨ key' = key ∧ scopeKey' = scope.scopeKey ∧ job' = job := by
        intro key' scopeKey' job'
        refine ⟨.inl, ?_⟩
        rintro (h | ⟨rfl, rfl, rfl⟩)
        · exact h
        · exact hmem
      exact ht.call rfl le_rfl (fun _ _ => rfl) hwait.unsettled hfiled (fun _ _ _ => Iff.rfl)
        (.inl hwait)
    · refine hr.call ht fun job' hmem' => ?_
      obtain ⟨f', flight', hkey', hf', hjob'⟩ := hw.lookup_of_filed hmem'
      obtain rfl : f = f' := Option.some.inj (hkey.symm.trans hkey')
      obtain rfl : flight = flight' := Option.some.inj (hf.symm.trans hf')
      rw [Option.some.inj (hjob.symm.trans hjob')]
  · obtain ⟨hkey, hf⟩ := flight?_eq_some.mp hflight
    refine ⟨hw.enqueue hkey hf hjob, ?_, ?_⟩
    · exact ht.call rfl (by simp [enqueue]) hold (by simp [enqueue])
        (fun _ _ _ => filed_enqueue hf (hw.of_entry hkey hf).1)
        (fun _ _ _ => passing_modify hf rfl rfl rfl) (.inr rfl)
    · refine hr.call ht fun job' hmem' => ?_
      obtain ⟨f', flight', hkey', hf', hjob'⟩ := hw.lookup_of_filed hmem'
      obtain rfl : f = f' := Option.some.inj (hkey.symm.trans hkey')
      obtain rfl : flight = flight' := Option.some.inj (hf.symm.trans hf')
      simp [hjob] at hjob'
  · rw [flight?_eq_none hentry] at hflight
    refine ⟨hw.launch hflight, ?_, ?_⟩
    · exact ht.call rfl (by simp [launch]) hold (by simp [launch])
        (fun _ _ _ => filed_launch) (fun _ _ _ => passing_launch) (.inr rfl)
    · refine hr.call ht fun job' hmem' => ?_
      obtain ⟨f', flight', hkey', -⟩ := hw.lookup_of_filed hmem'
      simp [hflight] at hkey'

/-- A turn of a loop ends in the invariant. -/
lemma Inv.turn (hw : s.WellFormed (some f)) (ht : s.Tracks (some f))
    (hr : WellRecorded s.history) (hf : s.At f flight) : (s.turn f flight).Inv := by
  unfold ReplayFlights.turn
  cases hp : flight.pending with
  | nil => exact ⟨hw.leave hf hp, ht.leave hf, hr⟩
  | cons entry pending => exact ⟨hw.begin hf hp, ht.begin hw hf hp, hr.begin ht hw hf hp⟩

/-- Every step keeps the invariant. -/
lemma Inv.act (hi : s.Inv) {a : ReplayAction Registry Deps Error}
    {s' : ReplayFlights Registry Deps Error} (h : s.act a = some s') : s'.Inv := by
  have hturns : ∀ f flight, s.At f flight → flight.runner ≠ .finished →
      s.WellFormed (some f) := by
    intro f flight hf hlive
    exact
      { entry := hi.wellFormed.entry
        turns := by rintro _ ⟨rfl⟩; exact ⟨flight, hf, hlive⟩
        queued := fun f' flight' hf' hrun _ => hi.wellFormed.queued f' flight' hf' hrun (by simp)
        ended := hi.wellFormed.ended
        distinct := hi.wellFormed.distinct }
  rcases act_turns h with ⟨key, scope, deps, -, rfl⟩ | ⟨f, flight, -, hf, hrun, rfl⟩ |
    ⟨f, flight, scopeKey, job, outcome, -, hf, hrun, rfl⟩
  · exact hi.deliver key scope deps
  · refine Inv.turn (hturns f flight hf (by simp [hrun])) ?_ hi.recorded hf
    -- before its first turn the loop awaits nothing
    have hpassing : ∀ {key' scopeKey' job'},
        s.Passing (some f) key' scopeKey' job' ↔ s.Passing none key' scopeKey' job' := by
      intro key' scopeKey' job'
      constructor
      · rintro ⟨f', flight', hf', hkey, hrun', -⟩
        exact ⟨f', flight', hf', hkey, hrun', by simp⟩
      · rintro ⟨f', flight', hf', hkey, hrun', -⟩
        refine ⟨f', flight', hf', hkey, hrun', ?_⟩
        rintro ⟨rfl⟩
        obtain rfl : flight = flight' := Option.some.inj (hf.symm.trans hf')
        cases hrun.symm.trans hrun'
    have ht := hi.tracks
    exact ⟨ht.waits, fun _ _ _ h => ht.runs _ _ _ (hpassing.mp h), ht.settled,
      fun p hp => let ⟨key', scopeKey', job', hjob', h⟩ := ht.awaited p hp
        ⟨key', scopeKey', job', hjob', h.imp_right hpassing.mpr⟩,
      ht.made, ht.began, ht.joins,
      fun key' => (ht.running key').trans (exists₂_congr fun _ _ => hpassing.symm)⟩
  · have hw := hturns f flight hf (by simp [hrun])
    refine Inv.turn (s := s.settle flight.key job.promise outcome)
      ⟨hw.entry, hw.turns, hw.queued, hw.ended, hw.distinct⟩
      (hi.tracks.settle hi.wellFormed hf hrun outcome) ?_ hf
    exact ⟨onePassAtATime_cons hi.recorded.one (by simp), hi.recorded.once, hi.recorded.shared_cons (by simp)⟩

lemma inv_of_reachable (h : s.Reachable) : s.Inv := by
  unfold Reachable at h
  induction h with
  | refl => exact inv_idle
  | tail _ hstep ih =>
    obtain ⟨a, ha⟩ := hstep
    exact ih.act ha

end

end ReplayFlights

end Delivery
