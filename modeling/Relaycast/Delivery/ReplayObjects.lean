import Relaycast.Delivery.ReplayFlights

/-!
# The objects of the replay flights

Where a job can be, its flight's map or the pass the flight awaits, and how each step moves it.
The objects stay well-formed: one flight of a key is not over, and the key's entry names it.
-/

namespace Delivery

open Interleaving

variable {Registry Deps Error : Type}

namespace ReplayFlights

section
variable (s : ReplayFlights Registry Deps Error)

/-- `f` names this flight. -/
abbrev At (f : ℕ) (flight : ReplayFlight Registry Deps) : Prop := s.objects[f]? = some flight

/-- The job is in the map of a flight of the key. -/
def Filed (key : ReplayKey Registry) (scopeKey : ScopeKey) (job : ReplayJob Deps) : Prop :=
  ∃ f flight, s.At f flight ∧ flight.key = key ∧ (scopeKey, job) ∈ flight.pending

/-- A flight of the key awaits the pass of the job.  With `turning = some f` the loop of `f` is in
the middle of a turn, after its last pass and before its next, and awaits nothing. -/
def Passing (turning : Option ℕ) (key : ReplayKey Registry) (scopeKey : ScopeKey)
    (job : ReplayJob Deps) : Prop :=
  ∃ f flight, s.At f flight ∧ flight.key = key ∧ flight.runner = .replaying scopeKey job ∧
    turning ≠ some f

/-- The objects fit together: the entry of a key is its one flight that is not over, a loop with
nothing to do is over, and the keys of a map are distinct. -/
structure WellFormed (turning : Option ℕ) : Prop where
  entry : ∀ key f, s.flights key = some f ↔
    ∃ flight, s.At f flight ∧ flight.key = key ∧ flight.runner ≠ .finished
  turns : ∀ f, turning = some f → ∃ flight, s.At f flight ∧ flight.runner ≠ .finished
  queued : ∀ f flight, s.At f flight → flight.runner = .queued → turning ≠ some f →
    flight.pending ≠ []
  ended : ∀ f flight, s.At f flight → flight.runner = .finished → flight.pending = []
  distinct : ∀ f flight, s.At f flight → (flight.pending.map Prod.fst).Nodup

end

/-! ## Where the jobs are after a step -/

section
variable {s : ReplayFlights Registry Deps Error} {turning : Option ℕ} {f : ℕ}
  {flight : ReplayFlight Registry Deps} {key : ReplayKey Registry} {scopeKey : ScopeKey}
  {job : ReplayJob Deps}

lemma at_modify {g : ReplayFlight Registry Deps → ReplayFlight Registry Deps} {f' : ℕ}
    {flight' : ReplayFlight Registry Deps} (hf : s.At f flight) :
    (s.objects.modify f g)[f']? = some flight' ↔
      f' = f ∧ flight' = g flight ∨ f' ≠ f ∧ s.At f' flight' := by
  rw [List.getElem?_modify]
  by_cases h : f = f'
  · subst h
    simp [At] at hf ⊢
    simp [hf, eq_comm]
  · simp [h, At, Ne.symm h]

/-- Filing a job with a flight adds it to the flight's key. -/
lemma filed_enqueue (hf : s.At f flight) (hkey : flight.key = key) {key' : ReplayKey Registry}
    {scopeKey' : ScopeKey} {job' : ReplayJob Deps} :
    (s.enqueue key scopeKey job f).Filed key' scopeKey' job' ↔
      s.Filed key' scopeKey' job' ∨ key' = key ∧ scopeKey' = scopeKey ∧ job' = job := by
  simp only [Filed, At, enqueue, at_modify hf]
  constructor
  · rintro ⟨f', flight', ⟨rfl, rfl⟩ | ⟨_, hf'⟩, rfl, hmem⟩
    · rcases List.mem_append.mp hmem with hmem | hmem
      · exact .inl ⟨f', flight, hf, rfl, hmem⟩
      · obtain ⟨rfl, rfl⟩ := Prod.mk.inj (List.mem_singleton.mp hmem)
        exact .inr ⟨hkey, rfl, rfl⟩
    · exact .inl ⟨f', flight', hf', rfl, hmem⟩
  · rintro (⟨f', flight', hf', rfl, hmem⟩ | ⟨rfl, rfl, rfl⟩)
    · by_cases hff : f' = f
      · subst hff
        obtain rfl : flight = flight' := Option.some.inj (hf.symm.trans hf')
        exact ⟨f', _, .inl ⟨rfl, rfl⟩, rfl, List.mem_append_left _ hmem⟩
      · exact ⟨f', flight', .inr ⟨hff, hf'⟩, rfl, hmem⟩
    · exact ⟨f, _, .inl ⟨rfl, rfl⟩, hkey, List.mem_append_right _ (List.mem_singleton.mpr rfl)⟩

/-- An update that leaves key and loop of the flight alone leaves the running passes alone. -/
lemma passing_modify (hf : s.At f flight)
    {g : ReplayFlight Registry Deps → ReplayFlight Registry Deps}
    (hkey : (g flight).key = flight.key) (hrunner : (g flight).runner = flight.runner)
    {s' : ReplayFlights Registry Deps Error} (hs' : s'.objects = s.objects.modify f g) :
    s'.Passing turning key scopeKey job ↔ s.Passing turning key scopeKey job := by
  simp only [Passing, At, hs', at_modify hf]
  constructor
  · rintro ⟨f', flight', ⟨rfl, rfl⟩ | ⟨_, hf'⟩, rfl, hrun, ht⟩
    · exact ⟨f', flight, hf, hkey.symm, hrunner ▸ hrun, ht⟩
    · exact ⟨f', flight', hf', rfl, hrun, ht⟩
  · rintro ⟨f', flight', hf', rfl, hrun, ht⟩
    by_cases hff : f' = f
    · subst hff
      obtain rfl : flight = flight' := Option.some.inj (hf.symm.trans hf')
      exact ⟨f', _, .inl ⟨rfl, rfl⟩, hkey, hrunner.trans hrun, ht⟩
    · exact ⟨f', flight', .inr ⟨hff, hf'⟩, rfl, hrun, ht⟩

lemma at_append {f' : ℕ} {flight' new : ReplayFlight Registry Deps} :
    (s.objects ++ [new])[f']? = some flight' ↔
      s.At f' flight' ∨ f' = s.objects.length ∧ flight' = new := by
  rw [List.getElem?_append, At]
  split_ifs with h
  · simp [h.ne]
  · rw [List.getElem?_eq_none (not_lt.mp h), List.getElem?_singleton]
    have : f' - s.objects.length = 0 ↔ f' = s.objects.length := by omega
    simp [this, eq_comm]

variable [DecidableEq Registry] in
/-- A new flight holds its one job. -/
lemma filed_launch {key' : ReplayKey Registry} {scopeKey' : ScopeKey} {job' : ReplayJob Deps} :
    (s.launch key scopeKey job).Filed key' scopeKey' job' ↔
      s.Filed key' scopeKey' job' ∨ key' = key ∧ scopeKey' = scopeKey ∧ job' = job := by
  simp only [Filed, At, launch, at_append]
  constructor
  · rintro ⟨f', flight', hf' | ⟨rfl, rfl⟩, rfl, hmem⟩
    · exact .inl ⟨f', flight', hf', rfl, hmem⟩
    · obtain ⟨rfl, rfl⟩ := Prod.mk.inj (List.mem_singleton.mp hmem)
      exact .inr ⟨rfl, rfl, rfl⟩
  · rintro (⟨f', flight', hf', rfl, hmem⟩ | ⟨rfl, rfl, rfl⟩)
    · exact ⟨f', flight', .inl hf', rfl, hmem⟩
    · exact ⟨s.objects.length, _, .inr ⟨rfl, rfl⟩, rfl, List.mem_singleton.mpr rfl⟩

variable [DecidableEq Registry] in
/-- A new flight awaits nothing. -/
lemma passing_launch {key' : ReplayKey Registry} {scopeKey' : ScopeKey} {job' : ReplayJob Deps} :
    (s.launch key scopeKey job).Passing turning key' scopeKey' job' ↔
      s.Passing turning key' scopeKey' job' := by
  simp only [Passing, At, launch, at_append]
  constructor
  · rintro ⟨f', flight', hf' | ⟨_, rfl⟩, hkey, hrun, ht⟩
    · exact ⟨f', flight', hf', hkey, hrun, ht⟩
    · cases hrun
  · rintro ⟨f', flight', hf', hkey, hrun, ht⟩
    exact ⟨f', flight', .inl hf', hkey, hrun, ht⟩

section
variable {pending : List (ScopeKey × ReplayJob Deps)}

/-- Taking a job out of the map files no job. -/
lemma Filed.of_begin (hf : s.At f flight) (hp : flight.pending = (scopeKey, job) :: pending)
    {key' : ReplayKey Registry} {scopeKey' : ScopeKey} {job' : ReplayJob Deps}
    (h : (s.begin f flight scopeKey job pending).Filed key' scopeKey' job') :
    ∃ f' flight', s.At f' flight' ∧ flight'.key = key' ∧
      (scopeKey', job') ∈ flight'.pending ∧ (f' = f → (scopeKey', job') ∈ pending) := by
  simp only [Filed, At, begin, at_modify hf] at h
  obtain ⟨f', flight', ⟨rfl, rfl⟩ | ⟨hff, hf'⟩, hkey, hmem⟩ := h
  · exact ⟨f', flight, hf, hkey, hp ▸ List.mem_cons_of_mem _ hmem, fun _ => hmem⟩
  · exact ⟨f', flight', hf', hkey, hmem, fun hf => absurd hf hff⟩

/-- Every job but the one that is taken stays filed. -/
lemma Filed.begin (hf : s.At f flight) (hp : flight.pending = (scopeKey, job) :: pending)
    {key' : ReplayKey Registry} {scopeKey' : ScopeKey} {job' : ReplayJob Deps}
    (h : s.Filed key' scopeKey' job') :
    (s.begin f flight scopeKey job pending).Filed key' scopeKey' job' ∨
      key' = flight.key ∧ scopeKey' = scopeKey ∧ job' = job := by
  obtain ⟨f', flight', hf', rfl, hmem⟩ := h
  simp only [Filed, At, ReplayFlights.begin, at_modify hf]
  by_cases hff : f' = f
  · subst hff
    obtain rfl : flight = flight' := Option.some.inj (hf.symm.trans hf')
    rw [hp] at hmem
    rcases List.mem_cons.mp hmem with hhead | hmem
    · obtain ⟨rfl, rfl⟩ := Prod.mk.inj hhead
      exact .inr ⟨rfl, rfl, rfl⟩
    · exact .inl ⟨f', _, .inl ⟨rfl, rfl⟩, rfl, hmem⟩
  · exact .inl ⟨f', flight', .inr ⟨hff, hf'⟩, rfl, hmem⟩

/-- The turn ends with the pass of the job that was taken. -/
lemma passing_begin (hf : s.At f flight) {key' : ReplayKey Registry} {scopeKey' : ScopeKey}
    {job' : ReplayJob Deps} :
    (s.begin f flight scopeKey job pending).Passing none key' scopeKey' job' ↔
      s.Passing (some f) key' scopeKey' job' ∨
        key' = flight.key ∧ scopeKey' = scopeKey ∧ job' = job := by
  simp only [Passing, At, ReplayFlights.begin, at_modify hf]
  constructor
  · rintro ⟨f', flight', ⟨rfl, rfl⟩ | ⟨hff, hf'⟩, rfl, hrun, -⟩
    · obtain ⟨rfl, rfl⟩ := Runner.replaying.inj hrun
      exact .inr ⟨rfl, rfl, rfl⟩
    · exact .inl ⟨f', flight', hf', rfl, hrun, by simpa using Ne.symm hff⟩
  · rintro (⟨f', flight', hf', rfl, hrun, ht⟩ | ⟨rfl, rfl, rfl⟩)
    · exact ⟨f', flight', .inr ⟨fun hff => ht (by rw [hff]), hf'⟩, rfl, hrun, by simp⟩
    · exact ⟨f, _, .inl ⟨rfl, rfl⟩, rfl, rfl, by simp⟩

end

variable [DecidableEq Registry] in
/-- A flight that is left is empty, and its jobs stay where they are. -/
lemma filed_leave (hf : s.At f flight) {key' : ReplayKey Registry} {scopeKey' : ScopeKey}
    {job' : ReplayJob Deps} :
    (s.leave f flight).Filed key' scopeKey' job' ↔ s.Filed key' scopeKey' job' := by
  simp only [Filed, At, leave, at_modify hf]
  constructor
  · rintro ⟨f', flight', ⟨rfl, rfl⟩ | ⟨_, hf'⟩, hkey, hmem⟩
    · exact ⟨f', flight, hf, hkey, hmem⟩
    · exact ⟨f', flight', hf', hkey, hmem⟩
  · rintro ⟨f', flight', hf', hkey, hmem⟩
    by_cases hff : f' = f
    · subst hff
      obtain rfl : flight = flight' := Option.some.inj (hf.symm.trans hf')
      exact ⟨f', _, .inl ⟨rfl, rfl⟩, hkey, hmem⟩
    · exact ⟨f', flight', .inr ⟨hff, hf'⟩, hkey, hmem⟩

variable [DecidableEq Registry] in
/-- The turn ends without a pass. -/
lemma passing_leave (hf : s.At f flight) {key' : ReplayKey Registry} {scopeKey' : ScopeKey}
    {job' : ReplayJob Deps} :
    (s.leave f flight).Passing none key' scopeKey' job' ↔
      s.Passing (some f) key' scopeKey' job' := by
  simp only [Passing, At, leave, at_modify hf]
  constructor
  · rintro ⟨f', flight', ⟨_, rfl⟩ | ⟨hff, hf'⟩, hkey, hrun, -⟩
    · cases hrun
    · exact ⟨f', flight', hf', hkey, hrun, by simpa using Ne.symm hff⟩
  · rintro ⟨f', flight', hf', hkey, hrun, ht⟩
    exact ⟨f', flight', .inr ⟨fun hff => ht (by rw [hff]), hf'⟩, hkey, hrun, by simp⟩

/-! ## The objects stay well-formed -/

/-- A key has one flight that is not over. -/
lemma WellFormed.unique (hw : s.WellFormed turning) {f f' : ℕ}
    {flight flight' : ReplayFlight Registry Deps} (hf : s.At f flight) (hf' : s.At f' flight')
    (hkey : flight.key = flight'.key) (hlive : flight.runner ≠ .finished)
    (hlive' : flight'.runner ≠ .finished) : f = f' := by
  have h := (hw.entry flight.key f).mpr ⟨flight, hf, rfl, hlive⟩
  have h' := (hw.entry flight.key f').mpr ⟨flight', hf', hkey.symm, hlive'⟩
  exact Option.some.inj (h.symm.trans h')

/-- The flight an entry names has the key and is not over. -/
lemma WellFormed.of_entry (hw : s.WellFormed turning) (hentry : s.flights key = some f)
    (hf : s.At f flight) : flight.key = key ∧ flight.runner ≠ .finished := by
  obtain ⟨flight', hf', hkey, hlive⟩ := (hw.entry key f).mp hentry
  obtain rfl : flight = flight' := Option.some.inj (hf.symm.trans hf')
  exact ⟨hkey, hlive⟩

/-- An update of one flight that does not end it keeps the entries. -/
lemma WellFormed.entry_modify (hw : s.WellFormed turning) (hf : s.At f flight)
    {g : ReplayFlight Registry Deps → ReplayFlight Registry Deps}
    (hkey : (g flight).key = flight.key) (hlive : flight.runner ≠ .finished)
    (hlive' : (g flight).runner ≠ .finished) (key' : ReplayKey Registry) (f' : ℕ) :
    s.flights key' = some f' ↔ ∃ flight', (s.objects.modify f g)[f']? = some flight' ∧
      flight'.key = key' ∧ flight'.runner ≠ .finished := by
  rw [hw.entry key' f']
  simp only [at_modify hf]
  constructor
  · rintro ⟨flight', hf', hkey', hrun⟩
    by_cases hff : f' = f
    · subst hff
      obtain rfl : flight = flight' := Option.some.inj (hf.symm.trans hf')
      exact ⟨_, .inl ⟨rfl, rfl⟩, hkey.trans hkey', hlive'⟩
    · exact ⟨flight', .inr ⟨hff, hf'⟩, hkey', hrun⟩
  · rintro ⟨flight', ⟨rfl, rfl⟩ | ⟨_, hf'⟩, hkey', hrun⟩
    · exact ⟨flight, hf, hkey.symm.trans hkey', hlive⟩
    · exact ⟨flight', hf', hkey', hrun⟩

lemma WellFormed.enqueue (hw : s.WellFormed none) (hentry : s.flights key = some f)
    (hf : s.At f flight) (hlookup : flight.pending.lookup scopeKey = none) :
    (s.enqueue key scopeKey job f).WellFormed none := by
  obtain ⟨hkey, hlive⟩ := hw.of_entry hentry hf
  refine
    { entry := hw.entry_modify hf rfl hlive hlive
      turns := by simp
      queued := ?_
      ended := ?_
      distinct := ?_ } <;>
    intro f' flight' hf' <;> rcases (at_modify hf).mp hf' with ⟨rfl, rfl⟩ | ⟨_, hf'⟩
  · exact fun _ _ => by simp
  · exact fun hrun => hw.queued f' flight' hf' hrun
  · exact fun hrun => absurd hrun hlive
  · exact hw.ended f' flight' hf'
  · have hnot : scopeKey ∉ flight.pending.map Prod.fst := by
      intro hmem
      obtain ⟨entry, hentry', rfl⟩ := List.mem_map.mp hmem
      simp only [List.lookup_eq_none_iff] at hlookup
      simpa using hlookup entry hentry'
    rw [List.map_append, List.nodup_append]
    refine ⟨hw.distinct f' flight hf, List.nodup_singleton _, ?_⟩
    intro sk hsk sk' hsk'
    rw [List.map_singleton, List.mem_singleton] at hsk'
    rintro rfl
    rw [hsk'] at hsk
    exact hnot hsk
  · exact hw.distinct f' flight' hf'

lemma WellFormed.begin {pending : List (ScopeKey × ReplayJob Deps)}
    (hw : s.WellFormed (some f)) (hf : s.At f flight)
    (hp : flight.pending = (scopeKey, job) :: pending) :
    (s.begin f flight scopeKey job pending).WellFormed none := by
  have hlive : flight.runner ≠ .finished := fun hrun => by simp [hw.ended f flight hf hrun] at hp
  refine
    { entry := hw.entry_modify hf rfl hlive (by simp)
      turns := by simp
      queued := ?_
      ended := ?_
      distinct := ?_ } <;>
    intro f' flight' hf' <;> rcases (at_modify hf).mp hf' with ⟨rfl, rfl⟩ | ⟨hff, hf'⟩
  · exact fun hrun => by cases hrun
  · exact fun hrun _ => hw.queued f' flight' hf' hrun (by simpa using Ne.symm hff)
  · exact fun hrun => by cases hrun
  · exact hw.ended f' flight' hf'
  · have := hw.distinct f' flight hf
    rw [hp, List.map_cons] at this
    exact this.of_cons
  · exact hw.distinct f' flight' hf'

/-- A job that is filed is where its key finds it. -/
lemma WellFormed.lookup_of_filed (hw : s.WellFormed turning) (h : s.Filed key scopeKey job) :
    ∃ f flight, s.flights key = some f ∧ s.At f flight ∧
      flight.pending.lookup scopeKey = some job := by
  obtain ⟨f, flight, hf, rfl, hmem⟩ := h
  have hlive : flight.runner ≠ .finished := fun hrun => by simp [hw.ended f flight hf hrun] at hmem
  refine ⟨f, flight, (hw.entry _ _).mpr ⟨flight, hf, rfl, hlive⟩, hf, ?_⟩
  obtain ⟨before, after, hsplit⟩ := List.append_of_mem hmem
  rw [List.lookup_eq_some_iff]
  refine ⟨before, after, hsplit, fun entry hentry => ?_⟩
  have hnodup := hw.distinct f flight hf
  rw [hsplit, List.map_append, List.nodup_append] at hnodup
  have := hnodup.2.2 entry.1 (List.mem_map_of_mem hentry) scopeKey (by simp)
  simpa using Ne.symm this

variable [DecidableEq Registry]

lemma WellFormed.launch (hw : s.WellFormed none) (hentry : s.flights key = none) :
    (s.launch key scopeKey job).WellFormed none := by
  have hold : ∀ {f' flight'}, s.At f' flight' → f' ≠ s.objects.length := by
    rintro f' flight' hf' rfl
    simp [At] at hf'
  refine
    { entry := ?_
      turns := by simp
      queued := ?_
      ended := ?_
      distinct := ?_ }
  · intro key' f'
    simp only [ReplayFlights.launch, At, at_append]
    by_cases hkey : key' = key
    · subst hkey
      rw [Function.update_self, Option.some.injEq]
      constructor
      · rintro rfl
        exact ⟨_, .inr ⟨rfl, rfl⟩, rfl, by simp⟩
      · rintro ⟨flight', hf' | ⟨rfl, rfl⟩, hkey', hrun⟩
        · have := (hw.entry key' f').mpr ⟨flight', hf', hkey', hrun⟩
          simp [hentry] at this
        · rfl
    · rw [Function.update_of_ne hkey, hw.entry key' f']
      constructor
      · rintro ⟨flight', hf', h⟩
        exact ⟨flight', .inl hf', h⟩
      · rintro ⟨flight', hf' | ⟨rfl, rfl⟩, hkey', hrun⟩
        · exact ⟨flight', hf', hkey', hrun⟩
        · exact absurd hkey'.symm hkey
  all_goals intro f' flight' hf'; rcases at_append.mp hf' with hf' | ⟨rfl, rfl⟩
  · exact hw.queued f' flight' hf'
  · exact fun _ _ => by simp
  · exact hw.ended f' flight' hf'
  · exact fun hrun => by cases hrun
  · exact hw.distinct f' flight' hf'
  · simp

lemma WellFormed.leave (hw : s.WellFormed (some f)) (hf : s.At f flight)
    (hp : flight.pending = []) : (s.leave f flight).WellFormed none := by
  obtain ⟨flight₀, hf₀, hlive⟩ := hw.turns f rfl
  obtain rfl : flight = flight₀ := Option.some.inj (hf.symm.trans hf₀)
  have hentry : s.flights flight.key = some f := (hw.entry _ _).mpr ⟨flight, hf, rfl, hlive⟩
  refine
    { entry := ?_
      turns := by simp
      queued := ?_
      ended := ?_
      distinct := ?_ }
  · intro key' f'
    simp only [ReplayFlights.leave, if_pos hentry, At, at_modify hf]
    constructor
    · intro h
      have hkey : key' ≠ flight.key := by
        rintro rfl
        simp at h
      rw [Function.update_of_ne hkey] at h
      obtain ⟨flight', hf', hkey', hrun⟩ := (hw.entry key' f').mp h
      refine ⟨flight', .inr ⟨?_, hf'⟩, hkey', hrun⟩
      rintro rfl
      obtain rfl : flight = flight' := Option.some.inj (hf.symm.trans hf')
      exact hkey hkey'.symm
    · rintro ⟨flight', ⟨_, rfl⟩ | ⟨hff, hf'⟩, hkey', hrun⟩
      · exact absurd rfl hrun
      · have hkey : key' ≠ flight.key := fun h =>
          hff (hw.unique hf' hf (hkey'.trans h) hrun hlive)
        rw [Function.update_of_ne hkey]
        exact (hw.entry key' f').mpr ⟨flight', hf', hkey', hrun⟩
  all_goals intro f' flight' hf'; rcases (at_modify hf).mp hf' with ⟨rfl, rfl⟩ | ⟨hff, hf'⟩
  · exact fun hrun => by cases hrun
  · exact fun hrun _ => hw.queued f' flight' hf' hrun (by simpa using Ne.symm hff)
  · exact fun _ => hp
  · exact hw.ended f' flight' hf'
  · exact hw.distinct f' flight hf
  · exact hw.distinct f' flight' hf'

end

end ReplayFlights

end Delivery
