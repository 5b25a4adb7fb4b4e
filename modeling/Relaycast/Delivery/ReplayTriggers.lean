import Relaycast.Delivery.ReplayCoalescing

/-!
# No trigger is lost

What `deliverPendingToNode` promises its callers, in every run of the process.  The passes are
arbitrary; that they end, and that a queued microtask is run, is what `FairRun` asks of the outside
world, and only that a promise settles at all depends on it.
-/

namespace Delivery

open Interleaving

variable {Registry Deps Error : Type} [DecidableEq Registry]

/-- The passes among `newer` that run for a call of the key among `during` whose scope is one of
`scopes`. -/
def furtherPasses (key : ReplayKey Registry) (scopes : ScopeKey → Bool)
    (during newer : List (ReplayEvent Registry Error)) : List ℕ :=
  newer.filterMap fun
    | .began key' _ p =>
      if key' = key ∧ during.any (fun
          | .called key'' scopeKey p' => key'' = key ∧ scopes scopeKey ∧ p' = p
          | _ => false) then some p
      else none
    | _ => none

/-- The calls of these scopes that are made while a pass runs start at most one further pass. -/
def CoalescesCalls (scopes : ScopeKey → Bool) (h : List (ReplayEvent Registry Error)) : Prop :=
  ∀ key newer during scopeKey p older, h = newer ++ during ++ .began key scopeKey p :: older →
    (∀ p' outcome, .ended key p' outcome ∉ during) →
      (furtherPasses key scopes during newer).length ≤ 1

namespace ReplayFlights

/-! ## The order of the passes -/

/-- A pass keeps running until one of its key ends. -/
lemma passRunning_of_not_ended {key : ReplayKey Registry} {scopeKey : ScopeKey} {p : ℕ}
    {older : List (ReplayEvent Registry Error)} (during : List (ReplayEvent Registry Error))
    (hduring : ∀ p' outcome, .ended key p' outcome ∉ during) :
    passRunning key (during ++ .began key scopeKey p :: older) = true := by
  induction during with
  | nil => simp [passRunning]
  | cons e during ih =>
    have ih := ih fun p' outcome hmem => hduring p' outcome (List.mem_cons_of_mem _ hmem)
    cases e with
    | called => exact ih
    | began key' =>
      simp only [List.cons_append, passRunning, ih, ite_self]
    | ended key' p' outcome =>
      have hne : key' ≠ key := by
        rintro rfl
        exact hduring p' outcome List.mem_cons_self
      simpa [passRunning, hne] using ih

lemma furtherPasses_sublist (key : ReplayKey Registry) (scopes : ScopeKey → Bool)
    (during newer : List (ReplayEvent Registry Error)) :
    (furtherPasses key scopes during newer).Sublist (beganPromises newer) := by
  unfold furtherPasses beganPromises
  induction newer with
  | nil => simp
  | cons e newer ih =>
    cases e with
    | called | ended => simpa using ih
    | began key' scopeKey p =>
      rw [List.filterMap_cons, List.filterMap_cons]
      dsimp only
      split_ifs with h
      · exact ih.cons_cons p
      · exact ih.cons p

lemma mem_furtherPasses {key : ReplayKey Registry} {scopes : ScopeKey → Bool}
    {during newer : List (ReplayEvent Registry Error)} {p : ℕ}
    (h : p ∈ furtherPasses key scopes during newer) :
    ∃ scopeKey, scopes scopeKey = true ∧ .called key scopeKey p ∈ during := by
  obtain ⟨e, -, he⟩ := List.mem_filterMap.mp h
  cases e with
  | called | ended => cases he
  | began key' scopeKey p' =>
    dsimp only at he
    split_ifs at he with hcond
    obtain rfl := Option.some.inj he
    obtain ⟨e, hmem, he⟩ := List.any_eq_true.mp hcond.2
    cases e with
    | began | ended => simp at he
    | called key'' scopeKey' p'' =>
      simp only [decide_eq_true_eq] at he
      obtain ⟨rfl, hscope, rfl⟩ := he
      exact ⟨scopeKey', hscope, hmem⟩

/-- Two calls of one scope with no start of a pass of that scope among the entries they are in
return one promise. -/
lemma WellRecorded.same_promise {h newer during older : List (ReplayEvent Registry Error)}
    (hr : WellRecorded h) (hh : h = newer ++ during ++ older) {key : ReplayKey Registry}
    {scopeKey : ScopeKey} (hnone : ∀ q, .began key scopeKey q ∉ during) {p p' : ℕ}
    (hp : .called key scopeKey p ∈ during) (hp' : .called key scopeKey p' ∈ during) : p = p' := by
  obtain ⟨later, earlier, rfl⟩ := List.append_of_mem hp
  rcases List.mem_append.mp hp' with hlater | hearlier
  · obtain ⟨a, between, rfl⟩ := List.append_of_mem hlater
    refine (hr.shared key scopeKey p (newer ++ a ++ .called key scopeKey p' :: between)
      (earlier ++ older) (by simpa using hh) p' between ⟨newer ++ a, by simp⟩
      fun q hq => hnone q ?_).symm
    simp [hq]
  · rcases List.mem_cons.mp hearlier with hhead | hearlier
    · exact (ReplayEvent.called.inj hhead).2.2.symm
    · obtain ⟨between, b, rfl⟩ := List.append_of_mem hearlier
      refine hr.shared key scopeKey p' (newer ++ later ++ .called key scopeKey p :: between)
        (b ++ older) (by simpa using hh) p between ⟨newer ++ later, by simp⟩ fun q hq => hnone q ?_
      simp [hq]

lemma WellRecorded.coalesces {h : List (ReplayEvent Registry Error)} (hr : WellRecorded h)
    (scopeKey : ScopeKey) : CoalescesCalls (· == scopeKey) h := by
  intro key newer during scopeKey' p older hh hended
  have hbegan : ∀ q, .began key scopeKey q ∉ during := by
    intro q hmem
    obtain ⟨later, earlier, rfl⟩ := List.append_of_mem hmem
    have hstopped := hr.one (newer ++ later) key scopeKey q
      (earlier ++ .began key scopeKey' p :: older) (by simpa using hh)
    rw [passRunning_of_not_ended earlier fun p' outcome hmem => hended p' outcome (by simp [hmem])]
      at hstopped
    cases hstopped
  have hnodup : (furtherPasses key (· == scopeKey) during newer).Nodup := by
    have hall := hr.once
    rw [hh] at hall
    simp only [beganPromises, List.append_assoc, List.filterMap_append] at hall
    exact ((List.nodup_append.mp hall).1).sublist (furtherPasses_sublist key _ during newer)
  have hsame : ∀ q ∈ furtherPasses key (· == scopeKey) during newer,
      .called key scopeKey q ∈ during := by
    intro q hq
    obtain ⟨scopeKey', hscope, hmem⟩ := mem_furtherPasses hq
    rwa [beq_iff_eq.mp hscope] at hmem
  cases hpasses : furtherPasses key (· == scopeKey) during newer with
  | nil => simp
  | cons q rest =>
    cases rest with
    | nil => simp
    | cons q' rest =>
      rw [hpasses] at hnodup hsame
      have hq := hsame q (by simp)
      have hq' := hsame q' (by simp)
      exact absurd (hr.same_promise hh hbegan hq hq') (by simp at hnodup; tauto)

/-! ## Every promise settles -/

variable {s s' : ReplayFlights Registry Deps Error} {f p n : ℕ}

/-- How many turns of the loop of `f` are left before the turn that settles `p`. -/
def Ahead (s : ReplayFlights Registry Deps Error) (f p : ℕ) : ℕ → Prop
  | 0 => ∃ flight scopeKey job, s.At f flight ∧ flight.runner = .replaying scopeKey job ∧
      job.promise = p
  | n + 1 => ∃ flight scopeKey job, s.At f flight ∧ flight.pending[n]? = some (scopeKey, job) ∧
      job.promise = p

/-- The loop of `f` has a turn left. -/
def Unfinished (s : ReplayFlights Registry Deps Error) (f : ℕ) : Prop :=
  ∃ flight, s.At f flight ∧ flight.runner ≠ .finished

/-- A promise that is not settled is so many turns of one loop away from it. -/
lemma Inv.exists_ahead (hi : s.Inv) (hp : s.promises[p]? = some none) : ∃ f n, s.Ahead f p n := by
  obtain ⟨key, scopeKey, job, hjob, ⟨f, flight, hf, -, hmem⟩ | ⟨f, flight, hf, -, hrun, -⟩⟩ :=
    hi.tracks.awaited p hp
  · obtain ⟨n, hn⟩ := List.getElem?_of_mem hmem
    exact ⟨f, n + 1, flight, scopeKey, job, hf, hn, hjob⟩
  · exact ⟨f, 0, flight, scopeKey, job, hf, hrun, hjob⟩

lemma Ahead.unfinished (hi : s.Inv) (h : s.Ahead f p n) : s.Unfinished f := by
  cases n with
  | zero =>
    obtain ⟨flight, scopeKey, job, hf, hrun, -⟩ := h
    exact ⟨flight, hf, by simp [hrun]⟩
  | succ n =>
    obtain ⟨flight, scopeKey, job, hf, hn, -⟩ := h
    refine ⟨flight, hf, fun hrun => ?_⟩
    simp [hi.wellFormed.ended f flight hf hrun] at hn

omit [DecidableEq Registry] in
/-- The loop stays where it is as long as its flight only gets jobs at the end. -/
lemma Ahead.frame (h : s.Ahead f p n)
    (hs' : ∀ flight, s.At f flight → ∃ more, s'.At f ⟨flight.key, flight.pending ++ more,
      flight.runner⟩) : s'.Ahead f p n := by
  cases n with
  | zero =>
    obtain ⟨flight, scopeKey, job, hf, hrun, hjob⟩ := h
    obtain ⟨more, hf'⟩ := hs' flight hf
    exact ⟨_, scopeKey, job, hf', hrun, hjob⟩
  | succ n =>
    obtain ⟨flight, scopeKey, job, hf, hn, hjob⟩ := h
    obtain ⟨more, hf'⟩ := hs' flight hf
    obtain ⟨hlt, -⟩ := List.getElem?_eq_some_iff.mp hn
    exact ⟨_, scopeKey, job, hf', (List.getElem?_append_left hlt).trans hn, hjob⟩

/-- A turn of another loop leaves a flight alone. -/
lemma at_turn {f' : ℕ} {flight flight' : ReplayFlight Registry Deps} (hf' : s.At f' flight')
    (hne : f ≠ f') (hf : s.At f flight) : (s.turn f' flight').At f flight := by
  unfold turn
  split
  · exact (at_modify hf').mpr (.inr ⟨hne, hf⟩)
  · exact (at_modify hf').mpr (.inr ⟨hne, hf⟩)

/-- Whatever is no turn of the loop leaves it where it is. -/
lemma Ahead.act_other (h : s.Ahead f p n) {a : ReplayAction Registry Deps Error}
    (ha : s.act a = some s') (hturn : ¬ a.Turns f) : s'.Ahead f p n := by
  refine h.frame fun flight hf => ?_
  rcases act_turns ha with ⟨key, scope, deps, rfl, rfl⟩ | ⟨f', flight', rfl, hf', -, rfl⟩ |
    ⟨f', flight', scopeKey, job, outcome, rfl, hf', -, rfl⟩
  · rcases s.deliverPendingToNode_cases key scope deps with
      ⟨_, _, job, -, -, heq⟩ | ⟨f', flight', hflight, -, heq⟩ | ⟨-, heq⟩ <;> rw [heq]
    · exact ⟨[], by simpa [join] using hf⟩
    · obtain ⟨-, hf'⟩ := flight?_eq_some.mp hflight
      by_cases hff : f = f'
      · subst hff
        obtain rfl : flight = flight' := Option.some.inj (hf.symm.trans hf')
        exact ⟨_, (at_modify hf).mpr (.inl ⟨rfl, rfl⟩)⟩
      · exact ⟨[], (at_modify hf').mpr (.inr ⟨hff, by simpa using hf⟩)⟩
    · exact ⟨[], at_append.mpr (.inl (by simpa using hf))⟩
  · have hkept := at_turn hf' (fun h => hturn h.symm) hf
    exact ⟨[], by simpa using hkept⟩
  · have hkept := at_turn (s := s.settle flight'.key job.promise outcome) hf'
      (fun h => hturn h.symm) hf
    exact ⟨[], by simpa using hkept⟩

/-- A turn brings the loop one job nearer. -/
lemma ahead_turn {flight : ReplayFlight Registry Deps} (hf : s.At f flight)
    (h : s.Ahead f p (n + 1)) : (s.turn f flight).Ahead f p n := by
  obtain ⟨flight', scopeKey, job, hf', hn, hjob⟩ := h
  obtain rfl : flight = flight' := Option.some.inj (hf.symm.trans hf')
  unfold turn
  split
  · next hp => simp [hp] at hn
  · next scopeKey' job' pending hp =>
    rw [hp] at hn
    cases n with
    | zero =>
      obtain ⟨rfl, rfl⟩ := Prod.mk.inj (Option.some.inj hn)
      exact ⟨_, scopeKey', job', (at_modify hf).mpr (.inl ⟨rfl, rfl⟩), rfl, hjob⟩
    | succ n => exact ⟨_, scopeKey, job, (at_modify hf).mpr (.inl ⟨rfl, rfl⟩), hn, hjob⟩

@[simp] lemma promises_turn (flight : ReplayFlight Registry Deps) :
    (s.turn f flight).promises = s.promises := by
  unfold turn
  split <;> rfl

/-- A turn of the loop settles the promise, or brings the loop one job nearer to it. -/
lemma Ahead.act_turn (h : s.Ahead f p n) (hi : s.Inv) {a : ReplayAction Registry Deps Error}
    (ha : s.act a = some s') (hturn : a.Turns f) :
    (∃ outcome, s'.promises[p]? = some (some outcome)) ∨ ∃ m, n = m + 1 ∧ s'.Ahead f p m := by
  rcases act_turns ha with ⟨key, scope, deps, rfl, -⟩ | ⟨f', flight, rfl, hf, hrun, rfl⟩ |
    ⟨f', flight, scopeKey, job, outcome, rfl, hf, hrun, rfl⟩
  · exact absurd hturn id
  · obtain rfl : f' = f := hturn
    cases n with
    | zero =>
      obtain ⟨flight', scopeKey, job, hf', hrun', -⟩ := h
      obtain rfl : flight = flight' := Option.some.inj (hf.symm.trans hf')
      cases hrun.symm.trans hrun'
    | succ n => exact .inr ⟨n, rfl, ahead_turn hf h⟩
  · obtain rfl : f' = f := hturn
    cases n with
    | zero =>
      obtain ⟨flight', scopeKey', job', hf', hrun', rfl⟩ := h
      obtain rfl : flight = flight' := Option.some.inj (hf.symm.trans hf')
      obtain ⟨rfl, rfl⟩ := Runner.replaying.inj (hrun.symm.trans hrun')
      have hself := hi.tracks.runs _ _ _ ⟨f', flight, hf, rfl, hrun, by simp⟩
      refine .inl ⟨outcome, ?_⟩
      simp only [promises_turn, settle]
      exact List.getElem?_set_self (hi.tracks.made _ _ _ hself.called)
    | succ n =>
      refine .inr ⟨n, rfl, ahead_turn (s := s.settle flight.key job.promise outcome) hf ?_⟩
      obtain ⟨flight', scopeKey', job', hf', hn, hjob⟩ := h
      exact ⟨flight', scopeKey', job', hf', hn, hjob⟩

/-- A run in which every loop that has a turn left takes one: its microtask is run, and the passes
it awaits end, one way or the other. -/
structure FairRun (Registry Deps Error : Type) [DecidableEq Registry] where
  state : ℕ → ReplayFlights Registry Deps Error
  action : ℕ → Option (ReplayAction Registry Deps Error)
  starts : state 0 = idle
  acts : ∀ n a, action n = some a → (state n).act a = some (state (n + 1))
  rests : ∀ n, action n = none → state (n + 1) = state n
  fair : ∀ n f, (state n).Unfinished f → ∃ m, n ≤ m ∧ ∃ a, action m = some a ∧ a.Turns f

namespace FairRun

variable (ρ : FairRun Registry Deps Error)

lemma reachable (n : ℕ) : (ρ.state n).Reachable := by
  induction n with
  | zero => exact ρ.starts ▸ .refl
  | succ n ih =>
    cases ha : ρ.action n with
    | none => exact ρ.rests n ha ▸ ih
    | some a => exact ih.tail ⟨a, ρ.acts n a ha⟩

/-- As long as the loop takes no turn it stays where it is. -/
lemma ahead_until {f p k n : ℕ} (h : (ρ.state n).Ahead f p k) (d : ℕ)
    (hnone : ∀ m, n ≤ m → m < n + d → ∀ a, ρ.action m = some a → ¬ a.Turns f) :
    (ρ.state (n + d)).Ahead f p k := by
  induction d with
  | zero => exact h
  | succ d ih =>
    have ih := ih fun m hm hlt => hnone m hm (by omega)
    cases ha : ρ.action (n + d) with
    | none => exact ρ.rests _ ha ▸ ih
    | some a => exact ih.act_other (ρ.acts _ a ha) (hnone _ (by omega) (by omega) a ha)

/-- The loop gets to every job it is to take. -/
lemma settles_of_ahead {f p k n : ℕ} (h : (ρ.state n).Ahead f p k) :
    ∃ m outcome, (ρ.state m).promises[p]? = some (some outcome) := by
  induction k using Nat.strong_induction_on generalizing n with
  | _ k ih =>
    classical
    have hturn := ρ.fair n f (h.unfinished (inv_of_reachable (ρ.reachable n)))
    -- the first turn the loop takes from here
    obtain ⟨hle, a, ha, hfirst⟩ := Nat.find_spec hturn
    have hbefore : ∀ m, n ≤ m → m < Nat.find hturn → ∀ a, ρ.action m = some a → ¬ a.Turns f :=
      fun m hm hlt a ha hturns => Nat.find_min hturn hlt ⟨hm, a, ha, hturns⟩
    obtain ⟨d, hd⟩ := Nat.exists_eq_add_of_le hle
    rw [hd] at ha hbefore
    have hahead := ρ.ahead_until h d hbefore
    rcases hahead.act_turn (inv_of_reachable (ρ.reachable _)) (ρ.acts _ a ha) hfirst with
      ⟨outcome, hout⟩ | ⟨j, rfl, hnext⟩
    · exact ⟨_, outcome, hout⟩
    · exact ih j (Nat.lt_succ_self j) hnext

lemma settles {n p : ℕ} {key : ReplayKey Registry} {scopeKey : ScopeKey}
    (h : .called key scopeKey p ∈ (ρ.state n).history) :
    ∃ m outcome, (ρ.state m).promises[p]? = some (some outcome) := by
  have hi := inv_of_reachable (ρ.reachable n)
  have hlt := hi.tracks.made _ _ _ h
  cases hp : (ρ.state n).promises[p] with
  | none =>
    obtain ⟨f, k, hahead⟩ := hi.exists_ahead (List.getElem?_eq_some_iff.mpr ⟨hlt, hp⟩)
    exact ρ.settles_of_ahead hahead
  | some outcome => exact ⟨n, outcome, List.getElem?_eq_some_iff.mpr ⟨hlt, hp⟩⟩

end FairRun

/-- The event of a call records the promise it returned. -/
lemma history_deliverPendingToNode (s : ReplayFlights Registry Deps Error)
    (key : ReplayKey Registry) (scope : NodeDeliveryReplayScope) (deps : Option Deps) :
    (s.deliverPendingToNode key scope deps).2.history =
      .called key scope.scopeKey (s.deliverPendingToNode key scope deps).1 :: s.history := by
  unfold deliverPendingToNode
  dsimp only
  split
  · rfl
  · split <;> rfl

/-- A key whose calls are all settled has no entry. -/
lemma Inv.idle_key (hi : s.Inv) {key : ReplayKey Registry}
    (hsettled : ∀ scopeKey p, .called key scopeKey p ∈ s.history →
      ∃ outcome, s.promises[p]? = some (some outcome)) : s.flights key = none := by
  by_contra hentry
  obtain ⟨f, hentry⟩ := Option.ne_none_iff_exists'.mp hentry
  obtain ⟨flight, hf, rfl, hlive⟩ := (hi.wellFormed.entry key f).mp hentry
  cases hrun : flight.runner with
  | queued =>
    obtain ⟨⟨scopeKey, job⟩, hmem⟩ := List.exists_mem_of_ne_nil _
      (hi.wellFormed.queued f flight hf hrun (by simp))
    have hwait := hi.tracks.waits _ _ _ ⟨f, flight, hf, rfl, hmem⟩
    obtain ⟨outcome, hout⟩ := hsettled _ _ hwait.called
    simp [hwait.unsettled] at hout
  | replaying scopeKey job =>
    have hrunning := hi.tracks.runs _ _ _ ⟨f, flight, hf, rfl, hrun, by simp⟩
    obtain ⟨outcome, hout⟩ := hsettled _ _ hrunning.called
    simp [hrunning.unsettled] at hout
  | finished => exact hlive hrun

/-- **No trigger is lost.**  In every run, a promise that is settled has the outcome of a pass of
the key of its calls that started and ended after each of them, the passes of a key do not
overlap, the calls of one scope made while a pass runs start at most one further pass, and a key
all of whose calls are settled has no entry.  In a run whose loops take the turns they have left,
the promise of every call settles. -/
theorem replay_loses_no_trigger :
    (∀ s : ReplayFlights Registry Deps Error, s.Reachable →
      (∀ p outcome, s.promises[p]? = some (some outcome) → SettledByPass s.history p outcome) ∧
      OnePassAtATime s.history ∧
      (∀ scopeKey, CoalescesCalls (· == scopeKey) s.history) ∧
      ∀ key, (∀ scopeKey p, .called key scopeKey p ∈ s.history →
        ∃ outcome, s.promises[p]? = some (some outcome)) → s.flights key = none) ∧
    ∀ ρ : FairRun Registry Deps Error, ∀ n key scopeKey p,
      .called key scopeKey p ∈ (ρ.state n).history →
        ∃ m outcome, (ρ.state m).promises[p]? = some (some outcome) := by
  refine ⟨fun s hs => ?_, fun ρ n key scopeKey p hcalled => ρ.settles hcalled⟩
  have hi := inv_of_reachable hs
  exact ⟨hi.tracks.settled, hi.recorded.one, hi.recorded.coalesces, fun key => hi.idle_key⟩

/-! ## Runs on fixed inputs -/

/-- One action after the other; `none` once one cannot happen. -/
def play (s : ReplayFlights Registry Deps Error) :
    List (ReplayAction Registry Deps Error) → Option (ReplayFlights Registry Deps Error)
  | [] => some s
  | a :: as => (s.act a).bind fun s' => s'.play as

lemma reachable_of_play {as : List (ReplayAction Registry Deps Error)} (hs : s.Reachable)
    (h : s.play as = some s') : s'.Reachable := by
  induction as generalizing s with
  | nil => exact Option.some.inj h ▸ hs
  | cons a as ih =>
    obtain ⟨s'', ha, h⟩ := Option.bind_eq_some_iff.mp h
    exact ih (hs.tail ⟨a, ha⟩) h

/-- A key, and the scope of one provider connection. -/
def nodeKey : ReplayKey Unit := ⟨(), "workspace", "node"⟩

def providerScope (name : String) : NodeDeliveryReplayScope := ⟨some name, none⟩

/-- One call and its pass. -/
def soloActions : List (ReplayAction Unit Unit Unit) :=
  [.deliver nodeKey (providerScope "broker") none, .start 0, .finish 0 (.ok 3)]

lemma soloActions_take (n : ℕ) : soloActions.take (n + 3) = soloActions :=
  List.take_of_length_le (by simp [soloActions])

/-- The run of one call, at rest once its pass is over. -/
def soloRun : FairRun Unit Unit Unit where
  state n := (idle.play (soloActions.take n)).getD idle
  action n := soloActions[n]?
  starts := rfl
  acts n a ha := by
    match n, ha with
    | 0, ha | 1, ha | 2, ha =>
      obtain rfl := Option.some.inj ha
      rfl
    | n + 3, ha => simp [soloActions] at ha
  rests n hn := by
    match n, hn with
    | n + 3, _ => rw [soloActions_take n, show n + 3 + 1 = n + 1 + 3 by rfl, soloActions_take]
  fair n f hf := by
    obtain ⟨flight, hflight, hlive⟩ := hf
    match n, hflight with
    | 0, hflight => simp [play, idle, At] at hflight
    | 1, hflight | 2, hflight =>
      refine ⟨2, by omega, _, rfl, ?_⟩
      cases f with
      | zero => rfl
      | succ f => cases hflight
    | n + 3, hflight =>
      rw [soloActions_take] at hflight
      cases f with
      | zero =>
        obtain rfl := Option.some.inj hflight
        exact absurd rfl hlive
      | succ f => cases hflight

/-- The call of that run has its promise settled, and leaves no entry. -/
theorem replay_loses_no_trigger_solo :
    SettledByPass (soloRun.state 3).history 0 (.ok 3) ∧
      (soloRun.state 3).flights nodeKey = none ∧
      ∃ m outcome, (soloRun.state m).promises[0]? = some (some outcome) := by
  have h := @replay_loses_no_trigger Unit Unit Unit _
  obtain ⟨hsettled, -, -, hidle⟩ := h.1 (soloRun.state 3) (soloRun.reachable 3)
  refine ⟨hsettled 0 (.ok 3) rfl, hidle nodeKey fun scopeKey p hcalled => ?_, ?_⟩
  · obtain rfl : p = 0 := by
      have : p < 1 := (inv_of_reachable (soloRun.reachable 3)).tracks.made _ _ _ hcalled
      omega
    exact ⟨.ok 3, rfl⟩
  · exact h.2 soloRun 3 nodeKey (some "broker", none) 0
      (.tail _ (.tail _ (.head _)))

/-- Two calls for different providers while a pass runs start a pass each. -/
theorem scopes_start_separate_passes :
    ¬ ∀ s : ReplayFlights Unit Unit Unit, s.Reachable →
      CoalescesCalls (fun _ => true) s.history := by
  intro h
  have hrun : (idle.play
      [.deliver nodeKey (providerScope "broker") none, .start 0,
        .deliver nodeKey (providerScope "left") none,
        .deliver nodeKey (providerScope "right") none,
        .finish 0 (.ok 1), .finish 0 (.ok 2)]).map
        (fun s : ReplayFlights Unit Unit Unit => s.history) =
      some [.began nodeKey (some "right", none) 2, .ended nodeKey 1 (.ok 2),
        .began nodeKey (some "left", none) 1, .ended nodeKey 0 (.ok 1),
        .called nodeKey (some "right", none) 2, .called nodeKey (some "left", none) 1,
        .began nodeKey (some "broker", none) 0,
        .called nodeKey (some "broker", none) (0 : ℕ)] := rfl
  obtain ⟨s, hs, hhistory⟩ := Option.map_eq_some_iff.mp hrun
  have hone := h s (reachable_of_play .refl hs) nodeKey
    [.began nodeKey (some "right", none) 2, .ended nodeKey 1 (.ok 2),
      .began nodeKey (some "left", none) 1, .ended nodeKey 0 (.ok 1)]
    [.called nodeKey (some "right", none) 2, .called nodeKey (some "left", none) 1]
    _ _ _ hhistory (by simp)
  revert hone
  decide

end ReplayFlights

end Delivery
