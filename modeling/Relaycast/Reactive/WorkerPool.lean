import Mathlib.Data.List.Nodup
import Mathlib.Data.List.Perm.Subperm
import Mathlib.Data.List.ReduceOption
import Mathlib.Order.Nat
import Relaycast.Reactive.Run

/-!
# Pools of workers that share a cursor

A search goes through the indexes below a size and keeps what it finds at each.  Some indexes are
decided at once; at the others a question has to be asked, whose answer comes later.  The search may
stop once a given number has been found.

A pool of workers shares one cursor, one list of what was found and one count of it.  A worker takes
the index under the cursor, decides it or asks its question and waits, and goes on to the next when
it has its answer; it ends when no index is left or enough was found.  Since the answers come in any
order, an index may have been decided while one before it is still open.  But a worker that waits
has not ended, so that, when all have, every index below the cursor has been decided, and the cursor
is at the end or beyond the last index that counts (`takeFirst_found_of_ended`).
-/

namespace Reactive

variable {β : Type}

/-- What is looked through, and what is found at each index. -/
structure Search (β : Type) where
  size : ℕ
  /-- How many are wanted; all without one. -/
  limit : Option ℕ
  /-- What an index gives that is decided at once; it is asked about if this is none. -/
  atOnce : ℕ → Option β
  /-- What the answer for an index gives; none if it is not wanted. -/
  answer : ℕ → Option β

/-- The first `n` items; all without an `n`. -/
def takeFirst {α : Type} : Option ℕ → List α → List α
  | none, items => items
  | some n, items => items.take n

namespace Search

variable (s : Search β)

/-- Enough was found. -/
def enough (matched : ℕ) : Bool := s.limit.any (· ≤ matched)

def outcome (i : ℕ) : Option β := (s.atOnce i).or (s.answer i)

/-- What a search one index at a time finds among the indexes after it has found so many: the
question at an index is asked when all before it are decided. -/
def oneAtATime : List ℕ → ℕ → List β
  | [], _ => []
  | i :: is, matched =>
    if s.enough matched then []
    else
      match s.outcome i with
      | some b => b :: oneAtATime is (matched + 1)
      | none => oneAtATime is matched

end Search

/-- A question that was asked. -/
structure Probe where
  index : ℕ
  /-- How many had been found by then. -/
  matched : ℕ
  deriving DecidableEq

/-- What the workers share. -/
structure Cursor (β : Type) where
  next : ℕ
  matched : ℕ
  /-- What was found at each index. -/
  found : List (Option β)
  /-- The questions asked so far, in order. -/
  probes : List Probe
  deriving DecidableEq

/-- The workers, each with the index whose answer it waits for; none if it has ended. -/
structure Pool (β : Type) where
  cursor : Cursor β
  workers : List (Option ℕ)
  deriving DecidableEq

namespace Search

variable (s : Search β)

/-- What a worker does up to its next question, and the index it then waits for: the rounds of its
loop, at most the first argument. -/
def advance : ℕ → Cursor β → Cursor β × Option ℕ
  | 0, c => (c, none)
  | rounds + 1, c =>
    if c.next < s.size ∧ s.enough c.matched = false then
      match s.atOnce c.next with
      | some b =>
        advance rounds
          { c with next := c.next + 1
                   found := c.found.set c.next (some b)
                   matched := c.matched + 1 }
      | none =>
        ({ c with next := c.next + 1, probes := c.probes ++ [⟨c.next, c.matched⟩] }, some c.next)
    else (c, none)

/-- A worker goes on.  Every round moves the cursor, so there are no more than indexes are left. -/
def resume (c : Cursor β) : Cursor β × Option ℕ := s.advance (s.size - c.next) c

/-- The answer for an index. -/
def answered (i : ℕ) (c : Cursor β) : Cursor β :=
  { c with found := c.found.set i (s.answer i)
           matched := if (s.answer i).isSome then c.matched + 1 else c.matched }

@[simp] lemma answered_next (i : ℕ) (c : Cursor β) : (s.answered i c).next = c.next := rfl

lemma le_answered_matched (i : ℕ) (c : Cursor β) : c.matched ≤ (s.answered i c).matched := by
  simp only [answered]
  split <;> omega

/-- So many workers have started, one after the other. -/
def started : ℕ → Pool β
  | 0 => ⟨⟨0, 0, List.replicate s.size none, []⟩, []⟩
  | n + 1 =>
    let p := started n
    let (c, waits) := s.resume p.cursor
    ⟨c, p.workers ++ [waits]⟩

/-- Worker `k` has its answer. -/
def step (p : Pool β) (k : ℕ) : Option (Pool β) := do
  let i ← (← p.workers[k]?)
  let (c, waits) := s.resume (s.answered i p.cursor)
  return ⟨c, p.workers.set k waits⟩

end Search

/-- The indexes whose answers are waited for. -/
def Pool.waiting (p : Pool β) : List ℕ := p.workers.reduceOption

/-- All workers have ended. -/
def Pool.ended (p : Pool β) : Bool := p.workers.all Option.isNone

/-! ## What one index at a time finds -/

namespace Search

variable {s : Search β}

lemma oneAtATime_eq (is : List ℕ) (matched : ℕ) :
    s.oneAtATime is matched =
      takeFirst (s.limit.map (· - matched)) (is.filterMap s.outcome) := by
  induction is generalizing matched with
  | nil => cases s.limit <;> simp [oneAtATime, takeFirst]
  | cons i is ih =>
    unfold oneAtATime
    cases hlimit : s.limit with
    | none =>
      cases hi : s.outcome i <;> simp [enough, hlimit, hi, ih, takeFirst]
    | some n =>
      by_cases hn : n ≤ matched
      · simp [enough, hlimit, hn, takeFirst]
      · obtain ⟨m, hm⟩ : ∃ m, n - matched = m + 1 := ⟨n - matched - 1, by omega⟩
        have hm' : n - (matched + 1) = m := by omega
        cases hi : s.outcome i <;> simp [enough, hlimit, hn, hi, ih, takeFirst, hm, hm']

/-! ## The invariant -/

/-- What holds of the cursor while the answers for the indexes `waiting` are waited for. -/
structure Sound (s : Search β) (c : Cursor β) (waiting : List ℕ) : Prop where
  next_le : c.next ≤ s.size
  /-- What is waited for is behind the cursor, was asked once, and was not decided at once. -/
  waiting_lt : ∀ i ∈ waiting, i < c.next
  nodup : waiting.Nodup
  asked : ∀ i ∈ waiting, s.atOnce i = none
  /-- Behind the cursor all else is decided. -/
  found_eq : c.found = (List.range s.size).map fun i =>
    if i < c.next ∧ i ∉ waiting then s.outcome i else none
  matched_eq : c.matched = c.found.countP Option.isSome
  /-- No question was asked when enough had been found, or about an index decided at once. -/
  probes : ∀ probe ∈ c.probes, s.enough probe.matched = false ∧ s.atOnce probe.index = none
  /-- The questions were about different indexes behind the cursor. -/
  probes_nodup : (c.probes.map Probe.index).Nodup
  probes_lt : ∀ probe ∈ c.probes, probe.index < c.next

variable {c c' : Cursor β} {waiting waiting' : List ℕ}

lemma Sound.perm (h : Sound s c waiting) (hperm : waiting.Perm waiting') : Sound s c waiting' where
  next_le := h.next_le
  waiting_lt i hi := h.waiting_lt i (hperm.mem_iff.mpr hi)
  nodup := hperm.nodup_iff.mp h.nodup
  asked i hi := h.asked i (hperm.mem_iff.mpr hi)
  found_eq := by simpa only [hperm.mem_iff] using h.found_eq
  matched_eq := h.matched_eq
  probes := h.probes
  probes_nodup := h.probes_nodup
  probes_lt := h.probes_lt

lemma sound_start : Sound s ⟨0, 0, List.replicate s.size none, []⟩ [] where
  next_le := Nat.zero_le _
  waiting_lt := by simp
  nodup := List.nodup_nil
  asked := by simp
  found_eq := by simp [List.map_const']
  matched_eq := by simp [List.countP_replicate]
  probes := by simp
  probes_nodup := List.nodup_nil
  probes_lt := by simp

/-- A list over the indexes with one entry replaced. -/
lemma set_map_range {α : Type} (n i : ℕ) (f : ℕ → α) (a : α) :
    ((List.range n).map f).set i a = (List.range n).map fun j => if j = i then a else f j := by
  refine List.ext_getElem (by simp) fun j hj _ => ?_
  by_cases hji : i = j <;> simp [hji, eq_comm]

lemma length_found (h : Sound s c waiting) : c.found.length = s.size := by
  simp [h.found_eq]

/-- What was found with the entry at an open index set. -/
lemma countP_set_found (h : Sound s c waiting) {i : ℕ} (hi : i < s.size)
    (hopen : ¬ (i < c.next ∧ i ∉ waiting)) (found : Option β) :
    (c.found.set i found).countP Option.isSome = c.matched + if found.isSome then 1 else 0 := by
  have hlength : i < c.found.length := by simpa [length_found h] using hi
  have hnone : c.found[i] = none := by simp [h.found_eq, hopen]
  rw [List.countP_set hlength, hnone, ← h.matched_eq]
  simp

/-- The index under the cursor is decided at once. -/
lemma Sound.decide (h : Sound s c waiting) (hnext : c.next < s.size) {b : β}
    (hb : s.atOnce c.next = some b) :
    Sound s { c with next := c.next + 1
                     found := c.found.set c.next (some b)
                     matched := c.matched + 1 } waiting where
  next_le := hnext
  waiting_lt i hi := Nat.lt_succ_of_lt (h.waiting_lt i hi)
  nodup := h.nodup
  asked := h.asked
  found_eq := by
    have hwaits : c.next ∉ waiting := fun hin => absurd (h.waiting_lt _ hin) (lt_irrefl _)
    simp only
    rw [h.found_eq, set_map_range]
    refine List.map_congr_left fun i _ => ?_
    by_cases hi : i = c.next
    · subst hi
      simp [hwaits, outcome, hb]
    · have hlt : i < c.next + 1 ↔ i < c.next := by omega
      simp only [hi, hlt, if_false]
  matched_eq := by simpa using (countP_set_found h hnext (by simp) (some b)).symm
  probes := h.probes
  probes_nodup := h.probes_nodup
  probes_lt probe hprobe := Nat.lt_succ_of_lt (h.probes_lt probe hprobe)

/-- The question at the index under the cursor is asked. -/
lemma Sound.ask (h : Sound s c waiting) (hnext : c.next < s.size)
    (hmore : s.enough c.matched = false) (hnone : s.atOnce c.next = none) :
    Sound s { c with next := c.next + 1, probes := c.probes ++ [⟨c.next, c.matched⟩] }
      (c.next :: waiting) where
  next_le := hnext
  waiting_lt := List.forall_mem_cons.mpr
    ⟨Nat.lt_succ_self _, fun i hi => Nat.lt_succ_of_lt (h.waiting_lt i hi)⟩
  nodup := List.nodup_cons.mpr ⟨fun hin => absurd (h.waiting_lt _ hin) (lt_irrefl _), h.nodup⟩
  asked := List.forall_mem_cons.mpr ⟨hnone, h.asked⟩
  found_eq := by
    simp only
    rw [h.found_eq]
    refine List.map_congr_left fun i _ => if_congr ?_ rfl rfl
    rw [List.mem_cons, not_or]
    constructor
    · rintro ⟨hi, hin⟩
      exact ⟨by omega, by omega, hin⟩
    · rintro ⟨hi, hne, hin⟩
      exact ⟨by omega, hin⟩
  matched_eq := h.matched_eq
  probes := by
    intro probe hprobe
    rcases List.mem_append.mp hprobe with hold | hnew
    · exact h.probes probe hold
    · obtain rfl := List.mem_singleton.mp hnew
      exact ⟨hmore, hnone⟩
  probes_nodup := by
    rw [List.map_append, List.nodup_append]
    refine ⟨h.probes_nodup, List.nodup_singleton _, fun i hi j hj => ?_⟩
    obtain ⟨probe, hprobe, rfl⟩ := List.mem_map.mp hi
    obtain rfl := List.mem_singleton.mp hj
    exact (h.probes_lt probe hprobe).ne
  probes_lt := by
    intro probe hprobe
    rcases List.mem_append.mp hprobe with hold | hnew
    · exact Nat.lt_succ_of_lt (h.probes_lt probe hold)
    · obtain rfl := List.mem_singleton.mp hnew
      exact Nat.lt_succ_self _

/-- An answer has come. -/
lemma Sound.answered {i : ℕ} (h : Sound s c (i :: waiting)) :
    Sound s (s.answered i c) waiting where
  next_le := h.next_le
  waiting_lt := (List.forall_mem_cons.mp h.waiting_lt).2
  nodup := h.nodup.of_cons
  asked := (List.forall_mem_cons.mp h.asked).2
  found_eq := by
    have hi : i < c.next := h.waiting_lt i List.mem_cons_self
    have hin : i ∉ waiting := (List.nodup_cons.mp h.nodup).1
    simp only [Search.answered]
    rw [h.found_eq, set_map_range]
    refine List.map_congr_left fun j _ => ?_
    by_cases hj : j = i
    · subst hj
      simp [hi, hin, outcome, h.asked j List.mem_cons_self]
    · rw [if_neg hj]
      exact if_congr (by simp [hj]) rfl rfl
  matched_eq := by
    have hi : i < c.next := h.waiting_lt i List.mem_cons_self
    have hcount := countP_set_found h (hi.trans_le h.next_le) 
      (fun hin => hin.2 List.mem_cons_self) (s.answer i)
    simp only [Search.answered, hcount]
    split <;> rfl
  probes := h.probes
  probes_nodup := h.probes_nodup
  probes_lt := h.probes_lt

/-! ## A worker's loop -/

/-- No worker starts anything any more. -/
def Done (s : Search β) (c : Cursor β) : Prop := c.next = s.size ∨ s.enough c.matched = true

lemma enough_mono {n m : ℕ} (h : n ≤ m) (hn : s.enough n = true) : s.enough m = true := by
  unfold enough at hn ⊢
  cases hlimit : s.limit with
  | none => simp [hlimit] at hn
  | some l =>
    simp only [hlimit, Option.any_some, decide_eq_true_eq] at hn ⊢
    exact hn.trans h

/-- What a worker leaves when it waits or has ended. -/
structure Advanced (s : Search β) (c c' : Cursor β) (waits : Option ℕ) (waiting : List ℕ) :
    Prop where
  sound : Sound s c' (waits.toList ++ waiting)
  matched_le : c.matched ≤ c'.matched
  /-- The cursor has moved for a question. -/
  next_le : c.next + waits.toList.length ≤ c'.next
  done : waits = none → Done s c'

lemma Sound.advance (h : Sound s c waiting) {rounds : ℕ} (hrounds : s.size ≤ c.next + rounds) :
    Advanced s c (s.advance rounds c).1 (s.advance rounds c).2 waiting := by
  induction rounds generalizing c with
  | zero => exact ⟨h, le_rfl, le_rfl, fun _ => .inl (le_antisymm h.next_le hrounds)⟩
  | succ rounds ih =>
    unfold Search.advance
    split
    · rename_i hgo
      split
      · rename_i b hb
        obtain ⟨hsound, hmatched, hnext, hdone⟩ := ih (h.decide hgo.1 hb) (by simp only; omega)
        simp only at hmatched hnext
        exact ⟨hsound, by omega, by omega, hdone⟩
      · rename_i hnone
        exact ⟨h.ask hgo.1 hgo.2 hnone, le_rfl, le_rfl, nofun⟩
    · rename_i hstop
      refine ⟨h, le_rfl, le_rfl, fun _ => ?_⟩
      by_cases hlt : c.next < s.size
      · exact .inr (by simpa [hlt] using hstop)
      · exact .inl (le_antisymm h.next_le (not_lt.mp hlt))

lemma Sound.resume (h : Sound s c waiting) :
    Advanced s c (s.resume c).1 (s.resume c).2 waiting :=
  h.advance (by omega)

/-- The loop as it is written: another round while there is an index left and not enough was
found. -/
lemma resume_eq (s : Search β) (c : Cursor β) : s.resume c =
    if c.next < s.size ∧ s.enough c.matched = false then
      match s.atOnce c.next with
      | some b =>
        s.resume
          { c with next := c.next + 1
                   found := c.found.set c.next (some b)
                   matched := c.matched + 1 }
      | none =>
        ({ c with next := c.next + 1, probes := c.probes ++ [⟨c.next, c.matched⟩] }, some c.next)
    else (c, none) := by
  unfold Search.resume
  by_cases hlt : c.next < s.size
  · obtain ⟨rounds, hrounds⟩ : ∃ rounds, s.size - c.next = rounds + 1 :=
      ⟨s.size - c.next - 1, by omega⟩
    have hrest : s.size - (c.next + 1) = rounds := by omega
    rw [hrounds, Search.advance]
    simp only [hrest]
  · rw [Nat.sub_eq_zero_of_le (not_lt.mp hlt), Search.advance, if_neg fun hgo => hlt hgo.1]

/-! ## The pool -/

/-- What holds of a pool of at most so many workers. -/
structure PoolSound (s : Search β) (width : ℕ) (p : Pool β) : Prop where
  sound : Sound s p.cursor p.waiting
  width : p.workers.length = width
  done : none ∈ p.workers → Done s p.cursor

variable {p p' : Pool β}

lemma Done.mono (h : Done s c) (hsound : Sound s c' waiting) (hnext : c.next ≤ c'.next)
    (hmatched : c.matched ≤ c'.matched) : Done s c' := by
  rcases h with hend | henough
  · exact .inl (by have := hsound.next_le; omega)
  · exact .inr (enough_mono hmatched henough)

lemma poolSound_started (n : ℕ) : PoolSound s n (s.started n) := by
  induction n with
  | zero => exact ⟨sound_start, rfl, nofun⟩
  | succ n ih =>
    have hsound := ih.sound.resume
    refine ⟨hsound.sound.perm ?_, ?_, fun hnone => ?_⟩
    · simp only [Pool.waiting, started, List.reduceOption_append]
      cases (s.resume (s.started n).cursor).2 with
      | none => simp [List.reduceOption]
      | some i =>
        simpa [List.reduceOption] using (List.perm_append_singleton i _).symm
    · simp [started, ih.width]
    · rcases List.mem_append.mp hnone with hold | hnew
      · exact (ih.done hold).mono hsound.sound ((Nat.le_add_right _ _).trans hsound.next_le)
          hsound.matched_le
      · exact hsound.done (List.mem_singleton.mp hnew).symm

/-- What an answer does: a worker that waited goes on. -/
lemma step_eq_some {k : ℕ} : s.step p k = some p' ↔ ∃ i, p.workers[k]? = some (some i) ∧
    p' = ⟨(s.resume (s.answered i p.cursor)).1,
      p.workers.set k (s.resume (s.answered i p.cursor)).2⟩ := by
  simp only [Search.step, Option.bind_eq_bind, Option.bind_eq_some_iff, Option.pure_def,
    Option.some.injEq]
  constructor
  · rintro ⟨_, hk, i, rfl, rfl⟩
    exact ⟨i, hk, rfl⟩
  · rintro ⟨i, hk, rfl⟩
    exact ⟨some i, hk, i, rfl, rfl⟩

/-- The workers around one of them. -/
lemma waiting_set {workers : List (Option ℕ)} {k i : ℕ} (hk : workers[k]? = some (some i)) :
    ∃ others : List ℕ, workers.reduceOption.Perm (i :: others) ∧
      ∀ waits : Option ℕ, (workers.set k waits).reduceOption.Perm (waits.toList ++ others) := by
  obtain ⟨hlt, hget⟩ := List.getElem?_eq_some_iff.mp hk
  have hset : ∀ waits, workers.set k waits =
      workers.take k ++ waits :: workers.drop (k + 1) := fun waits => by
    rw [List.set_eq_take_append_cons_drop, if_pos hlt]
  have hperm : ∀ waits : Option ℕ, (workers.set k waits).reduceOption.Perm
      (waits.toList ++ ((workers.take k).reduceOption ++ (workers.drop (k + 1)).reduceOption)) := by
    intro waits
    rw [hset, List.reduceOption_append]
    cases waits with
    | none => simp
    | some j => simp
  refine ⟨_, ?_, hperm⟩
  have hself : workers.set k (some i) = workers := by rw [← hget, List.set_getElem_self]
  simpa [hself] using hperm (some i)

/-- How many indexes are still to be decided. -/
def undecided (s : Search β) (p : Pool β) : ℕ := s.size - p.cursor.next + p.waiting.length

/-- What one answer keeps. -/
lemma PoolSound.step {width k : ℕ} (h : PoolSound s width p) (hstep : s.step p k = some p') :
    PoolSound s width p' ∧ s.undecided p' + 1 ≤ s.undecided p := by
  obtain ⟨i, hk, rfl⟩ := step_eq_some.mp hstep
  obtain ⟨others, hbefore, hafter⟩ := waiting_set hk
  have hanswered := (h.sound.perm hbefore).answered
  have hresume := hanswered.resume
  have hperm := hafter (s.resume (s.answered i p.cursor)).2
  refine ⟨⟨hresume.sound.perm hperm.symm, by simp [h.width], fun hnone => ?_⟩, ?_⟩
  · rcases List.mem_or_eq_of_mem_set hnone with hold | hnew
    · exact (h.done hold).mono hresume.sound ((Nat.le_add_right _ _).trans hresume.next_le)
        ((s.le_answered_matched i p.cursor).trans hresume.matched_le)
    · exact hresume.done hnew.symm
  · have hlength := hperm.length_eq
    have hlength' := hbefore.length_eq
    have hnext := hresume.next_le
    have hsize := hresume.sound.next_le
    simp only [List.length_append, List.length_cons, answered_next] at hlength hlength' hnext
    simp only [undecided, Pool.waiting, hlength, hlength']
    omega

/-- What holds after any answers, in any order. -/
lemma poolSound_of_run {width : ℕ} {ks : List ℕ} (h : PoolSound s width p)
    (hrun : run s.step p ks = some p') :
    PoolSound s width p' ∧ ks.length + s.undecided p' ≤ s.undecided p := by
  induction ks generalizing p with
  | nil =>
    obtain rfl := Option.some.inj hrun
    exact ⟨h, by simp⟩
  | cons k ks ih =>
    obtain ⟨p₁, hfirst, hrest⟩ := run_cons.mp hrun
    obtain ⟨hsound, hfewer⟩ := h.step hfirst
    obtain ⟨hsound', hfewer'⟩ := ih hsound hrest
    exact ⟨hsound', by simp only [List.length_cons]; omega⟩

/-- No more answers are waited for than there are workers. -/
lemma PoolSound.length_waiting_le {width : ℕ} (h : PoolSound s width p) : p.waiting.length ≤ width :=
  h.width ▸ List.reduceOption_length_le p.workers

/-- There are no more answers than indexes. -/
theorem length_le_size {width : ℕ} {ks : List ℕ} (hrun : run s.step (s.started width) ks = some p) :
    ks.length ≤ s.size := by
  have hstart := (poolSound_started (s := s) width).sound
  obtain ⟨-, hfewer⟩ := poolSound_of_run (poolSound_started width) hrun
  have hbehind : (s.started width).waiting.length ≤ (s.started width).cursor.next := by
    simpa using (List.subperm_of_subset hstart.nodup fun i hi =>
      List.mem_range.mpr (hstart.waiting_lt i hi)).length_le
  have hnext := hstart.next_le
  simp only [undecided] at hfewer
  omega

/-- As long as not all workers have ended, one can be answered. -/
theorem exists_step_of_not_ended (h : p.ended = false) : ∃ k, (s.step p k).isSome = true := by
  obtain ⟨waits, hmem, hwaits⟩ : ∃ waits ∈ p.workers, waits ≠ none := by
    simpa [Pool.ended] using h
  obtain ⟨k, hk⟩ := List.mem_iff_getElem?.mp hmem
  obtain ⟨i, rfl⟩ := Option.ne_none_iff_exists'.mp hwaits
  exact ⟨k, by simp [Search.step, hk]⟩

lemma waiting_eq_nil_of_ended (h : p.ended = true) : p.waiting = [] := by
  refine List.filterMap_eq_nil_iff.mpr fun waits hmem => ?_
  simpa using List.all_eq_true.mp h waits hmem

lemma PoolSound.done_of_ended {width : ℕ} (h : PoolSound s width p)
    (hwidth : 0 < s.size → 0 < width) (hended : p.ended = true) : Done s p.cursor := by
  cases hworkers : p.workers with
  | nil =>
    have hzero : width = 0 := by rw [← h.width, hworkers, List.length_nil]
    have hnext := h.sound.next_le
    exact .inl (by omega)
  | cons waits rest =>
    have hmem : waits ∈ p.workers := hworkers ▸ List.mem_cons_self
    obtain rfl : waits = none := by simpa using List.all_eq_true.mp hended waits hmem
    exact h.done hmem

/-- With nothing open, what was found is what the indexes behind the cursor give. -/
lemma found_eq_of_waiting_nil (h : Sound s c waiting) (hnil : waiting = []) :
    c.found.reduceOption = (List.range c.next).filterMap s.outcome := by
  subst hnil
  obtain ⟨rest, hrest⟩ : ∃ rest, s.size = c.next + rest :=
    ⟨s.size - c.next, by have := h.next_le; omega⟩
  rw [h.found_eq, List.reduceOption, List.filterMap_map, hrest, List.range_add,
    List.filterMap_append]
  have hbehind : (List.range c.next).filterMap
      (id ∘ fun i => if i < c.next ∧ i ∉ [] then s.outcome i else none) =
      (List.range c.next).filterMap s.outcome :=
    List.filterMap_congr fun i hi => by simp [List.mem_range.mp hi]
  have hbeyond : ((List.range rest).map (c.next + ·)).filterMap
      (id ∘ fun i => if i < c.next ∧ i ∉ [] then s.outcome i else none) = [] := by
    refine List.filterMap_eq_nil_iff.mpr fun i hi => ?_
    obtain ⟨j, -, rfl⟩ := List.mem_map.mp hi
    simp only [Function.comp_apply, id]
    rw [if_neg (by omega)]
  rw [hbehind, hbeyond, List.append_nil]

/-- **What a pool has found when all its workers have ended, up to the number that is wanted, is
what a search one index at a time finds.** -/
theorem takeFirst_found_of_ended {width : ℕ} {ks : List ℕ} (hwidth : 0 < s.size → 0 < width)
    (hrun : run s.step (s.started width) ks = some p) (hended : p.ended = true) :
    takeFirst s.limit p.cursor.found.reduceOption = s.oneAtATime (List.range s.size) 0 := by
  obtain ⟨h, -⟩ := poolSound_of_run (poolSound_started width) hrun
  have hnil := waiting_eq_nil_of_ended hended
  obtain ⟨rest, hrest⟩ : ∃ rest, s.size = p.cursor.next + rest :=
    ⟨s.size - p.cursor.next, by have := h.sound.next_le; omega⟩
  have hall : (List.range s.size).filterMap s.outcome = p.cursor.found.reduceOption ++
      ((List.range rest).map (p.cursor.next + ·)).filterMap s.outcome := by
    rw [found_eq_of_waiting_nil h.sound hnil, hrest, List.range_add, List.filterMap_append]
  rw [oneAtATime_eq, hall]
  rcases h.done_of_ended hwidth hended with hend | henough
  · obtain rfl : rest = 0 := by omega
    cases s.limit <;> simp [takeFirst]
  · obtain ⟨n, hn, hle⟩ : ∃ n, s.limit = some n ∧ n ≤ p.cursor.matched := by
      simpa [enough, Option.any_eq_true] using henough
    rw [h.sound.matched_eq, List.countP_eq_length_filter, ← List.reduceOption_length_eq] at hle
    simp [hn, takeFirst, List.take_append_of_le_length hle]

end Search

end Reactive
