import Relaycast.Snowflake.Generator

/-!
# The order of snowflakes

The integer of an id is its time, worker id and sequence number in places of their own
(`idOf_eq`), so the ids of one worker are ordered by their times and, in one millisecond, by their
numbers.  A call never uses a pair of time and number that is not behind the last one
(`generate_later`): with the clock at or before the last time the number goes up, and when it would
start again at zero the call waits until the clock is past that time.
-/

namespace Snowflake

open Script Coding SnowflakeGenerator

/-! ## The places of an id -/

variable {ts wid sequence : ℕ} {now : ℤ}

lemma and_sequence_mask (n : ℕ) : n &&& SEQUENCE_MASK = n % 2 ^ 12 :=
  Nat.and_two_pow_sub_one_eq_mod n 12

lemma and_worker_mask (n : ℕ) : n &&& WORKER_ID_MASK = n % 2 ^ 10 :=
  Nat.and_two_pow_sub_one_eq_mod n 10

lemma timestamp_shift_eq : TIMESTAMP_SHIFT = 22 := rfl

lemma worker_shift_eq : WORKER_ID_SHIFT = 12 := rfl

/-- The three places of an id do not overlap. -/
lemma idOf_eq (hwid : wid < 1024) (hseq : sequence < 4096) :
    idOf wid now sequence = (now - EPOCH_MS).toNat * 2 ^ 22 + wid * 2 ^ 12 + sequence := by
  have hwid' : wid % 2 ^ 10 = wid := Nat.mod_eq_of_lt hwid
  have hseq' : sequence % 2 ^ 12 = sequence := Nat.mod_eq_of_lt hseq
  rw [idOf, and_sequence_mask, and_worker_mask, hwid', hseq', timestamp_shift_eq, worker_shift_eq]
  have hworker : wid <<< 12 < 2 ^ 22 := by
    rw [Nat.shiftLeft_eq]
    omega
  have hhigh : (now - EPOCH_MS).toNat <<< 22 ||| wid <<< 12 =
      ((now - EPOCH_MS).toNat * 2 ^ 10 + wid) <<< 12 := by
    rw [← Nat.shiftLeft_add_eq_or_of_lt hworker, Nat.shiftLeft_eq, Nat.shiftLeft_eq, Nat.shiftLeft_eq]
    omega
  rw [hhigh, ← Nat.shiftLeft_add_eq_or_of_lt hseq, Nat.shiftLeft_eq]
  omega

lemma getWorkerId_lt (isolateId : List (BitVec 16)) (g : SnowflakeGenerator) :
    g.getWorkerId isolateId < 1024 := by
  have hmask : ∀ n : BitVec 32, (n &&& 1023#32).toNat < 1024 := fun n => by
    rw [BitVec.toNat_and]
    exact Nat.lt_of_le_of_lt Nat.and_le_right (by decide)
  unfold getWorkerId
  split
  · exact hmask _
  · exact hmask _

/-! ## One call -/

/-- The state of a generator that has issued an id: its number is in range and its time not before
the epoch. -/
structure Used (g : SnowflakeGenerator) : Prop where
  sequence_lt : g.sequence < 4096
  epoch_le : EPOCH_MS ≤ g.lastTimestamp

/-- A pair of time and number behind another. -/
def Later (g g' : SnowflakeGenerator) : Prop :=
  g.lastTimestamp < g'.lastTimestamp ∨
    g.lastTimestamp = g'.lastTimestamp ∧ g.sequence < g'.sequence

/-- The generator is new, or has issued an id. -/
def Sound (g : SnowflakeGenerator) : Prop := g.lastTimestamp < EPOCH_MS ∨ Used g

lemma sound_new (workerId : Option ℤ) : Sound (.new workerId) :=
  .inl (show (-1 : ℤ) < EPOCH_MS by decide)

lemma Later.trans {g g' g'' : SnowflakeGenerator} (h : Later g g') (h' : Later g' g'') :
    Later g g'' := by
  unfold Later at *
  omega

variable {isolateId : List (BitVec 16)} {g g' : SnowflakeGenerator} {id : List Char}
  {readings rest : List ℤ}

/-- What the loop that waits returns is past the last time. -/
lemma waitFor_some {last now now' : ℤ} (h : waitFor last now readings = some (now', rest)) :
    last < now' ∧ ∀ reading ∈ rest, reading ∈ readings := by
  induction readings generalizing now with
  | nil =>
    rw [waitFor] at h
    split at h
    · cases h
    · obtain ⟨rfl, rfl⟩ := Prod.mk.inj (Option.some.inj h)
      exact ⟨by omega, by simp⟩
  | cons reading readings ih =>
    rw [waitFor] at h
    split at h
    · obtain ⟨hlt, hrest⟩ := ih h
      exact ⟨hlt, fun r hr => List.mem_cons_of_mem _ (hrest r hr)⟩
    · obtain ⟨rfl, rfl⟩ := Prod.mk.inj (Option.some.inj h)
      exact ⟨by omega, fun r hr => hr⟩

/-- The loop that waits is over when the clock is past the last time. -/
lemma waitFor_isSome {last now : ℤ} (h : ∃ reading ∈ readings, last < reading) :
    (waitFor last now readings).isSome = true := by
  induction readings generalizing now with
  | nil => simp at h
  | cons reading readings ih =>
    rw [waitFor]
    split
    · by_cases hrest : ∃ reading ∈ readings, last < reading
      · exact ih hrest
      · obtain ⟨r, hr, hlt⟩ := h
        rcases List.mem_cons.mp hr with rfl | hr
        · cases readings <;> simp [waitFor, Int.not_le.mpr hlt]
        · exact absurd ⟨r, hr, hlt⟩ hrest
    · rfl

/-- What a call does: its id is that of the time and the number it leaves behind, and these are
behind the ones it has found. -/
lemma generate_cases (hsound : Sound g) (hepoch : ∀ reading ∈ readings, EPOCH_MS ≤ reading)
    (h : generate isolateId g readings = some (id, g', rest)) :
    id = Nat.toDigits 10 (idOf (g.getWorkerId isolateId) g'.lastTimestamp g'.sequence) ∧
      g'.workerId = g.workerId ∧ Used g' ∧ Later g g' ∧ ∀ reading ∈ rest, reading ∈ readings := by
  cases readings with
  | nil => cases h
  | cons reading readings =>
    have hreading := hepoch reading List.mem_cons_self
    simp only [generate] at h
    generalize hnow : (if reading < g.lastTimestamp then g.lastTimestamp else reading) = now at h
    have hge : reading ≤ now ∧ g.lastTimestamp ≤ now := by
      split at hnow <;> omega
    by_cases hsame : now = g.lastTimestamp
    · have hused : Used g := hsound.resolve_left (by omega)
      have hlt := hused.sequence_lt
      rw [if_pos hsame, and_sequence_mask] at h
      by_cases hwrap : (g.sequence + 1) % 2 ^ 12 = 0
      · -- the numbers of the millisecond are used up
        rw [if_pos hwrap] at h
        cases hwait : waitFor g.lastTimestamp now readings with
        | none =>
          rw [hwait] at h
          cases h
        | some waited =>
          obtain ⟨now', rest'⟩ := waited
          rw [hwait] at h
          cases h
          obtain ⟨hpast, hrest⟩ := waitFor_some hwait
          refine ⟨rfl, rfl, ⟨?_, ?_⟩, .inl hpast, fun r hr => List.mem_cons_of_mem _ (hrest r hr)⟩
          · exact Nat.lt_of_le_of_lt (Nat.le_of_eq hwrap) (by omega)
          · exact le_trans hused.epoch_le hpast.le
      · rw [if_neg hwrap] at h
        cases h
        have hnext : (g.sequence + 1) % 2 ^ 12 = g.sequence + 1 := Nat.mod_eq_of_lt (by omega)
        refine ⟨rfl, rfl, ⟨?_, ?_⟩, .inr ⟨hsame.symm, ?_⟩, fun r hr => List.mem_cons_of_mem _ hr⟩
        · exact Nat.mod_lt _ (by omega)
        · exact le_trans hreading hge.1
        · exact Nat.lt_of_lt_of_eq (Nat.lt_succ_self _) hnext.symm
    · rw [if_neg hsame] at h
      cases h
      refine ⟨rfl, rfl, ⟨?_, ?_⟩, .inl ?_, fun r hr => List.mem_cons_of_mem _ hr⟩
      · exact Nat.zero_lt_succ _
      · exact le_trans hreading hge.1
      · exact lt_of_le_of_ne hge.2 (Ne.symm hsame)

/-- A call returns if the clock is past the last time after its first reading. -/
lemma generate_isSome {reading : ℤ} (h : ∃ r ∈ readings, g.lastTimestamp < r) :
    (generate isolateId g (reading :: readings)).isSome = true := by
  simp only [generate]
  generalize (if reading < g.lastTimestamp then g.lastTimestamp else reading) = now
  split
  · split
    · obtain ⟨waited, hwait⟩ := Option.isSome_iff_exists.mp (waitFor_isSome h)
      rw [hwait]
      rfl
    · rfl
  · rfl

/-! ## All calls -/

/-- What is said of an issued id: it is that of its time and its number. -/
def Records (isolateId : List (BitVec 16)) (id : List Char) (g : SnowflakeGenerator) : Prop :=
  id = Nat.toDigits 10 (idOf (g.getWorkerId isolateId) g.lastTimestamp g.sequence) ∧ Used g

lemma getWorkerId_congr (h : g'.workerId = g.workerId) :
    g'.getWorkerId isolateId = g.getWorkerId isolateId := by
  rw [getWorkerId, getWorkerId, h]

/-- Every id of a run is recorded, and behind what the generator has used before. -/
lemma issued_cases (calls : ℕ) (hsound : Sound g)
    (hepoch : ∀ reading ∈ readings, EPOCH_MS ≤ reading) :
    ∀ used ∈ issued isolateId calls g readings,
      Records isolateId used.1 used.2 ∧ used.2.workerId = g.workerId ∧ Later g used.2 := by
  induction calls generalizing g readings with
  | zero => simp [issued]
  | succ calls ih =>
    rw [issued]
    cases hcall : generate isolateId g readings with
    | none => simp
    | some result =>
      obtain ⟨id, g', rest⟩ := result
      obtain ⟨hid, hworker, hused, hlater, hrest⟩ := generate_cases hsound hepoch hcall
      intro used hin
      rcases List.mem_cons.mp hin with rfl | hin
      · exact ⟨⟨by rw [getWorkerId_congr hworker]; exact hid, hused⟩, hworker, hlater⟩
      · obtain ⟨hrecords, hworker', hlater'⟩ :=
          ih (.inr hused) (fun r hr => hepoch r (hrest r hr)) used hin
        exact ⟨hrecords, hworker'.trans hworker, hlater.trans hlater'⟩

/-- The ids of a run are issued behind one another. -/
lemma pairwise_issued (calls : ℕ) (hsound : Sound g)
    (hepoch : ∀ reading ∈ readings, EPOCH_MS ≤ reading) :
    (issued isolateId calls g readings).Pairwise fun used used' => Later used.2 used'.2 := by
  induction calls generalizing g readings with
  | zero => simp [issued]
  | succ calls ih =>
    rw [issued]
    cases hcall : generate isolateId g readings with
    | none => simp
    | some result =>
      obtain ⟨id, g', rest⟩ := result
      obtain ⟨-, -, hused, -, hrest⟩ := generate_cases hsound hepoch hcall
      have hepoch' : ∀ reading ∈ rest, EPOCH_MS ≤ reading := fun r hr => hepoch r (hrest r hr)
      refine List.pairwise_cons.mpr ⟨fun used hin => ?_, ih (.inr hused) hepoch'⟩
      exact (issued_cases calls (.inr hused) hepoch' used hin).2.2

/-! ## What is read from an id -/

lemma numeral_id (h : Records isolateId id g) : numeral 10 id =
    (g.lastTimestamp - EPOCH_MS).toNat * 2 ^ 22 + g.getWorkerId isolateId * 2 ^ 12 + g.sequence := by
  rw [h.1, numeral_toDigits_ten, idOf_eq (getWorkerId_lt isolateId g) h.2.sequence_lt]

/-- Of one worker, an id issued behind another is the greater integer. -/
lemma numeral_lt_of_later {id' : List Char} (h : Records isolateId id g)
    (h' : Records isolateId id' g') (hworker : g'.workerId = g.workerId) (hlater : Later g g') :
    numeral 10 id < numeral 10 id' := by
  have hwid := getWorkerId_lt isolateId g
  have hseq := h.2.sequence_lt
  have hepoch := h.2.epoch_le
  have hepoch' := h'.2.epoch_le
  rw [numeral_id h, numeral_id h', getWorkerId_congr hworker]
  rcases hlater with hlater | ⟨htime, hnumber⟩
  · omega
  · rw [htime]
    omega

/-- The time, the worker id and the number that an id records. -/
lemma extract_eq (h : Records isolateId id g) :
    extractTimestamp id = g.lastTimestamp ∧ extractWorkerId id = g.getWorkerId isolateId ∧
      extractSequence id = g.sequence := by
  have hwid := getWorkerId_lt isolateId g
  have hseq := h.2.sequence_lt
  have hepoch := h.2.epoch_le
  refine ⟨?_, ?_, ?_⟩
  · rw [extractTimestamp, numeral_id h, timestamp_shift_eq, Nat.shiftRight_eq_div_pow]
    omega
  · rw [extractWorkerId, numeral_id h, worker_shift_eq, Nat.shiftRight_eq_div_pow, and_worker_mask]
    omega
  · rw [extractSequence, numeral_id h, and_sequence_mask]
    omega

/-- The time an id records is before another exactly if the id is below its bound. -/
lemma extractTimestamp_lt_iff (id : List Char) (t : ℤ) :
    extractTimestamp id < t ↔ numeral 10 id < numeral 10 (snowflakeIdLowerBound t) := by
  rw [snowflakeIdLowerBound, numeral_toDigits_ten, extractTimestamp, timestamp_shift_eq,
    Nat.shiftRight_eq_div_pow, Nat.shiftLeft_eq]
  omega

/-! ## The order of the column -/

lemma afterSnowflake_iff {column cursor : List Char} (hcolumn : IsDecimal column)
    (hcursor : IsDecimal cursor) :
    afterSnowflake column cursor = true ↔ numeral 10 cursor < numeral 10 column := by
  rw [← hcursor.shortlex_iff hcolumn, afterSnowflake, decide_eq_true_eq]

lemma atOrAfterSnowflake_iff {column : List Char} (hcolumn : IsDecimal column) (cutoffMs : ℤ) :
    atOrAfterSnowflake column cutoffMs = true ↔
      numeral 10 (snowflakeIdLowerBound cutoffMs) ≤ numeral 10 column := by
  have hbound : IsDecimal (snowflakeIdLowerBound cutoffMs) := isDecimal_toDigits _
  have hiff := (hcolumn.shortlex_iff hbound).not
  rw [Nat.not_lt] at hiff
  rw [← hiff, atOrAfterSnowflake, decide_eq_true_eq, ← not_lt (a := column)]
  rcases Nat.lt_trichotomy (snowflakeIdLowerBound cutoffMs).length column.length with
    hlen | hlen | hlen
  · simp [hlen, hlen.le, hlen.ne']
  · simp [hlen]
  · simp [hlen, hlen.ne', Nat.not_lt.mpr hlen.le]

/-! ## The order -/

/-- What the ids of one generator are ordered by, and what is read from them. -/
structure Ordered (isolateId : List (BitVec 16)) (g : SnowflakeGenerator)
    (used : List (List Char × SnowflakeGenerator)) : Prop where
  increasing : used.Pairwise fun a b => numeral 10 a.1 < numeral 10 b.1
  extracted : ∀ a ∈ used, extractTimestamp a.1 = a.2.lastTimestamp ∧
    extractWorkerId a.1 = g.getWorkerId isolateId ∧ extractSequence a.1 = a.2.sequence
  bounded : ∀ a ∈ used, ∀ t,
    (a.2.lastTimestamp < t → numeral 10 a.1 < numeral 10 (snowflakeIdLowerBound t)) ∧
    (t ≤ a.2.lastTimestamp → ¬ numeral 10 a.1 < numeral 10 (snowflakeIdLowerBound t))

/-- For every clock that is not before the epoch, the ids of a generator increase as integers, their
parts are what the generator has used, and the bound of a time separates the ids before it from the
others. A call returns once the clock is past the last time.  The order of the column is that of the
integers. -/
theorem snowflakeOrder (isolateId : List (BitVec 16)) :
    (∀ workerId calls readings, (∀ reading ∈ readings, EPOCH_MS ≤ reading) →
      Ordered isolateId (.new workerId) (issued isolateId calls (.new workerId) readings)) ∧
    (∀ (g : SnowflakeGenerator) (reading : ℤ) (readings : List ℤ),
      (∃ r ∈ readings, g.lastTimestamp < r) →
        (generate isolateId g (reading :: readings)).isSome = true) ∧
    ∀ column cursor, IsDecimal column → IsDecimal cursor →
      (afterSnowflake column cursor = true ↔ numeral 10 cursor < numeral 10 column) ∧
      ∀ cutoffMs, atOrAfterSnowflake column cutoffMs = true ↔
        numeral 10 (snowflakeIdLowerBound cutoffMs) ≤ numeral 10 column := by
  refine ⟨fun workerId calls readings hepoch => ?_, fun _ _ _ h => generate_isSome h,
    fun column cursor hcolumn hcursor =>
      ⟨afterSnowflake_iff hcolumn hcursor, atOrAfterSnowflake_iff hcolumn⟩⟩
  have hall := @issued_cases isolateId _ _ calls (sound_new workerId) hepoch
  have htime : ∀ a ∈ issued isolateId calls (.new workerId) readings,
      extractTimestamp a.1 = a.2.lastTimestamp := fun a ha => (extract_eq (hall a ha).1).1
  refine ⟨?_, fun a ha => ?_, fun a ha t => ⟨fun h => ?_, fun h => ?_⟩⟩
  · refine (pairwise_issued calls (sound_new workerId) hepoch).imp_of_mem ?_
    intro a b ha hb hlater
    obtain ⟨hrecords, hworker, -⟩ := hall a ha
    obtain ⟨hrecords', hworker', -⟩ := hall b hb
    exact numeral_lt_of_later hrecords hrecords' (hworker'.trans hworker.symm) hlater
  · obtain ⟨hrecords, hworker, -⟩ := hall a ha
    have hparts := extract_eq hrecords
    rwa [getWorkerId_congr hworker] at hparts
  · exact (extractTimestamp_lt_iff a.1 t).mp (by rw [htime a ha]; exact h)
  · exact fun hlt => absurd ((extractTimestamp_lt_iff a.1 t).mpr hlt) (by rw [htime a ha]; omega)

/-- A clock that stands still, goes back and is behind when the next id is asked for. -/
theorem snowflakeOrder_back :
    Ordered [] (.new (some 7))
      (issued [] 3 (.new (some 7)) [EPOCH_MS + 5, EPOCH_MS + 5, EPOCH_MS + 3]) ∧
    (generate [] ⟨some 7, EPOCH_MS + 5, 4095⟩ [EPOCH_MS + 3, EPOCH_MS + 6]).isSome = true ∧
    (afterSnowflake "10".toList "9".toList = true ↔
      numeral 10 "9".toList < numeral 10 "10".toList) := by
  obtain ⟨hordered, hreturns, hcolumn⟩ := snowflakeOrder []
  refine ⟨hordered (some 7) 3 _ (by decide),
    hreturns ⟨some 7, EPOCH_MS + 5, 4095⟩ (EPOCH_MS + 3) [EPOCH_MS + 6] (by decide), ?_⟩
  have hten : IsDecimal "10".toList := isDecimal_toDigits 10
  have hnine : IsDecimal "9".toList := isDecimal_toDigits 9
  exact (hcolumn _ _ hten hnine).1

end Snowflake
