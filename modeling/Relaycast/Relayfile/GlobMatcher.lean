import Relaycast.Relayfile.Glob

/-!
# The glob matcher

The two loops of the matcher decide what a glob stands for.

In the loop along one segment, what the last star is followed by has been matched, up to where the
loop is, behind the place to go back to (`Tried`).  The loop answers whether the rest of the pattern
matches the rest of the segment, or what follows the star matches from a place further on
(`wildcardLoop_iff`); places before the last star need no answer, since the star makes up for them.
In the table, the entries up to an index are those of the pattern with the run, the others those of
the pattern before it.
-/

namespace Relayfile

open Script

/-! ## One segment -/

@[simp] lemma charToken_star : charToken '*' = .run := rfl

lemma charToken_literal {c : Char} (h : c ≠ '*') : charToken c = .one (· = c) := if_neg h

/-- The tokens of a pattern from an index on. -/
def tokensFrom (pattern : List Char) (i : ℕ) : List (Token Char) := (pattern.drop i).map charToken

variable {path pattern : List Char} {pathAt patternAt k retry : ℕ}

lemma tokensFrom_star (h : pattern[patternAt]? = some '*') :
    tokensFrom pattern patternAt = .run :: tokensFrom pattern (patternAt + 1) := by
  obtain ⟨hlt, hget⟩ := List.getElem?_eq_some_iff.mp h
  rw [tokensFrom, List.drop_eq_getElem_cons hlt, hget]
  rfl

lemma tokensFrom_literal {c : Char} (h : pattern[patternAt]? = some c) (hc : c ≠ '*') :
    tokensFrom pattern patternAt = .one (· = c) :: tokensFrom pattern (patternAt + 1) := by
  obtain ⟨hlt, hget⟩ := List.getElem?_eq_some_iff.mp h
  rw [tokensFrom, List.drop_eq_getElem_cons hlt, hget, List.map_cons, charToken_literal hc]
  rfl

lemma tokensFrom_of_length_le (h : pattern.length ≤ patternAt) :
    tokensFrom pattern patternAt = [] := by
  rw [tokensFrom, List.drop_eq_nil_of_le h, List.map_nil]

lemma map_charToken_eq_literals {text : List Char} (h : '*' ∉ text) :
    text.map charToken = literals text :=
  List.map_congr_left fun _ hc => charToken_literal fun hstar => h (hstar ▸ hc)

/-- Where neither a star nor the character of the segment stands, nothing matches. -/
lemma not_matches_of_mismatch (hlt : pathAt < path.length)
    (hne : ¬ (patternAt < pattern.length ∧ pattern[patternAt]? ≠ some '*' ∧
      pattern[patternAt]? = path[pathAt]?))
    (hstar : pattern[patternAt]? ≠ some '*') :
    ¬ Matches (tokensFrom pattern patternAt) (path.drop pathAt) := by
  rw [List.drop_eq_getElem_cons hlt]
  rcases Nat.lt_or_ge patternAt pattern.length with hlt' | hge
  · have hget : pattern[patternAt]? = some pattern[patternAt] := List.getElem?_eq_getElem hlt'
    rw [tokensFrom_literal hget (fun hc => hstar (hc ▸ hget)), matches_one_cons]
    rintro ⟨hc, -⟩
    exact hne ⟨hlt', hstar, by rw [hget, ← hc, List.getElem?_eq_getElem hlt]⟩
  · rw [tokensFrom_of_length_le hge, matches_nil]
    exact List.cons_ne_nil _ _

/-- At the end of the segment, stars may be left. -/
lemma skipStars_eq_length_iff (h : patternAt ≤ pattern.length) :
    skipStars pattern patternAt = pattern.length ↔ Matches (tokensFrom pattern patternAt) [] := by
  fun_induction skipStars pattern patternAt with
  | case1 i hstar ih =>
    have hlt := (List.getElem?_eq_some_iff.mp hstar).1
    rw [tokensFrom_star hstar, matches_run_nil, ih hlt]
  | case2 i hstar =>
    rcases Nat.lt_or_ge i pattern.length with hlt | hge
    · have hget : pattern[i]? = some pattern[i] := List.getElem?_eq_getElem hlt
      rw [tokensFrom_literal hget (fun hc => hstar (hc ▸ hget))]
      simp only [matches_one_nil, iff_false]
      omega
    · rw [tokensFrom_of_length_le hge]
      simp only [matches_nil, iff_true]
      omega

/-- What has been tried since the last star: what follows the star matched the segment from the
place to go back to up to here, character by character. -/
structure Tried (path pattern : List Char) (k retry pathAt patternAt : ℕ) : Prop where
  literal : ∃ text, '*' ∉ text ∧ pattern.drop (k + 1) = text ++ pattern.drop patternAt ∧
    path.drop retry = text ++ path.drop pathAt
  le : retry ≤ pathAt

/-- Could what follows the star match from a place further on than the one to go back to? -/
def MatchesLater (path pattern : List Char) (k retry : ℕ) : Prop :=
  ∃ i, retry < i ∧ i ≤ path.length ∧ Matches (tokensFrom pattern (k + 1)) (path.drop i)

namespace Tried

/-- Behind a star nothing has been tried. -/
lemma start : Tried path pattern k pathAt pathAt (k + 1) :=
  ⟨⟨[], by simp, by simp, by simp⟩, le_refl _⟩

/-- One more character that stands for itself. -/
lemma step {c : Char} (h : Tried path pattern k retry pathAt patternAt)
    (hpattern : pattern[patternAt]? = some c) (hpath : path[pathAt]? = some c) (hc : c ≠ '*') :
    Tried path pattern k retry (pathAt + 1) (patternAt + 1) := by
  obtain ⟨⟨text, hstar, hdrop, hdrop'⟩, hle⟩ := h
  obtain ⟨hlt, hget⟩ := List.getElem?_eq_some_iff.mp hpattern
  obtain ⟨hlt', hget'⟩ := List.getElem?_eq_some_iff.mp hpath
  refine ⟨⟨text ++ [c], ?_, ?_, ?_⟩, by omega⟩
  · simp only [List.mem_append, List.mem_singleton, not_or]
    exact ⟨hstar, Ne.symm hc⟩
  · rw [hdrop, List.drop_eq_getElem_cons hlt, hget, List.append_assoc, List.singleton_append]
  · rw [hdrop', List.drop_eq_getElem_cons hlt', hget', List.append_assoc, List.singleton_append]

lemma tokensFrom_eq {text : List Char} (hstar : '*' ∉ text)
    (hdrop : pattern.drop (k + 1) = text ++ pattern.drop patternAt) :
    tokensFrom pattern (k + 1) = literals text ++ tokensFrom pattern patternAt := by
  rw [tokensFrom, hdrop, List.map_append, map_charToken_eq_literals hstar, tokensFrom]

/-- What a star could make up for further on, the next star makes up for here. -/
lemma run_of_matchesLater (h : Tried path pattern k retry pathAt patternAt)
    (hstar : pattern[patternAt]? = some '*') (hlater : MatchesLater path pattern k retry) :
    Matches (tokensFrom pattern patternAt) (path.drop pathAt) := by
  obtain ⟨⟨text, hfree, hdrop, hdrop'⟩, -⟩ := h
  obtain ⟨i, hi, -, hmatch⟩ := hlater
  rw [tokensFrom_eq hfree hdrop, tokensFrom_star hstar] at hmatch
  rw [tokensFrom_star hstar]
  refine hmatch.run_of_later ?_
  rw [← hdrop']
  exact List.drop_suffix_drop_left path (by omega)

/-- At the end of the segment there is no room further on for what has been tried. -/
lemma not_matchesLater (h : Tried path pattern k retry pathAt patternAt)
    (hend : path.length ≤ pathAt) : ¬ MatchesLater path pattern k retry := by
  obtain ⟨⟨text, hfree, hdrop, hdrop'⟩, -⟩ := h
  rintro ⟨i, hi, hlen, hmatch⟩
  rw [tokensFrom_eq hfree hdrop] at hmatch
  refine not_matches_of_shorter ?_ hmatch
  have htext := congrArg List.length hdrop'
  rw [List.drop_eq_nil_of_le hend, List.append_nil, List.length_drop] at htext
  rw [List.length_drop]
  omega

end Tried

/-- What the loop still looks for when it has met a star. -/
def Fallback (path pattern : List Char) (star : Option ℕ) (retry : ℕ) : Prop :=
  ∃ k, star = some k ∧ MatchesLater path pattern k retry

/-- The loop answers whether the rest matches the rest, or what follows the last star matches
further on. -/
lemma wildcardLoop_iff {star : Option ℕ} (hpath : pathAt ≤ path.length)
    (hpattern : patternAt ≤ pattern.length)
    (htried : ∀ k, star = some k → Tried path pattern k retry pathAt patternAt ∧ k < pattern.length) :
    wildcardLoop path pattern pathAt patternAt star retry = true ↔
      Matches (tokensFrom pattern patternAt) (path.drop pathAt) ∨ Fallback path pattern star retry := by
  fun_induction wildcardLoop path pattern pathAt patternAt star retry with
  | case1 pathAt patternAt star retry hlt heq ih =>
    obtain ⟨hlt', hstar, heq⟩ := heq
    have hget : pattern[patternAt]? = some pattern[patternAt] := List.getElem?_eq_getElem hlt'
    have hc : pattern[patternAt] ≠ '*' := fun hc => hstar (hc ▸ hget)
    have hget' : path[pathAt]? = some pattern[patternAt] := heq ▸ hget
    have hchar : path[pathAt] = pattern[patternAt] := (List.getElem?_eq_some_iff.mp hget').2
    rw [ih (by omega) (by omega) fun k hk => ⟨(htried k hk).1.step hget hget' hc, (htried k hk).2⟩,
      tokensFrom_literal hget hc, List.drop_eq_getElem_cons hlt, matches_one_cons, hchar]
    simp
  | case2 pathAt patternAt star retry hlt heq hstar ih =>
    have hlt' := (List.getElem?_eq_some_iff.mp hstar).1
    have hnew : Fallback path pattern (some patternAt) pathAt ↔
        MatchesLater path pattern patternAt pathAt := by simp [Fallback]
    rw [ih hpath hlt' fun k hk => by
      obtain rfl := Option.some.inj hk
      exact ⟨Tried.start, hlt'⟩, hnew]
    constructor
    · rw [tokensFrom_star hstar]
      rintro (h | ⟨i, hi, hle, h⟩)
      · exact .inl ⟨[], _, rfl, h⟩
      · refine .inl ⟨(path.drop pathAt).take (i - pathAt), path.drop i, ?_, h⟩
        conv_lhs => rw [← List.take_append_drop (i - pathAt) (path.drop pathAt)]
        rw [List.drop_drop, Nat.add_sub_cancel' hi.le]
    · intro h
      have hrun : Matches (tokensFrom pattern patternAt) (path.drop pathAt) := by
        rcases h with h | ⟨k, hk, hlater⟩
        · exact h
        · exact (htried k hk).1.run_of_matchesLater hstar hlater
      rw [tokensFrom_star hstar, matches_run_iff_drop] at hrun
      obtain ⟨n, hn, h⟩ := hrun
      rw [List.drop_drop] at h
      rw [List.length_drop] at hn
      rcases Nat.eq_zero_or_pos n with rfl | hpos
      · exact .inl h
      · exact .inr ⟨pathAt + n, by omega, by omega, h⟩
  | case3 pathAt patternAt retry hlt hne hstar k ih =>
    obtain ⟨htried, hk⟩ := htried k rfl
    have hle := htried.le
    rw [ih (by omega) hk fun k' hk' => by
      obtain rfl := Option.some.inj hk'
      exact ⟨Tried.start, hk⟩]
    constructor
    · rintro (h | ⟨k', hk', i, hi, hle', h⟩)
      · exact .inr ⟨k, rfl, retry + 1, by omega, by omega, h⟩
      · obtain rfl := Option.some.inj hk'
        exact .inr ⟨k, rfl, i, by omega, hle', h⟩
    · rintro (h | ⟨k', hk', i, hi, hle', h⟩)
      · exact absurd h (not_matches_of_mismatch hlt hne hstar)
      · obtain rfl := Option.some.inj hk'
        rcases Nat.eq_or_lt_of_le (Nat.succ_le_of_lt hi) with rfl | hi
        · exact .inl h
        · exact .inr ⟨k, rfl, i, hi, hle', h⟩
  | case4 pathAt patternAt retry hlt hne hstar =>
    simp only [Bool.false_eq_true, false_iff, not_or]
    exact ⟨not_matches_of_mismatch hlt hne hstar, fun ⟨k, hk, _⟩ => by simp at hk⟩
  | case5 pathAt patternAt star retry hge =>
    rw [beq_iff_eq, skipStars_eq_length_iff hpattern, List.drop_eq_nil_of_le (by omega)]
    constructor
    · exact .inl
    · rintro (h | ⟨k, hk, hlater⟩)
      · exact h
      · exact absurd hlater ((htried k hk).1.not_matchesLater (by omega))

/-- The segment of the glob stands for the segment of the path. -/
lemma wildcardSegmentMatches_iff (path pattern : List Char) :
    wildcardSegmentMatches path pattern = true ↔ Matches (pattern.map charToken) path := by
  rw [wildcardSegmentMatches, wildcardLoop_iff (Nat.zero_le _) (Nat.zero_le _) (by simp)]
  simp [Fallback, tokensFrom]

/-! ## Segments -/

/-- The table: an entry says whether the pattern matches so many of the first elements. -/
def Tabulates {α : Type} (paths : List α) (ts : List (Token α)) (reachable : List Bool) : Prop :=
  reachable.length = paths.length + 1 ∧
    ∀ n ≤ paths.length, reachable.getD n false = true ↔ Matches ts (paths.take n)

variable {paths : List (List Char)} {ts : List (Token (List Char))} {reachable : List Bool}

/-- Before the first segment of the glob only the empty path is reached. -/
lemma tabulates_start : Tabulates paths [] (true :: paths.map fun _ => false) := by
  refine ⟨by simp, fun n hn => ?_⟩
  cases n with
  | zero => simp
  | succ n =>
    have hne : paths ≠ [] := List.ne_nil_of_length_pos (by omega)
    rw [List.getD_cons_succ, List.getD_eq_getElem?_getD, List.getElem?_map]
    simp only [matches_nil, List.take_eq_nil_iff, hne]
    cases paths[n]? <;> simp

/-- The table while the entries of a run are made, from left to right: the first are of the pattern
with the run, the others of the pattern before it. -/
lemma run_entries (h : Tabulates paths ts reachable) (m : ℕ) (hm : m ≤ paths.length) :
    let table := (List.range m).foldl runStep reachable
    table.length = paths.length + 1 ∧
      (∀ n ≤ m, table.getD n false = true ↔ Matches (ts ++ [.run]) (paths.take n)) ∧
      ∀ n, m < n → table.getD n false = reachable.getD n false := by
  induction m with
  | zero =>
    refine ⟨h.1, fun n hn => ?_, fun n _ => rfl⟩
    obtain rfl := Nat.le_zero.mp hn
    rw [List.range_zero, List.foldl_nil, h.2 0 (Nat.zero_le _), List.take_zero,
      matches_concat_run_nil]
  | succ m ih =>
    obtain ⟨hlen, hfront, hback⟩ := ih (by omega)
    rw [List.range_succ, List.foldl_append, List.foldl_cons, List.foldl_nil, runStep]
    generalize (List.range m).foldl runStep reachable = table at hlen hfront hback ⊢
    refine ⟨by simpa using hlen, fun n hn => ?_, fun n hn => ?_⟩
    · rcases Nat.eq_or_lt_of_le hn with rfl | hlt
      · have htake : paths.take (m + 1) = paths.take m ++ [paths[m]] :=
          List.take_succ_eq_append_getElem (by omega)
        rw [List.getD_eq_getElem?_getD, List.getElem?_set_self (by omega), Option.getD_some,
          Bool.or_eq_true, hback (m + 1) (by omega), hfront m (le_refl m),
          h.2 (m + 1) hm, htake, matches_concat_run]
      · rw [List.getD_eq_getElem?_getD, List.getElem?_set_ne (by omega),
          ← List.getD_eq_getElem?_getD]
        exact hfront n (by omega)
    · rw [List.getD_eq_getElem?_getD, List.getElem?_set_ne (by omega), ← List.getD_eq_getElem?_getD]
      exact hback n (by omega)

/-- A segment of the glob takes the table to that of the pattern with its token. -/
lemma tabulates_step (h : Tabulates paths ts reachable) (segment : List Char) :
    Tabulates paths (ts ++ [segmentToken segment]) (reachableStep paths reachable segment) := by
  unfold reachableStep segmentToken
  split
  · obtain ⟨hlen, hfront, -⟩ := run_entries h paths.length (le_refl _)
    exact ⟨hlen, hfront⟩
  · refine ⟨by simp, fun n hn => ?_⟩
    cases n with
    | zero =>
      rw [List.getD_cons_zero, List.take_zero]
      simp only [Bool.false_eq_true, false_iff]
      exact not_matches_concat_one_nil
    | succ n =>
      rw [List.getD_cons_succ, List.getD_eq_getElem?_getD, List.getElem?_mapIdx,
        List.getElem?_eq_getElem (by omega), Option.map_some, Option.getD_some, Bool.and_eq_true,
        h.2 n (by omega), wildcardSegmentMatches_iff,
        List.take_succ_eq_append_getElem (by omega), matches_concat_one]

/-- The table after the segments of a glob. -/
lemma tabulates_foldl (h : Tabulates paths ts reachable) (globs : List (List Char)) :
    Tabulates paths (ts ++ globs.map segmentToken)
      (globs.foldl (reachableStep paths) reachable) := by
  induction globs generalizing ts reachable with
  | nil => simpa using h
  | cons segment globs ih =>
    have hrest := ih (tabulates_step h segment)
    rwa [List.append_assoc, List.singleton_append] at hrest

/-- The matcher answers whether the glob stands for the path. -/
lemma webhookPathSegmentsMatch_iff (path glob : List Char) :
    webhookPathSegmentsMatch path glob = true ↔
      Matches ((segments glob).map segmentToken) (segments path) := by
  have htable := tabulates_foldl (@tabulates_start (segments path)) (segments glob)
  have hlast := htable.2 (segments path).length (le_refl _)
  rwa [List.take_length, List.nil_append] at hlast

/-- The matcher of paths: a segment `**` of the glob stands for any number of segments of the path,
and every other for one segment; the loop along one segment lets a star stand for any text and every
other character for itself. -/
theorem globMatcher (path glob : List Char) :
    (webhookPathSegmentsMatch path glob = true ↔
      Matches ((segments glob).map segmentToken) (segments path)) ∧
    ∀ part pattern, wildcardSegmentMatches part pattern = true ↔
      Matches (pattern.map charToken) part :=
  ⟨webhookPathSegmentsMatch_iff path glob, wildcardSegmentMatches_iff⟩

end Relayfile
