import Relaycast.Credential.Codec
import Relaycast.Script.Replace

/-!
# Redaction of credentials in a text

The search goes on behind what it has matched.  A credential has its underscores at fixed places, so
the only way for an earlier match to take a part of a credential and not all of it is to end with
its first one or two letters: a text in the shape of a credential that begins 77 or 78 characters
before it.  That text may itself have lost its first letters to one before it, or lie in a longer
credential of the legacy family, which goes on as far as it can and takes what follows with it.
-/

namespace CredentialFormat

open Script

/-! ## The pattern -/

/-- `[A-Za-z0-9_-]`. -/
def isTokenChar (c : Char) : Bool := BASE62.contains c || c == '_' || c == '-'

lemma isTokenChar_eq : isTokenChar = fun c =>
    ['0', '1', '2', '3', '4', '5', '6', '7', '8', '9', 'A', 'B', 'C', 'D', 'E', 'F', 'G',
      'H', 'I', 'J', 'K', 'L', 'M', 'N', 'O', 'P', 'Q', 'R', 'S', 'T', 'U', 'V', 'W', 'X',
      'Y', 'Z', 'a', 'b', 'c', 'd', 'e', 'f', 'g', 'h', 'i', 'j', 'k', 'l', 'm', 'n', 'o',
      'p', 'q', 'r', 's', 't', 'u', 'v', 'w', 'x', 'y', 'z'].contains c ||
      c == '_' || c == '-' := by
  unfold isTokenChar
  rw [BASE62_eq]

/-- The alternative of the `ar` family; the last 49 characters are those of two groups of `AR`. -/
def arLength (text : Text) : Option ℕ := if (AR (text.take 79)).isSome then some 79 else none

/-- The alternative of the legacy family. -/
def legacyLength (text : Text) : Option ℕ :=
  let run := ((text.drop 8).takeWhile isTokenChar).length
  if CredentialKind.all.any (fun kind => kind.legacyPrefix.isPrefixOf text) ∧ run ≠ 0 then
    some (8 + run)
  else none

lemma length_of_AR {text : Text} (h : (AR text).isSome = true) : text.length = 79 := by
  obtain ⟨m, hm⟩ := Option.isSome_iff_exists.mp h
  obtain ⟨hwell, rfl⟩ := AR_eq_some_iff.mp hm
  exact hwell.length_text

lemma arLength_eq_some {text : Text} {n : ℕ} (h : arLength text = some n) :
    n = 79 ∧ 79 ≤ text.length := by
  unfold arLength at h
  split at h
  · rename_i hmatch
    have hlen := length_of_AR hmatch
    rw [List.length_take] at hlen
    exact ⟨(Option.some.inj h).symm, by omega⟩
  · cases h

lemma legacyLength_eq_some {text : Text} {n : ℕ} (h : legacyLength text = some n) :
    (∃ kind : CredentialKind, kind.legacyPrefix <+: text) ∧
      n = 8 + ((text.drop 8).takeWhile isTokenChar).length ∧ 8 < n := by
  simp only [legacyLength] at h
  split at h
  · rename_i hmatch
    obtain ⟨hany, hrun⟩ := hmatch
    obtain ⟨kind, -, hlead⟩ := List.any_eq_true.mp hany
    have hn := (Option.some.inj h).symm
    exact ⟨⟨kind, List.isPrefixOf_iff_prefix.mp hlead⟩, hn, by omega⟩
  · cases h

/-- `CREDENTIAL_IN_TEXT`. -/
def CREDENTIAL_IN_TEXT : Pattern Char where
  length text := (arLength text).or (legacyLength text)
  pos {text n} h := by
    rcases Option.or_eq_some_iff.mp h with h | ⟨-, h⟩
    · have hn := (arLength_eq_some h).1
      omega
    · have hn := (legacyLength_eq_some h).2.2
      omega
  le {text n} h := by
    rcases Option.or_eq_some_iff.mp h with h | ⟨-, h⟩
    · obtain ⟨hn, hlen⟩ := arLength_eq_some h
      omega
    · obtain ⟨-, hn, hlarge⟩ := legacyLength_eq_some h
      have hrun : ((text.drop 8).takeWhile isTokenChar).length ≤ (text.drop 8).length :=
        (List.takeWhile_sublist _).length_le
      rw [List.length_drop] at hrun
      omega

/-- `redactCredentials`. -/
def redactCredentials (text replacement : Text) : Text :=
  CREDENTIAL_IN_TEXT.replace text replacement

/-! ## What is claimed, and when it holds -/

/-- A text in the shape of a credential of the `ar` family begins at a place. -/
def ArAt (text : Text) (p : ℕ) : Prop := (AR ((text.drop p).take 79)).isSome = true

instance (text : Text) (p : ℕ) : Decidable (ArAt text p) := inferInstanceAs (Decidable (_ = true))

/-- A credential of the legacy family that begins at `s` goes on to a place behind. -/
def LegacyInto (text : Text) (s p : ℕ) : Prop :=
  s < p ∧ ∃ n, legacyLength (text.drop s) = some n ∧ p < s + n

/-- What begins at a place loses its first letters: a text in the shape of a credential ends with
them, which neither lost its own first letters nor lies in one of the legacy family that did not. -/
def Eclipsed (text : Text) (p : ℕ) : Prop :=
  ∃ q, ∃ _ : q < p, (q + 77 = p ∨ q + 78 = p) ∧ ArAt text q ∧ ¬ Eclipsed text q ∧
    ¬ ∃ s, ∃ _ : s < q, LegacyInto text s q ∧ ¬ Eclipsed text s
termination_by p

/-- The credential at a place is replaced as a whole, and no character of its secret is copied. -/
def Hidden (text : Text) (p : ℕ) : Prop :=
  CREDENTIAL_IN_TEXT.Replaced text p 79 ∧
    ∀ i < AR_SECRET_LENGTH, ¬ CREDENTIAL_IN_TEXT.Copied text (p + 30 + i)

/-! ## Underscores -/

/-- The places of underscores in a credential. -/
def IsUnderscore (i : ℕ) : Prop := i = 2 ∨ i = 5 ∨ i = 17 ∨ i = 29

lemma map_underscore_of_text {text : Text} (h : base62.IsText text) :
    text.map (· == '_') = List.replicate text.length false := by
  refine List.eq_replicate_iff.mpr ⟨by simp, fun b hb => ?_⟩
  obtain ⟨c, hc, rfl⟩ := List.mem_map.mp hb
  have hall : BASE62.all (fun c => !(c == '_')) = true := by
    rw [BASE62_eq]
    decide +kernel
  have hne := List.all_eq_true.mp hall c (h c hc)
  simpa using hne

lemma map_underscore_kind (kind : CredentialKind) :
    kind.code.map (· == '_') = List.replicate 2 false := by
  cases kind <;> decide +kernel

/-- Where a credential has underscores. -/
def underscores : List Bool :=
  [false, false, true] ++ List.replicate 2 false ++ [true] ++ List.replicate 11 false ++ [true] ++
    List.replicate 11 false ++ [true] ++ List.replicate 43 false ++ List.replicate 6 false

lemma map_underscore {m : ArGroups} (h : m.WellFormed) : m.text.map (· == '_') = underscores := by
  obtain ⟨kind, hkind⟩ := h.kind
  simp only [ArGroups.text, ArGroups.body, List.map_append, hkind, map_underscore_kind,
    map_underscore_of_text h.wsid.2, map_underscore_of_text h.isText_tag,
    map_underscore_of_text h.secret.2, map_underscore_of_text h.crc.2, h.wsid.1, h.length_tag,
    h.secret.1, h.crc.1]
  rfl

lemma underscores_iff {i : ℕ} : underscores[i]? = some true ↔ IsUnderscore i := by
  by_cases hi : i < 79
  · have hall : ∀ i < 79, underscores[i]? = some true ↔ (i = 2 ∨ i = 5 ∨ i = 17 ∨ i = 29) := by
      decide +kernel
    exact hall i hi
  · have hnone : underscores[i]? = none := List.getElem?_eq_none (by
      have hlen : underscores.length = 79 := by decide +kernel
      omega)
    rw [hnone]
    unfold IsUnderscore
    constructor
    · intro h
      cases h
    · omega

variable {text : Text} {p q s n : ℕ}

lemma ArAt.exists_groups (h : ArAt text p) :
    ∃ m : ArGroups, m.WellFormed ∧ ∀ i < 79, text[p + i]? = m.text[i]? := by
  obtain ⟨m, hm⟩ := Option.isSome_iff_exists.mp h
  obtain ⟨hwell, htext⟩ := AR_eq_some_iff.mp hm
  refine ⟨m, hwell, fun i hi => ?_⟩
  rw [htext, List.getElem?_take_of_lt hi, List.getElem?_drop]

/-- Where a text in the shape of a credential has underscores. -/
lemma ArAt.underscore_iff (h : ArAt text p) {i : ℕ} (hi : i < 79) :
    text[p + i]? = some '_' ↔ IsUnderscore i := by
  obtain ⟨m, hwell, htext⟩ := h.exists_groups
  rw [htext i hi, ← underscores_iff, ← map_underscore hwell, List.getElem?_map]
  cases m.text[i]? <;> simp

lemma ArAt.arLength (h : ArAt text p) : arLength (text.drop p) = some 79 := by
  unfold ArAt at h
  rw [CredentialFormat.arLength, h]
  rfl

lemma arAt_of_arLength (h : arLength (text.drop p) = some n) : ArAt text p := by
  unfold arLength at h
  split at h
  · assumption
  · cases h

lemma ArAt.length_le (h : ArAt text p) : p + 79 ≤ text.length := by
  have hlen := (arLength_eq_some h.arLength).2
  rw [List.length_drop] at hlen
  omega

lemma ArAt.length (h : ArAt text p) : CREDENTIAL_IN_TEXT.length (text.drop p) = some 79 := by
  simp [CREDENTIAL_IN_TEXT, h.arLength]

/-- The letters and the underscores of a legacy prefix. -/
lemma legacyPrefix_eq (kind : CredentialKind) : ∃ a b : Char,
    ¬ (a = 'a' ∧ b = 'r') ∧ kind.legacyPrefix = [a, b, '_', 'l', 'i', 'v', 'e', '_'] := by
  cases kind with
  | workspace => exact ⟨'r', 'k', by decide, by decide⟩
  | agent => exact ⟨'a', 't', by decide, by decide⟩
  | node => exact ⟨'n', 't', by decide, by decide⟩
  | observer => exact ⟨'o', 't', by decide, by decide⟩
  | webhook => exact ⟨'w', 'h', by decide, by decide⟩

/-- What a credential of the legacy family begins with. -/
lemma legacy_start (h : legacyLength (text.drop s) = some n) :
    text[s + 2]? = some '_' ∧ text[s + 7]? = some '_' ∧
      ¬ (text[s]? = some 'a' ∧ text[s + 1]? = some 'r') := by
  have hlead := (legacyLength_eq_some h).1
  obtain ⟨kind, hkind⟩ := hlead
  obtain ⟨rest, hrest⟩ := hkind
  have hat : ∀ i, text[s + i]? = (kind.legacyPrefix ++ rest)[i]? := by
    intro i
    rw [hrest, List.getElem?_drop]
  have hzero := hat 0
  rw [Nat.add_zero] at hzero
  obtain ⟨a, b, hab, hletters⟩ := legacyPrefix_eq kind
  rw [hat 2, hat 7, hzero, hat 1, hletters]
  exact ⟨rfl, rfl, by simpa using hab⟩

lemma ArAt.start (h : ArAt text p) : text[p]? = some 'a' ∧ text[p + 1]? = some 'r' := by
  obtain ⟨m, -, htext⟩ := h.exists_groups
  have hzero := htext 0 (by omega)
  rw [Nat.add_zero] at hzero
  rw [hzero, htext 1 (by omega)]
  simp [ArGroups.text, ArGroups.body, AR_CREDENTIAL_PREFIX]

/-- What begins with a legacy prefix is no credential of the `ar` family. -/
lemma length_of_legacy (h : legacyLength (text.drop s) = some n) :
    CREDENTIAL_IN_TEXT.length (text.drop s) = some n := by
  have hnone : arLength (text.drop s) = none := by
    cases har : arLength (text.drop s) with
    | none => rfl
    | some k => exact absurd (arAt_of_arLength har).start (legacy_start h).2.2
  simp [CREDENTIAL_IN_TEXT, hnone, h]

/-- A credential begins at the place, of either family. -/
def ShapeAt (text : Text) (p : ℕ) : Prop :=
  text[p + 2]? = some '_' ∧ (text[p + 5]? = some '_' ∨ text[p + 7]? = some '_')

lemma ArAt.shapeAt (h : ArAt text p) : ShapeAt text p :=
  ⟨(h.underscore_iff (by omega)).mpr (.inl rfl),
    .inl ((h.underscore_iff (by omega)).mpr (.inr (.inl rfl)))⟩

lemma shapeAt_of_legacy (h : legacyLength (text.drop s) = some n) : ShapeAt text s :=
  ⟨(legacy_start h).1, .inr (legacy_start h).2.1⟩

/-- **Overlaps.**  What begins inside of a text in the shape of a credential begins with its last
one or two characters. -/
lemma ShapeAt.overlap (h : ShapeAt text p) (hq : ArAt text q) (hqp : q < p) (hpq : p < q + 79) :
    q + 77 = p ∨ q + 78 = p := by
  obtain ⟨hfirst, hsecond⟩ := h
  obtain ⟨k, rfl⟩ := Nat.exists_eq_add_of_lt hqp
  have hat : ∀ i, q + k + 1 + i = q + (k + 1 + i) := fun i => by omega
  rw [hat 2] at hfirst
  rw [hat 5, hat 7] at hsecond
  by_contra hnot
  have hset : IsUnderscore (k + 1 + 2) := (hq.underscore_iff (by omega)).mp hfirst
  unfold IsUnderscore at hset
  rcases hsecond with hsecond | hsecond
  · have hset' : IsUnderscore (k + 1 + 5) := (hq.underscore_iff (by omega)).mp hsecond
    unfold IsUnderscore at hset'
    omega
  · have hset' : IsUnderscore (k + 1 + 7) := (hq.underscore_iff (by omega)).mp hsecond
    unfold IsUnderscore at hset'
    omega

/-! ## Runs of the legacy family -/

/-- The characters from `start` up to `stop` go on with a credential of the legacy family. -/
def TokenRun (text : Text) (start stop : ℕ) : Prop :=
  ∀ i, start ≤ i → i < stop → ∃ c, text[i]? = some c ∧ isTokenChar c = true

lemma getElem?_takeWhile {f : Char → Bool} {xs : Text} {i : ℕ}
    (h : i < (xs.takeWhile f).length) : ∃ c, xs[i]? = some c ∧ f c = true := by
  have hlead := List.takeWhile_prefix f (l := xs)
  refine ⟨(xs.takeWhile f)[i], ?_, List.mem_takeWhile_imp (List.getElem_mem h)⟩
  obtain ⟨rest, hrest⟩ := hlead
  have happend : (xs.takeWhile f ++ rest)[i]? = (xs.takeWhile f)[i]? := List.getElem?_append_left h
  rw [← List.getElem?_eq_getElem h, ← happend, hrest]

/-- What ends a run. -/
lemma not_of_getElem?_length_takeWhile {f : Char → Bool} {xs : Text} {c : Char}
    (h : xs[(xs.takeWhile f).length]? = some c) : f c = false := by
  induction xs with
  | nil => simp at h
  | cons x xs ih =>
    by_cases hx : f x = true
    · rw [List.takeWhile_cons_of_pos hx, List.length_cons, List.getElem?_cons_succ] at h
      exact ih h
    · rw [List.takeWhile_cons_of_neg hx] at h
      simp only [List.length_nil, List.getElem?_cons_zero, Option.some.injEq] at h
      simpa [← h] using hx

/-- A credential of the legacy family is a run. -/
lemma tokenRun_of_legacy (h : legacyLength (text.drop s) = some n) : TokenRun text s (s + n) := by
  obtain ⟨hlead, hn, -⟩ := legacyLength_eq_some h
  intro i hsi hin
  obtain ⟨k, rfl⟩ := Nat.exists_eq_add_of_le hsi
  rcases Nat.lt_or_ge k 8 with hk | hk
  · obtain ⟨kind, rest, hrest⟩ := hlead
    have hall : ∀ kind : CredentialKind, kind.legacyPrefix.all isTokenChar = true := by
      intro kind
      rw [isTokenChar_eq]
      cases kind <;> decide +kernel
    have hlen : k < kind.legacyPrefix.length := by
      obtain ⟨a, b, -, hletters⟩ := legacyPrefix_eq kind
      rw [hletters]
      exact hk
    refine ⟨kind.legacyPrefix[k], ?_, List.all_eq_true.mp (hall kind) _ (List.getElem_mem hlen)⟩
    rw [← List.getElem?_drop, ← hrest, List.getElem?_append_left hlen, List.getElem?_eq_getElem hlen]
  · obtain ⟨j, rfl⟩ := Nat.exists_eq_add_of_le hk
    have hj : j < (((text.drop s).drop 8).takeWhile isTokenChar).length := by omega
    obtain ⟨c, hc, htoken⟩ := getElem?_takeWhile hj
    rw [List.getElem?_drop, List.getElem?_drop] at hc
    exact ⟨c, hc, htoken⟩

/-- It goes on as far as it can. -/
lemma le_of_tokenRun {start stop : ℕ} (h : legacyLength (text.drop s) = some n)
    (hstart : start < s + n) (hrun : TokenRun text start stop) : stop ≤ s + n := by
  obtain ⟨-, hn, -⟩ := legacyLength_eq_some h
  by_contra hstop
  obtain ⟨c, hc, htoken⟩ := hrun (s + n) (by omega) (by omega)
  have hend : ((text.drop s).drop 8)[(((text.drop s).drop 8).takeWhile isTokenChar).length]? =
      some c := by
    rw [List.getElem?_drop, List.getElem?_drop, ← hn]
    exact hc
  rw [not_of_getElem?_length_takeWhile hend] at htoken
  cases htoken

/-- A credential of the `ar` family goes on with one of the legacy family. -/
lemma ArAt.tokenRun (h : ArAt text p) : TokenRun text p (p + 79) := by
  obtain ⟨m, hwell, htext⟩ := h.exists_groups
  have hbase : ∀ group : Text, base62.IsText group → ∀ c ∈ group, isTokenChar c = true := by
    intro group hgroup c hc
    have hmem : c ∈ BASE62 := hgroup c hc
    simp [isTokenChar, hmem]
  have hkinds : ∀ kind : CredentialKind, kind.code.all isTokenChar = true := by
    intro kind
    rw [isTokenChar_eq]
    cases kind <;> decide +kernel
  have hlead : AR_CREDENTIAL_PREFIX.all isTokenChar = true := by
    rw [isTokenChar_eq]
    decide +kernel
  have hall : ∀ c ∈ m.text, isTokenChar c = true := by
    obtain ⟨kind, hkind⟩ := hwell.kind
    intro c hc
    simp only [ArGroups.text, ArGroups.body, List.mem_append, List.mem_singleton] at hc
    rcases hc with (((((((hc | hc) | rfl) | hc) | rfl) | hc) | rfl) | hc) | hc
    · exact List.all_eq_true.mp hlead c hc
    · exact List.all_eq_true.mp (hkinds kind) c (hkind ▸ hc)
    · simp [isTokenChar]
    · exact hbase _ hwell.wsid.2 c hc
    · simp [isTokenChar]
    · exact hbase _ hwell.isText_tag c hc
    · simp [isTokenChar]
    · exact hbase _ hwell.secret.2 c hc
    · exact hbase _ hwell.crc.2 c hc
  have hlen := hwell.length_text
  intro i hpi hi
  obtain ⟨k, rfl⟩ := Nat.exists_eq_add_of_le hpi
  have hk : k < m.text.length := by omega
  exact ⟨m.text[k], by rw [htext k (by omega), List.getElem?_eq_getElem hk],
    hall _ (List.getElem_mem hk)⟩

/-! ## Where the search gets to -/

/-- A text in the shape of a credential, which is replaced, ends with the first letters of what
begins at the place. -/
def TakenByAr (text : Text) (p : ℕ) : Prop :=
  ∃ q, (q + 77 = p ∨ q + 78 = p) ∧ ArAt text q ∧ CREDENTIAL_IN_TEXT.Reaches text q

/-- A credential of the legacy family, which is replaced, goes on to the place. -/
def TakenByLegacy (text : Text) (p : ℕ) : Prop :=
  ∃ s, LegacyInto text s p ∧ CREDENTIAL_IN_TEXT.Reaches text s

lemma TakenByAr.inside (h : TakenByAr text p) : ∃ q, CREDENTIAL_IN_TEXT.Inside text q p := by
  obtain ⟨q, hplace, hq, hreaches⟩ := h
  exact ⟨q, hreaches, 79, hq.length, by omega, by omega⟩

lemma TakenByLegacy.inside (h : TakenByLegacy text p) :
    ∃ s, CREDENTIAL_IN_TEXT.Inside text s p := by
  obtain ⟨s, ⟨hsp, n, hn, hlt⟩, hreaches⟩ := h
  exact ⟨s, hreaches, n, length_of_legacy hn, hsp, hlt⟩

/-- What a credential lies inside of. -/
lemma ShapeAt.taken (h : ShapeAt text p) (hinside : CREDENTIAL_IN_TEXT.Inside text s p) :
    TakenByAr text p ∨ TakenByLegacy text p := by
  obtain ⟨hreaches, n, hn, hsp, hpn⟩ := hinside
  rcases Option.or_eq_some_iff.mp hn with har | ⟨-, hlegacy⟩
  · have hs := arAt_of_arLength har
    obtain ⟨rfl, -⟩ := arLength_eq_some har
    exact .inl ⟨s, h.overlap hs hsp hpn, hs, hreaches⟩
  · exact .inr ⟨s, ⟨hsp, n, hlegacy, hpn⟩, hreaches⟩

/-- The search reaches what is not taken. -/
lemma ShapeAt.reaches (h : ShapeAt text p) (hlen : p ≤ text.length) (har : ¬ TakenByAr text p)
    (hlegacy : ¬ TakenByLegacy text p) : CREDENTIAL_IN_TEXT.Reaches text p := by
  rcases Pattern.reaches_or_inside hlen with hreaches | ⟨s, hinside⟩
  · exact hreaches
  · rcases h.taken hinside with htaken | htaken
    · exact absurd htaken har
    · exact absurd htaken hlegacy

lemma length_of_legacyInto (h : LegacyInto text s p) : s ≤ text.length := by
  obtain ⟨-, n, hn, -⟩ := h
  have hle := CREDENTIAL_IN_TEXT.le (length_of_legacy hn)
  have hpos := CREDENTIAL_IN_TEXT.pos (length_of_legacy hn)
  rw [List.length_drop] at hle
  omega

/-- A legacy credential that nothing in the shape of the other family has taken letters of: it is
replaced, or part of one that is. -/
lemma takenByLegacy_of_legacyInto (h : LegacyInto text s p) (hs : ¬ TakenByAr text s) :
    TakenByLegacy text p := by
  have hlen := length_of_legacyInto h
  obtain ⟨hsp, n, hn, hpn⟩ := h
  by_cases hlegacy : TakenByLegacy text s
  · obtain ⟨s', ⟨hss, n', hn', hsn⟩, hreaches⟩ := hlegacy
    have hrun := le_of_tokenRun hn' hsn (tokenRun_of_legacy hn)
    exact ⟨s', ⟨by omega, n', hn', by omega⟩, hreaches⟩
  · exact ⟨s, ⟨hsp, n, hn, hpn⟩, (shapeAt_of_legacy hn).reaches hlen hs hlegacy⟩

/-- **What loses its first letters, as the text shows it.** -/
lemma eclipsed_iff (h : ShapeAt text p) : Eclipsed text p ↔ TakenByAr text p := by
  induction p using Nat.strongRecOn with
  | ind p ih =>
    have hlegacy : ∀ q < p, (∃ s, ∃ _ : s < q, LegacyInto text s q ∧ ¬ Eclipsed text s) ↔
        TakenByLegacy text q := by
      intro q hqp
      constructor
      · rintro ⟨s, hsq, hinto, hs⟩
        obtain ⟨-, n, hn, -⟩ := id hinto
        exact takenByLegacy_of_legacyInto hinto
          fun htaken => hs ((ih s (by omega) (shapeAt_of_legacy hn)).mpr htaken)
      · rintro ⟨s, hinto, hreaches⟩
        obtain ⟨hsq, n, hn, -⟩ := id hinto
        refine ⟨s, hsq, hinto, fun heclipsed => ?_⟩
        have htaken := (ih s (by omega) (shapeAt_of_legacy hn)).mp heclipsed
        obtain ⟨q', hinside⟩ := htaken.inside
        exact hinside.not_reaches hreaches
    rw [Eclipsed]
    constructor
    · rintro ⟨q, hqp, hplace, hq, heclipsed, hnone⟩
      have hfree : ¬ TakenByAr text q := fun htaken =>
        heclipsed ((ih q hqp hq.shapeAt).mpr htaken)
      have hle := hq.length_le
      exact ⟨q, hplace, hq,
        hq.shapeAt.reaches (by omega) hfree fun htaken => hnone ((hlegacy q hqp).mpr htaken)⟩
    · rintro ⟨q, hplace, hq, hreaches⟩
      have hqp : q < p := by omega
      refine ⟨q, hqp, hplace, hq, fun heclipsed => ?_, fun hsome => ?_⟩
      · obtain ⟨s, hinside⟩ := ((ih q hqp hq.shapeAt).mp heclipsed).inside
        exact hinside.not_reaches hreaches
      · obtain ⟨s, hinside⟩ := ((hlegacy q hqp).mp hsome).inside
        exact hinside.not_reaches hreaches

/-! ## What is replaced -/

/-- What loses its first letters is not replaced as a whole. -/
lemma TakenByAr.not_replaced (h : TakenByAr text p) : ¬ CREDENTIAL_IN_TEXT.Replaced text p 79 := by
  intro hreplaced
  obtain ⟨s, n, hs, hn, hsp, hpn⟩ := Pattern.replaced_iff.mp hreplaced
  obtain ⟨q, hplace, hq, hreaches⟩ := h
  rcases Nat.lt_trichotomy s q with hsq | rfl | hsq
  · exact Pattern.Inside.not_reaches ⟨hs, n, hn, hsq, by omega⟩ hreaches
  · have hsame := Option.some.inj (hn.symm.trans hq.length)
    omega
  · exact Pattern.Inside.not_reaches ⟨hreaches, 79, hq.length, hsq, by omega⟩ hs

/-- What does not is. -/
lemma ArAt.replaced (h : ArAt text p) (har : ¬ TakenByAr text p) :
    CREDENTIAL_IN_TEXT.Replaced text p 79 := by
  have hle := h.length_le
  by_cases hlegacy : TakenByLegacy text p
  · obtain ⟨s, ⟨hsp, n, hn, hpn⟩, hreaches⟩ := hlegacy
    exact Pattern.replaced_iff.mpr ⟨s, n, hreaches, length_of_legacy hn, by omega,
      le_of_tokenRun hn hpn h.tokenRun⟩
  · exact Pattern.replaced_iff.mpr ⟨p, 79, h.shapeAt.reaches (by omega) har hlegacy, h.length,
      Nat.le_refl _, Nat.le_refl _⟩

lemma ArAt.hidden_iff (h : ArAt text p) : Hidden text p ↔ ¬ Eclipsed text p := by
  rw [eclipsed_iff h.shapeAt]
  constructor
  · exact fun hhidden htaken => htaken.not_replaced hhidden.1
  · intro hfree
    have hreplaced := h.replaced hfree
    refine ⟨hreplaced, fun i hi => hreplaced.not_copied (by omega) ?_⟩
    unfold AR_SECRET_LENGTH at hi
    omega

/-- A credential stands where it stands. -/
lemma arAt_of_encode {args : CredentialArgs} {c : Text} (hc : encodeArCredential args = .ok c)
    (before after : Text) : ArAt (before ++ (c ++ after)) before.length := by
  obtain ⟨m, hm, rfl⟩ := encodeArCredential_eq_ok_iff.mp hc
  have hlen := hm.wellFormed.length_text
  unfold ArAt
  rw [List.drop_left' rfl, List.take_left' hlen, AR_eq_some_iff.mpr ⟨hm.wellFormed, rfl⟩]
  rfl

/-- **Which credentials are redacted.** -/
theorem redaction_iff {args : CredentialArgs} {c : Text} (hc : encodeArCredential args = .ok c)
    (before after : Text) :
    Hidden (before ++ (c ++ after)) before.length ↔
      ¬ Eclipsed (before ++ (c ++ after)) before.length :=
  (arAt_of_encode hc before after).hidden_iff

/-- A credential on its own. -/
theorem redaction_iff_sample : encodeArCredential sampleArgs = .ok sample.text ∧
    (Hidden ([] ++ (sample.text ++ [])) 0 ↔ ¬ Eclipsed ([] ++ (sample.text ++ [])) 0) :=
  ⟨encode_sampleArgs, redaction_iff encode_sampleArgs [] []⟩

/-- A credential behind one that has lost its last two characters: the secret is in the output. -/
theorem not_hidden_truncated : encodeArCredential sampleArgs = .ok sample.text ∧
    ¬ Hidden (sample.text.take 77 ++ (sample.text ++ [])) (sample.text.take 77).length ∧
    sample.secret <:+: redactCredentials (sample.text.take 77 ++ (sample.text ++ [])) "***".toList := by
  have htaken : TakenByAr (sample.text.take 77 ++ (sample.text ++ [])) 77 :=
    ⟨0, .inl rfl, by decide, .start⟩
  have hlen : (sample.text.take 77).length = 77 := by decide +kernel
  refine ⟨encode_sampleArgs, fun hhidden => ?_, by decide +kernel⟩
  rw [hlen] at hhidden
  exact htaken.not_replaced hhidden.1

end CredentialFormat
