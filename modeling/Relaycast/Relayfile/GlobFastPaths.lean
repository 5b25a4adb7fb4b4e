import Relaycast.Relayfile.GlobMatcher

/-!
# The fast paths of the globs

A glob with its only stars at the end is decided on its text.  The canonical form of a path is its
segments with a slash before each (`rooted`), so a glob `dir/**` or `dir/*` begins with the segments
of `dir`, and what the fast paths compare is whether the path begins with them as well.

White space is taken from the ends of a text before it is divided into segments, and not again after
the segments are joined.  So a canonical form is its own canonical form unless it ends with white
space (`normalizeMatchPath_of_canonical`).  The fast path of `dir/**` brings `dir` into canonical
form once more, the one of `dir/*` does not.
-/

namespace Relayfile

open Script

/-! ## Canonical forms -/

/-- A segment that stands in a canonical form. -/
def IsName (segment : List Char) : Prop :=
  segment ≠ [] ∧ '/' ∉ segment ∧ segment ≠ ['.'] ∧ segment ≠ ['.', '.']

instance (segment : List Char) : Decidable (IsName segment) :=
  inferInstanceAs (Decidable (segment ≠ [] ∧ '/' ∉ segment ∧ segment ≠ ['.'] ∧
    segment ≠ ['.', '.']))

/-- The segments of the canonical form. -/
def canonicalSegments (path : List Char) : List (List Char) :=
  ((trimPath path).splitOn '/').foldl canonicalStep []

/-- Segments with a slash before each. -/
def rooted (segs : List (List Char)) : List Char := segs.flatMap ('/' :: ·)

variable {segs more : List (List Char)} {text path glob dir : List Char}

@[simp] lemma rooted_nil : rooted [] = [] := rfl

@[simp] lemma rooted_append : rooted (segs ++ more) = rooted segs ++ rooted more := by
  simp [rooted]

@[simp] lemma rooted_singleton (segment : List Char) : rooted [segment] = '/' :: segment := by
  simp [rooted]

lemma rooted_eq (h : segs ≠ []) : rooted segs = '/' :: ['/'].intercalate segs := by
  induction segs with
  | nil => exact absurd rfl h
  | cons segment segs ih =>
    cases segs with
    | nil => simp [rooted]
    | cons segment' segs =>
      rw [List.intercalate_cons_cons, rooted, List.flatMap_cons]
      have hrest := ih (by simp)
      rw [rooted] at hrest
      rw [hrest]
      simp

/-- The parts between separators do not hold the separator. -/
lemma slash_not_mem_splitOn : ∀ segment ∈ text.splitOn '/', '/' ∉ segment := by
  induction text with
  | nil => simp
  | cons c text ih =>
    rw [List.splitOn_cons_eq_if_modifyHead]
    split
    · simpa using ih
    · rename_i hc
      obtain ⟨first, rest, hsplit⟩ := List.exists_cons_of_ne_nil (List.splitOn_ne_nil '/' text)
      rw [hsplit] at ih ⊢
      obtain ⟨hfirst, hrest⟩ := List.forall_mem_cons.mp ih
      rw [List.modifyHead_cons]
      refine List.forall_mem_cons.mpr ⟨?_, hrest⟩
      simp only [List.mem_cons, not_or]
      exact ⟨fun h => hc (by rw [← h]; rfl), hfirst⟩

/-- A segment leaves names. -/
lemma isName_canonicalStep {segment : List Char} (h : ∀ name ∈ segs, IsName name)
    (hslash : '/' ∉ segment) : ∀ name ∈ canonicalStep segs segment, IsName name := by
  unfold canonicalStep
  split
  · exact h
  · rename_i hsome
    split
    · exact fun name hin => h name (List.dropLast_subset _ hin)
    · rename_i hup
      intro name hin
      rcases List.mem_append.mp hin with hin | hin
      · exact h name hin
      · obtain rfl := List.mem_singleton.mp hin
        exact ⟨fun hnil => hsome (.inl hnil), hslash, fun hdot => hsome (.inr hdot), hup⟩

/-- A name is added to the segments. -/
lemma canonicalStep_name {name : List Char} (h : IsName name) :
    canonicalStep segs name = segs ++ [name] := by
  obtain ⟨hnil, -, hdot, hup⟩ := h
  rw [canonicalStep, if_neg (not_or.mpr ⟨hnil, hdot⟩), if_neg hup]

/-- A canonical form consists of names. -/
lemma isName_canonicalSegments : ∀ name ∈ canonicalSegments path, IsName name := by
  have hall : ∀ parts : List (List Char), (∀ part ∈ parts, '/' ∉ part) → ∀ before,
      (∀ name ∈ before, IsName name) → ∀ name ∈ parts.foldl canonicalStep before, IsName name := by
    intro parts
    induction parts with
    | nil => exact fun _ before h => h
    | cons part parts ih =>
      intro hparts before h
      obtain ⟨hpart, hparts⟩ := List.forall_mem_cons.mp hparts
      exact ih hparts _ (isName_canonicalStep h hpart)
  exact hall _ slash_not_mem_splitOn [] (by simp)

/-- Names are left as they are. -/
lemma foldl_canonicalStep (h : ∀ name ∈ more, IsName name) :
    more.foldl canonicalStep segs = segs ++ more := by
  induction more generalizing segs with
  | nil => simp
  | cons name more ih =>
    obtain ⟨hname, hmore⟩ := List.forall_mem_cons.mp h
    rw [List.foldl_cons, canonicalStep_name hname, ih hmore, List.append_assoc,
      List.singleton_append]

lemma normalizeMatchPath_eq (path : List Char) :
    normalizeMatchPath path = '/' :: ['/'].intercalate (canonicalSegments path) := rfl

/-- The canonical form of a path that is not the root. -/
lemma normalizeMatchPath_eq_rooted (h : normalizeMatchPath path ≠ ['/']) :
    normalizeMatchPath path = rooted (canonicalSegments path) := by
  rw [rooted_eq, normalizeMatchPath_eq]
  intro hnil
  rw [normalizeMatchPath_eq, hnil] at h
  exact h rfl

/-! ## The segments of a canonical form -/

lemma segments_append_slash (front back : List Char) :
    segments (front ++ '/' :: back) = segments front ++ segments back := by
  rw [segments, List.splitOn_append_cons_self, List.filter_append]
  rfl

lemma segments_of_not_mem (h : '/' ∉ text) (hne : text ≠ []) : segments text = [text] := by
  rw [segments, List.splitOn_eq_singleton h]
  simp [hne]

lemma segments_rooted (h : ∀ name ∈ segs, IsName name) : segments (rooted segs) = segs := by
  induction segs with
  | nil => rfl
  | cons name segs ih =>
    obtain ⟨hname, hsegs⟩ := List.forall_mem_cons.mp h
    have hrest := ih hsegs
    have hcons : rooted (name :: segs) = '/' :: (name ++ rooted segs) := by simp [rooted]
    rw [hcons, ← List.nil_append ('/' :: _), segments_append_slash]
    cases segs with
    | nil =>
      rw [rooted_nil, List.append_nil, segments_of_not_mem hname.2.1 hname.1]
      rfl
    | cons name' segs =>
      have hcons' : rooted (name' :: segs) = '/' :: (name' ++ rooted segs) := by simp [rooted]
      rw [hcons'] at hrest ⊢
      rw [← List.nil_append ('/' :: _), segments_append_slash] at hrest
      rw [segments_append_slash, segments_of_not_mem hname.2.1 hname.1]
      exact congrArg (name :: ·) hrest

/-! ## Stability -/

/-- Does the text end with something else than white space? -/
def EndsVisible (text : List Char) : Prop := text.getLast?.all (!whiteSpace.contains ·) = true

instance (text : List Char) : Decidable (EndsVisible text) :=
  inferInstanceAs (Decidable (_ = true))

lemma trimPath_idem (text : List Char) : trimPath (trimPath text) = trimPath text := by
  have heq : ∀ cs : List Char, trimPath cs = (trim (String.ofList cs)).toList := fun cs => by
    rw [trim_toList, String.toList_ofList, trimPath]
  rw [heq (trimPath text), heq text, String.ofList_toList, trim_eq_self (trimmed_trim _)]

/-- Nothing is trimmed from a text between a slash and something visible. -/
lemma trimPath_slash (h : EndsVisible ('/' :: text)) : trimPath ('/' :: text) = '/' :: text := by
  rw [trimPath, List.dropWhile_cons_of_neg (by decide), List.rdropWhile_eq_self_iff]
  intro hne
  rw [EndsVisible, List.getLast?_eq_getLast_of_ne_nil hne] at h
  simpa using h

/-- A canonical form that does not end with white space is its own canonical form. -/
lemma normalizeMatchPath_of_canonical (h : ∀ name ∈ segs, IsName name)
    (hend : EndsVisible ('/' :: ['/'].intercalate segs)) :
    normalizeMatchPath ('/' :: ['/'].intercalate segs) = '/' :: ['/'].intercalate segs := by
  have hsplit : canonicalSegments ('/' :: ['/'].intercalate segs) = segs := by
    rw [canonicalSegments, trimPath_slash hend, ← List.nil_append ('/' :: _),
      List.splitOn_append_cons_self, List.splitOn_nil, List.singleton_append, List.foldl_cons]
    have hnil : canonicalStep [] [] = [] := rfl
    rw [hnil]
    by_cases hsegs : segs = []
    · subst hsegs
      rfl
    · rw [List.splitOn_intercalate '/' (fun name hin => (h name hin).2.1) hsegs,
        foldl_canonicalStep h, List.nil_append]
  rw [normalizeMatchPath_eq, hsplit]

/-- The canonical form, brought into canonical form. -/
lemma normalizeMatchPath_idem (h : EndsVisible (normalizeMatchPath path)) :
    normalizeMatchPath (normalizeMatchPath path) = normalizeMatchPath path :=
  normalizeMatchPath_of_canonical isName_canonicalSegments h

/-! ## What begins with the segments of a directory -/

variable {init : List (List Char)} {last : List Char}

lemma rooted_injective (hsegs : ∀ name ∈ segs, IsName name) (hmore : ∀ name ∈ more, IsName name)
    (h : rooted segs = rooted more) : segs = more := by
  rw [← segments_rooted hsegs, h, segments_rooted hmore]

/-- Behind the segments of a directory and a slash there are the segments of the rest. -/
lemma eq_append_of_rooted (hsegs : ∀ name ∈ segs, IsName name) (hinit : ∀ name ∈ init, IsName name)
    (h : rooted segs = rooted init ++ '/' :: text) : segs = init ++ segments text := by
  rw [← segments_rooted hsegs, h, segments_append_slash, segments_rooted hinit]

/-- What stands before the last segment of a canonical form is made of its other segments. -/
lemma rooted_segments_dir (hsegs : ∀ name ∈ segs, IsName name) (hlast : '/' ∉ last)
    (hne : last ≠ []) (h : rooted segs = dir ++ '/' :: last) :
    segs = segments dir ++ [last] ∧ dir = rooted (segments dir) := by
  have heq : segs = segments dir ++ [last] := by
    rw [← segments_rooted hsegs, h, segments_append_slash, segments_of_not_mem hlast hne]
  refine ⟨heq, ?_⟩
  rw [heq, rooted_append, rooted_singleton] at h
  exact (List.append_cancel_right h).symm

/-- The text begins with a directory and a slash, if there is more than the directory. -/
lemma prefix_rooted_iff (hsegs : ∀ name ∈ segs, IsName name) (hinit : ∀ name ∈ init, IsName name) :
    rooted segs = rooted init ∨ rooted init ++ ['/'] <+: rooted segs ↔ init <+: segs := by
  constructor
  · rintro (h | ⟨text, h⟩)
    · rw [rooted_injective hsegs hinit h]
    · rw [List.append_assoc, List.singleton_append] at h
      exact ⟨segments text, (eq_append_of_rooted hsegs hinit h.symm).symm⟩
  · rintro ⟨rest, rfl⟩
    cases rest with
    | nil => exact .inl (by simp)
    | cons name rest =>
      refine .inr ⟨name ++ rooted rest, ?_⟩
      simp [rooted]

/-- What stands behind a directory and a slash is one segment, if it has no slash. -/
lemma rooted_one_iff (hsegs : ∀ name ∈ segs, IsName name) (hinit : ∀ name ∈ init, IsName name) :
    (∃ text, rooted segs = rooted init ++ '/' :: text ∧ '/' ∉ text) ↔
      ∃ name, segs = init ++ [name] := by
  constructor
  · rintro ⟨text, h, hslash⟩
    have heq := eq_append_of_rooted hsegs hinit h
    by_cases hne : text = []
    · subst hne
      have hnil : segments [] = [] := rfl
      rw [hnil, List.append_nil] at heq
      rw [heq] at h
      have hlen := congrArg List.length h
      simp at hlen
    · exact ⟨text, by rw [heq, segments_of_not_mem hslash hne]⟩
  · rintro ⟨name, rfl⟩
    exact ⟨name, by simp, (hsegs name (by simp)).2.1⟩

/-! ## The globs of a directory -/

lemma segmentToken_literal (h : '*' ∉ text) : segmentToken text = .one (· = text) := by
  have hne : text ≠ ['*', '*'] := fun heq => h (by simp [heq])
  rw [segmentToken, if_neg hne, map_charToken_eq_literals h]
  refine congrArg Token.one (funext fun part => propext ?_)
  rw [← List.append_nil (literals text), matches_literals_append]
  simp

lemma map_segmentToken_literals (h : ∀ name ∈ init, '*' ∉ name) :
    init.map segmentToken = literals init :=
  List.map_congr_left fun name hin => segmentToken_literal (h name hin)

lemma segments_dir_append (hinit : ∀ name ∈ init, IsName name) (hlast : '/' ∉ last)
    (hne : last ≠ []) : segments (rooted init ++ '/' :: last) = init ++ [last] := by
  rw [segments_append_slash, segments_rooted hinit, segments_of_not_mem hlast hne]

/-- The matcher, for everything below a directory. -/
lemma webhookPathSegmentsMatch_below (hsegs : ∀ name ∈ segs, IsName name)
    (hinit : ∀ name ∈ init, IsName name) (hstar : ∀ name ∈ init, '*' ∉ name) :
    webhookPathSegmentsMatch (rooted segs) (rooted init ++ ['/', '*', '*']) = true ↔
      init <+: segs := by
  rw [webhookPathSegmentsMatch_iff, segments_rooted hsegs,
    segments_dir_append hinit (by decide) (by decide), List.map_append,
    map_segmentToken_literals hstar, matches_literals_append]
  constructor
  · rintro ⟨back, rfl, -⟩
    exact List.prefix_append init back
  · rintro ⟨back, rfl⟩
    exact ⟨back, rfl, back, [], by simp, by simp⟩

/-- The matcher, for the files of a directory. -/
lemma webhookPathSegmentsMatch_inside (hsegs : ∀ name ∈ segs, IsName name)
    (hinit : ∀ name ∈ init, IsName name) (hstar : ∀ name ∈ init, '*' ∉ name) :
    webhookPathSegmentsMatch (rooted segs) (rooted init ++ ['/', '*']) = true ↔
      ∃ name, segs = init ++ [name] := by
  rw [webhookPathSegmentsMatch_iff, segments_rooted hsegs,
    segments_dir_append hinit (by decide) (by decide), List.map_append,
    map_segmentToken_literals hstar, matches_literals_append]
  constructor
  · rintro ⟨back, rfl, name, rest, rfl, -, rfl⟩
    exact ⟨name, rfl⟩
  · rintro ⟨name, rfl⟩
    exact ⟨[name], rfl, name, [], rfl, ⟨name, [], by simp, rfl⟩, rfl⟩

/-! ## The fast paths -/

lemma idxOf?_star (h : '*' ∉ dir) (rest : List Char) :
    (dir ++ '*' :: rest).idxOf? '*' = some dir.length := by
  induction dir with
  | nil => simp [List.idxOf?_cons]
  | cons c dir ih =>
    simp only [List.mem_cons, not_or] at h
    rw [List.cons_append, List.idxOf?_cons, ih h.2]
    simp [Ne.symm h.1]

lemma wildcardInside_at_end (h : '*' ∉ dir) {rest : List Char} (hrest : rest.length ≤ 1) :
    wildcardInside (dir ++ '*' :: rest) = false := by
  rw [wildcardInside, idxOf?_star h]
  simp only [List.length_append, List.length_cons, decide_eq_false_iff_not, ne_eq]
  omega

lemma not_mem_rooted (hstar : ∀ name ∈ init, '*' ∉ name) : '*' ∉ rooted init := by
  intro hin
  obtain ⟨name, hname, hin⟩ := List.mem_flatMap.mp hin
  rcases List.mem_cons.mp hin with h | h
  · exact absurd h (by decide)
  · exact hstar name hname h

lemma isName_concat (hinit : ∀ name ∈ init, IsName name) (hlast : IsName last) :
    ∀ name ∈ init ++ [last], IsName name := by
  intro name hin
  rcases List.mem_append.mp hin with hin | hin
  · exact hinit name hin
  · rwa [List.mem_singleton.mp hin]

/-- The fast path, for everything below a directory. -/
lemma canonicalMatches_below (hsegs : ∀ name ∈ segs, IsName name)
    (hinit : ∀ name ∈ init, IsName name) (hstar : ∀ name ∈ init, '*' ∉ name)
    (hend : EndsVisible (rooted init)) :
    canonicalMatches (rooted segs) (rooted init ++ ['/', '*', '*']) = true ↔ init <+: segs := by
  have hglob : rooted init ++ ['/', '*', '*'] = rooted (init ++ [['*', '*']]) := by simp
  have hnames : ∀ name ∈ init ++ [['*', '*']], IsName name := isName_concat hinit (by decide)
  by_cases hnil : init = []
  · subst hnil
    simp [canonicalMatches]
  · have hinside : wildcardInside (rooted init ++ ['/', '*', '*']) = false := by
      rw [List.append_cons]
      exact wildcardInside_at_end (by simpa using not_mem_rooted hstar) (by simp)
    have hdir : normalizeMatchPath (rooted init) = rooted init := by
      rw [rooted_eq hnil] at hend ⊢
      exact normalizeMatchPath_of_canonical hinit hend
    have hroot : rooted init ++ ['/', '*', '*'] ≠ ['/', '*', '*'] := fun h => by
      have hlen := congrArg List.length h
      rw [rooted_eq hnil] at hlen
      simp at hlen
    unfold canonicalMatches
    split
    · rename_i hfirst
      rcases hfirst with h | h
      · exact absurd h hroot
      · rw [hglob] at h
        simp [← rooted_injective hnames hsegs h]
    · rw [hinside, if_neg (by simp), if_pos (by simp)]
      simp only [List.length_append, List.length_cons, List.length_nil, Nat.add_sub_cancel,
        List.take_left', Bool.or_eq_true, beq_iff_eq, List.isPrefixOf_iff_prefix]
      rw [hdir]
      exact prefix_rooted_iff hsegs hinit

/-- The fast path, for the files of a directory. -/
lemma canonicalMatches_inside (hsegs : ∀ name ∈ segs, IsName name)
    (hinit : ∀ name ∈ init, IsName name) (hstar : ∀ name ∈ init, '*' ∉ name) :
    canonicalMatches (rooted segs) (rooted init ++ ['/', '*']) = true ↔
      ∃ name, segs = init ++ [name] := by
  have hglob : rooted init ++ ['/', '*'] = rooted (init ++ [['*']]) := by simp
  have hnames : ∀ name ∈ init ++ [['*']], IsName name := isName_concat hinit (by decide)
  have hinside : wildcardInside (rooted init ++ ['/', '*']) = false := by
    rw [List.append_cons]
    exact wildcardInside_at_end (by simpa using not_mem_rooted hstar) (by simp)
  -- the glob ends with a slash and one star
  have hlast : ∀ front, rooted init ++ ['/', '*'] ≠ front ++ ['/', '*', '*'] := fun front h => by
    have h' : (rooted init ++ ['/']) ++ ['*'] = (front ++ ['/', '*']) ++ ['*'] := by simpa using h
    have hinit := (List.append_inj' h' rfl).1
    have hslash := (List.append_inj' (show rooted init ++ ['/'] = (front ++ ['/']) ++ ['*'] by
      simpa using hinit) rfl).2
    exact absurd hslash (by decide)
  unfold canonicalMatches
  split
  · rename_i hfirst
    rcases hfirst with h | h
    · exact absurd h (hlast [])
    · rw [hglob] at h
      simp [← rooted_injective hnames hsegs h]
  · rw [hinside, if_neg (by simp), if_neg, if_pos (by simp)]
    · simp only [List.length_append, List.length_cons, List.length_nil, Nat.add_sub_cancel,
        List.take_left', Bool.and_eq_true, Bool.not_eq_true', List.isPrefixOf_iff_prefix]
      rw [← rooted_one_iff hsegs hinit]
      constructor
      · rintro ⟨⟨text, h⟩, hslash⟩
        rw [List.append_assoc, List.singleton_append] at h
        rw [← h, List.drop_left, List.drop_one, List.tail_cons] at hslash
        exact ⟨text, h.symm, by simpa using hslash⟩
      · rintro ⟨text, h, hslash⟩
        rw [h, List.drop_left, List.drop_one, List.tail_cons]
        exact ⟨⟨text, by simp⟩, by simpa using hslash⟩
    · rw [List.isSuffixOf_iff_suffix]
      rintro ⟨front, h⟩
      exact hlast front h.symm

/-! ## The globs that are matched -/

/-- The glob as it is matched is a canonical form. -/
lemma normalizedGlob_eq (glob : List Char) : ∃ segs, (∀ name ∈ segs, IsName name) ∧
    normalizedGlob glob = '/' :: ['/'].intercalate segs := by
  rw [normalizedGlob]
  split
  · exact ⟨[['*', '*']], by decide, by simp⟩
  · exact ⟨_, isName_canonicalSegments, rfl⟩

/-- A glob whose only stars stand after a last slash. -/
lemma dir_of_normalizedGlob (h : normalizedGlob glob = dir ++ '/' :: last) (hlast : '/' ∉ last)
    (hne : last ≠ []) (hstar : '*' ∉ dir) :
    dir = rooted (segments dir) ∧ (∀ name ∈ segments dir, IsName name) ∧
      ∀ name ∈ segments dir, '*' ∉ name := by
  obtain ⟨segs, hsegs, hglob⟩ := normalizedGlob_eq glob
  have hnil : segs ≠ [] := fun hnil => by
    subst hnil
    have hlen := congrArg List.length (hglob.symm.trans h)
    have hpos := List.length_pos_of_ne_nil hne
    simp only [List.intercalate_nil, List.length_cons, List.length_nil, List.length_append] at hlen
    omega
  rw [← rooted_eq hnil, h] at hglob
  obtain ⟨heq, hdir⟩ := rooted_segments_dir hsegs hlast hne hglob.symm
  refine ⟨hdir, fun name hin => hsegs name (by rw [heq]; simp [hin]), fun name hin hin' => ?_⟩
  rw [hdir] at hstar
  exact hstar (List.mem_flatMap.mpr ⟨name, hin, List.mem_cons_of_mem _ hin'⟩)

/-- What the fast paths come to.  `dir/**` is decided as the matcher decides it if `dir` does not
end with white space, and `dir/*` always, for every path that is not the root.  A canonical form
that does not end with white space answers as the text it is of, unless this is a glob that stands
for everything. -/
structure FastPaths (path glob : List Char) : Prop where
  below : ∀ dir, normalizedGlob glob = dir ++ ['/', '*', '*'] → '*' ∉ dir → EndsVisible dir →
    normalizeMatchPath path ≠ ['/'] →
    eventMatchesRelayfileGlob path glob =
      webhookPathSegmentsMatch (normalizeMatchPath path) (normalizedGlob glob)
  inside : ∀ dir, normalizedGlob glob = dir ++ ['/', '*'] → '*' ∉ dir →
    normalizeMatchPath path ≠ ['/'] →
    eventMatchesRelayfileGlob path glob =
      webhookPathSegmentsMatch (normalizeMatchPath path) (normalizedGlob glob)
  canonicalPath : EndsVisible (normalizeMatchPath path) →
    eventMatchesRelayfileGlob (normalizeMatchPath path) glob = eventMatchesRelayfileGlob path glob
  canonicalGlob : EndsVisible (normalizeMatchPath glob) → trimPath glob ≠ [] →
    trimPath glob ≠ ['*'] →
    eventMatchesRelayfileGlob path (normalizeMatchPath glob) = eventMatchesRelayfileGlob path glob

/-- A glob that does not stand for everything is matched in its canonical form. -/
lemma normalizedGlob_of_trimPath (hnil : trimPath glob ≠ []) (hstar : trimPath glob ≠ ['*']) :
    normalizedGlob glob = normalizeMatchPath glob := by
  rw [normalizedGlob, if_neg (not_or.mpr ⟨hnil, hstar⟩), normalizeMatchPath, normalizeMatchPath,
    trimPath_idem]

/-- A canonical form is matched as it is. -/
lemma normalizedGlob_of_canonical (h : EndsVisible (normalizeMatchPath glob)) :
    normalizedGlob (normalizeMatchPath glob) = normalizeMatchPath glob := by
  have htrim : trimPath (normalizeMatchPath glob) = normalizeMatchPath glob := trimPath_slash h
  rw [normalizedGlob_of_trimPath _ _, normalizeMatchPath_idem h]
  · rw [htrim]
    exact List.cons_ne_nil _ _
  · rw [htrim, normalizeMatchPath_eq]
    exact fun h => absurd (List.cons.inj h).1 (by decide)

/-- The fast paths agree with the matcher, and the answer depends on the canonical forms, where no
canonical form ends with white space. -/
theorem globFastPaths (path glob : List Char) : FastPaths path glob where
  below := by
    intro dir hglob hstar hend hpath
    obtain ⟨hdir, hinit, hfree⟩ := dir_of_normalizedGlob hglob (by decide) (by decide) hstar
    rw [hdir] at hend
    rw [eventMatchesRelayfileGlob, Bool.eq_iff_iff, hglob, hdir, normalizeMatchPath_eq_rooted hpath,
      canonicalMatches_below isName_canonicalSegments hinit hfree hend,
      webhookPathSegmentsMatch_below isName_canonicalSegments hinit hfree]
  inside := by
    intro dir hglob hstar hpath
    obtain ⟨hdir, hinit, hfree⟩ := dir_of_normalizedGlob hglob (by decide) (by decide) hstar
    rw [eventMatchesRelayfileGlob, Bool.eq_iff_iff, hglob, hdir, normalizeMatchPath_eq_rooted hpath,
      canonicalMatches_inside isName_canonicalSegments hinit hfree,
      webhookPathSegmentsMatch_inside isName_canonicalSegments hinit hfree]
  canonicalPath := by
    intro h
    rw [eventMatchesRelayfileGlob, normalizeMatchPath_idem h]
    rfl
  canonicalGlob := by
    intro h hnil hstar
    rw [eventMatchesRelayfileGlob, normalizedGlob_of_canonical h,
      ← normalizedGlob_of_trimPath hnil hstar]
    rfl

/-- `src/App` below `/src`, as the matcher has it, and with the slashes and dots of another
spelling. -/
theorem globFastPaths_below :
    eventMatchesRelayfileGlob "/src/App".toList "/src/**".toList =
        webhookPathSegmentsMatch "/src/App".toList "/src/**".toList ∧
      eventMatchesRelayfileGlob "/src/App".toList "src/**".toList =
        eventMatchesRelayfileGlob "src/./x/../App".toList "src/**".toList := by
  have h := globFastPaths "/src/App".toList "/src/**".toList
  have h' := globFastPaths "src/./x/../App".toList "src/**".toList
  have hbelow := h.below "/src".toList (by decide +kernel) (by decide +kernel) (by decide +kernel)
    (by decide +kernel)
  have hpath : normalizeMatchPath "/src/App".toList = "/src/App".toList := by decide +kernel
  have hglob : normalizedGlob "/src/**".toList = "/src/**".toList := by decide +kernel
  have hother : normalizeMatchPath "src/./x/../App".toList = "/src/App".toList := by decide +kernel
  rw [hpath, hglob] at hbelow
  have hcanonical := h'.canonicalPath (by decide +kernel)
  rw [hother] at hcanonical
  exact ⟨hbelow, hcanonical⟩

/-- A directory that ends with a space, a lone star, and a path that ends with a space. -/
theorem not_globFastPaths :
    (eventMatchesRelayfileGlob "/a /x".toList "/a /**".toList = false ∧
      normalizeMatchPath "/a /x".toList = "/a /x".toList ∧
      normalizedGlob "/a /**".toList = "/a /**".toList ∧
      webhookPathSegmentsMatch "/a /x".toList "/a /**".toList = true) ∧
    (eventMatchesRelayfileGlob "/a/b".toList "*".toList = true ∧
      eventMatchesRelayfileGlob "/a/b".toList (normalizeMatchPath "*".toList) = false) ∧
    eventMatchesRelayfileGlob "/a /".toList "/a *".toList = true ∧
      eventMatchesRelayfileGlob (normalizeMatchPath "/a /".toList) "/a *".toList = false := by
  have hmatch : webhookPathSegmentsMatch (rooted [['a', ' '], ['x']])
      (rooted [['a', ' ']] ++ ['/', '*', '*']) = true :=
    (webhookPathSegmentsMatch_below (by decide) (by decide) (by decide)).mpr ⟨[['x']], rfl⟩
  refine ⟨⟨?_, ?_, ?_, hmatch⟩, ⟨?_, ?_⟩, ?_, ?_⟩ <;> decide +kernel

end Relayfile
