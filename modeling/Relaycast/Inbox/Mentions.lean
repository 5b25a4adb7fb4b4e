import Relaycast.Relational.FullText
import Relaycast.Script.Text

/-!
# Mentions

A text mentions a handle where an `@` at its beginning, or behind white space, is followed by it,
and the handle ends there.  The full-text query for a handle asks for the words of the handle in a
row, the last one as the beginning of a word: a letter outside ASCII ends a handle and not a word.

Every text that mentions a handle matches the query for it (`matches_of_mentioned`), whatever is
between and behind the words.
-/

namespace Inbox

open Relational Script

/-! ## The code -/

/-- A character of a handle, `[\w-]`. -/
def isHandleChar (c : Char) : Bool := c.isAlphanum || c == '_' || c == '-'

/-- The handle behind an `@`, `@([\w-]+)`. -/
def handleAt : List Char → Option (List Char)
  | '@' :: text =>
    if text.takeWhile isHandleChar = [] then none else some (text.takeWhile isHandleChar)
  | _ => none

/-- A match of `(?:^|\s)@([\w-]+)` where the text goes on, and its length. -/
def mentionAt (atStart : Bool) (text : List Char) : Option (List Char × ℕ) :=
  match (if atStart then handleAt text else none), text with
  | some handle, _ => some (handle, handle.length + 1)
  | none, c :: text =>
    if whiteSpace.contains c then (handleAt text).map fun handle => (handle, handle.length + 2)
    else none
  | none, [] => none

/-- The handles of the matches, behind a match that still has `skip` characters. -/
def matchHandles : ℕ → Bool → List Char → List (List Char)
  | _, _, [] => []
  | skip + 1, _, _ :: text => matchHandles skip false text
  | 0, atStart, c :: text =>
    match mentionAt atStart (c :: text) with
    | some (handle, len) => handle :: matchHandles (len - 1) false text
    | none => matchHandles 0 false text

/-- `parseMessageMentions`. -/
def parseMessageMentions (text : List Char) : List (List Char) :=
  (matchHandles 0 true text).eraseDups

/-- `MENTION_HANDLE`. -/
def isHandle (text : List Char) : Bool := text ≠ [] && text.all isHandleChar

/-- `MENTION_FTS_TOKEN`. -/
def isFtsToken (text : List Char) : Bool := text ≠ [] && text.all (·.isAlphanum)

/-- `MIN_FTS_PREFIX`. -/
def MIN_FTS_PREFIX : ℕ := 4

/-- What separates the words of a handle. -/
def separatesWords (c : Char) : Bool := c == '_' || c == '-'

/-- `agentName.split(/[_-]+/).filter(Boolean)`: splitting at every separator leaves more empty
texts, which are filtered out. -/
def mentionTokens (agentName : List Char) : List (List Char) := words separatesWords agentName

/-- A query: a phrase of the column `workspace_id`, and the beginning of one of the column `body`.
-/
structure FtsQuery where
  workspaceId : List Char
  body : List Char
  deriving DecidableEq

/-- `mentionFtsMatch`. -/
def mentionFtsMatch (workspaceId : List Char) (tokens : List (List Char)) : Option FtsQuery :=
  if tokens = [] then none
  else if isHandle workspaceId = false then none
  else if tokens.any (fun token => !isFtsToken token) then none
  else if (tokens.getLast?.getD []).length < MIN_FTS_PREFIX then none
  else some ⟨workspaceId, [' '].intercalate tokens⟩

/-! ## What a mention says of the text -/

section Mentioned

variable {text name : List Char}

/-- The handle stands in the text, behind an `@`. -/
structure Names (text name : List Char) : Prop where
  nonempty : name ≠ []
  handle : ∀ c ∈ name, isHandleChar c = true
  stands : ∃ before rest, text = before ++ '@' :: (name ++ rest)

lemma Names.cons (h : Names text name) (c : Char) : Names (c :: text) name where
  nonempty := h.nonempty
  handle := h.handle
  stands := by
    obtain ⟨before, rest, htext⟩ := h.stands
    exact ⟨c :: before, rest, by rw [htext, List.cons_append]⟩

lemma names_of_handleAt (h : handleAt text = some name) : Names text name := by
  unfold handleAt at h
  split at h
  · rename_i text
    split_ifs at h with hne
    obtain rfl := Option.some.inj h
    refine ⟨hne, fun c hc => List.mem_takeWhile_imp hc, [], text.dropWhile isHandleChar, ?_⟩
    rw [List.takeWhile_append_dropWhile, List.nil_append]
  · cases h

lemma names_of_mentionAt {atStart : Bool} {len : ℕ}
    (h : mentionAt atStart text = some (name, len)) : Names text name := by
  unfold mentionAt at h
  split at h
  · rename_i handle hhandle
    rw [Option.ite_none_right_eq_some] at hhandle
    obtain ⟨rfl, -⟩ := Prod.mk.inj (Option.some.inj h)
    exact names_of_handleAt hhandle.2
  · rename_i c text _
    rw [Option.ite_none_right_eq_some] at h
    obtain ⟨handle, hhandle, hsame⟩ := Option.map_eq_some_iff.mp h.2
    obtain ⟨rfl, -⟩ := Prod.mk.inj hsame
    exact (names_of_handleAt hhandle).cons c
  · cases h

lemma names_of_matchHandles {skip : ℕ} {atStart : Bool}
    (h : name ∈ matchHandles skip atStart text) : Names text name := by
  fun_induction matchHandles skip atStart text with
  | case1 => exact absurd h List.not_mem_nil
  | case2 skip atStart c text ih => exact (ih h).cons c
  | case3 atStart c text handle len hmatch ih =>
    rcases List.mem_cons.mp h with rfl | h
    · exact names_of_mentionAt hmatch
    · exact (ih h).cons c
  | case4 atStart c text hmatch ih => exact (ih h).cons c

lemma names_of_mentioned (h : name ∈ parseMessageMentions text) : Names text name :=
  names_of_matchHandles (List.mem_eraseDups.mp h)

lemma Names.isHandle (h : Names text name) : isHandle name = true := by
  rw [Inbox.isHandle, Bool.and_eq_true, List.all_eq_true]
  exact ⟨by simpa using h.nonempty, h.handle⟩

/-- What `instr` looks for is there. -/
lemma Names.isInfix (h : Names text name) : '@' :: name <:+: text := by
  obtain ⟨before, rest, rfl⟩ := h.stands
  exact ⟨before, rest, by simp⟩

end Mentioned

/-! ## Queries -/

section Queries

variable {workspaceId body name : List Char} {tokens : List (List Char)} {query : FtsQuery}

/-- What a query is. -/
lemma mentionFtsMatch_some (h : mentionFtsMatch workspaceId tokens = some query) :
    tokens ≠ [] ∧ isHandle workspaceId = true ∧ (∀ token ∈ tokens, isFtsToken token = true) ∧
      query = ⟨workspaceId, [' '].intercalate tokens⟩ := by
  unfold mentionFtsMatch at h
  split_ifs at h with htokens hworkspace hwords hlast
  refine ⟨htokens, by simpa using hworkspace, fun token htoken => ?_, (Option.some.inj h).symm⟩
  by_contra hbad
  exact hwords (List.any_eq_true.mpr ⟨token, htoken, by simpa using hbad⟩)

lemma separatesWords_or {c : Char} (h : isHandleChar c = true) :
    separatesWords c = true ∨ c.isAlphanum = true := by
  simp only [isHandleChar, separatesWords, Bool.or_eq_true] at h ⊢
  tauto

lemma ascii_of_separatesWords {c : Char} (h : separatesWords c = true) :
    c.toNat < 128 ∧ c.isAlphanum = false := by
  simp only [separatesWords, Bool.or_eq_true, beq_iff_eq] at h
  rcases h with rfl | rfl <;> decide

/-- **A text that mentions a handle matches the query for the handle.** -/
lemma matches_of_mentioned (T : Tokenizer) (hname : name ∈ parseMessageMentions body)
    (hquery : mentionFtsMatch workspaceId (mentionTokens name) = some query) :
    hasPrefixPhrase (T.tokens query.body) (T.tokens body) = true := by
  obtain ⟨hne, -, hwords, rfl⟩ := mentionFtsMatch_some hquery
  have hnames := names_of_mentioned hname
  obtain ⟨before, rest, rfl⟩ := hnames.stands
  have hphrase : T.tokens ([' '].intercalate (mentionTokens name)) =
      (mentionTokens name).map T.folded := by
    refine Tokenizer.tokens_intercalate fun word hword => ?_
    have hword := hwords word hword
    rw [isFtsToken, Bool.and_eq_true, List.all_eq_true] at hword
    exact ⟨by simpa using hword.1, hword.2⟩
  rw [hphrase, Tokenizer.tokens, Tokenizer.tokensFrom_append (by decide) (by decide)]
  refine hasPrefixPhrase_append _ (by simpa using hne) ?_
  exact Tokenizer.startsPhrase_append (fun c hc => ascii_of_separatesWords hc) name rest
    fun c hc => separatesWords_or (hnames.handle c hc)

end Queries

end Inbox
