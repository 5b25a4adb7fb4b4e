import Mathlib.Data.List.Infix

/-!
# Full-text indexes

An index holds the tokens of texts: their runs of token characters, folded.  A query asks for a text
with given tokens in a row, of which the last may be the beginning of a token.

`Tokenizer` says of a tokenizer only what it does to ASCII: letters and digits are in tokens, and
everything else is between them.  What is outside ASCII may be either, so a word of letters and
digits may go on behind its last letter.  Words that are joined by separators still start the tokens
of any text that goes on from them (`startsPhrase_append`).
-/

namespace Relational

/-- A tokenizer. -/
structure Tokenizer where
  /-- Does a token start with the character? -/
  starts : Char → Bool
  /-- Does a token go on with the character? -/
  continues : Char → Bool
  /-- What the character is in a token. -/
  fold : Char → List Char
  continues_of_starts : ∀ c, starts c = true → continues c = true
  starts_of_isAlphanum : ∀ c, c.isAlphanum = true → starts c = true
  not_continues_of_ascii : ∀ c, c.toNat < 128 → c.isAlphanum = false → continues c = false

/-- The words between the separators. -/
def words (separates : Char → Bool) (text : List Char) : List (List Char) :=
  (text.splitOnP separates).filter (· ≠ [])

namespace Tokenizer

variable (T : Tokenizer)

/-- The tokens of a text, behind the beginning of a token. -/
def tokensFrom : Option (List Char) → List Char → List (List Char)
  | none, [] => []
  | some token, [] => [token]
  | none, c :: text =>
    if T.starts c then tokensFrom (some (T.fold c)) text else tokensFrom none text
  | some token, c :: text =>
    if T.continues c then tokensFrom (some (token ++ T.fold c)) text
    else token :: tokensFrom none text

/-- The tokens of a text. -/
def tokens (text : List Char) : List (List Char) := T.tokensFrom none text

/-- A word, as its token has it. -/
def folded (word : List Char) : List Char := word.flatMap T.fold

end Tokenizer

/-- Do the tokens start with the phrase, whose last token may be the beginning of one? -/
def startsPhrase : List (List Char) → List (List Char) → Bool
  | [], _ => true
  | [last], token :: _ => last.isPrefixOf token
  | first :: phrase, token :: tokens => first == token && startsPhrase phrase tokens
  | _ :: _, [] => false

/-- Is the phrase anywhere in the tokens?  A phrase without tokens is in no text. -/
def hasPhrase (phrase tokens : List (List Char)) : Bool :=
  phrase ≠ [] && tokens.tails.any fun rest => phrase.isPrefixOf rest

/-- Is the phrase, whose last token may be the beginning of one, anywhere in the tokens? -/
def hasPrefixPhrase (phrase tokens : List (List Char)) : Bool :=
  phrase ≠ [] && tokens.tails.any fun rest => startsPhrase phrase rest

/-! ## Words -/

section Words

variable {separates : Char → Bool}

/-- The words of a text, behind the beginning of a word. -/
def wordsFrom (separates : Char → Bool) : Option (List Char) → List Char → List (List Char)
  | none, [] => []
  | some word, [] => [word]
  | none, c :: text =>
    if separates c then wordsFrom separates none text else wordsFrom separates (some [c]) text
  | some word, c :: text =>
    if separates c then word :: wordsFrom separates none text
    else wordsFrom separates (some (word ++ [c])) text

lemma wordsFrom_eq (text : List Char) :
    wordsFrom separates none text = words separates text ∧ ∀ word, word ≠ [] →
      wordsFrom separates (some word) text =
        ((text.splitOnP separates).modifyHead (word ++ ·)).filter (· ≠ []) := by
  induction text with
  | nil => exact ⟨by simp [wordsFrom, words], fun word hword => by simp [wordsFrom, hword]⟩
  | cons c text ih =>
    rw [words, List.splitOnP_cons_eq_if_modifyHead]
    by_cases hc : separates c = true
    · refine ⟨?_, fun word hword => ?_⟩
      · simp [wordsFrom, hc, ih.1, words]
      · simp [wordsFrom, hc, ih.1, words, hword]
    · refine ⟨?_, fun word hword => ?_⟩
      · simp only [wordsFrom, hc, Bool.false_eq_true, if_false]
        exact ih.2 [c] (by simp)
      · simp only [wordsFrom, hc, Bool.false_eq_true, if_false]
        rw [ih.2 (word ++ [c]) (by simp), List.modifyHead_modifyHead]
        congr 2
        funext rest
        simp

end Words

/-! ## Tokens -/

namespace Tokenizer

variable {T : Tokenizer}

lemma not_starts_of_ascii {c : Char} (h : c.toNat < 128) (hc : c.isAlphanum = false) :
    T.starts c = false := by
  by_contra hstarts
  have := T.continues_of_starts c (by simpa using hstarts)
  rw [T.not_continues_of_ascii c h hc] at this
  exact Bool.noConfusion this

/-- Separators of ASCII end the tokens before them. -/
lemma tokensFrom_append {c : Char} (h : c.toNat < 128) (hc : c.isAlphanum = false)
    (text rest : List Char) : ∀ token, T.tokensFrom token (text ++ c :: rest) =
      T.tokensFrom token text ++ T.tokens rest := by
  induction text with
  | nil =>
    intro token
    cases token <;>
      simp [tokensFrom, tokens, not_starts_of_ascii h hc, T.not_continues_of_ascii c h hc]
  | cons d text ih =>
    intro token
    cases token with
    | none =>
      rw [List.cons_append, tokensFrom, tokensFrom]
      split_ifs <;> exact ih _
    | some token =>
      rw [List.cons_append, tokensFrom, tokensFrom]
      split_ifs
      · exact ih _
      · rw [ih, List.cons_append]

/-- A token that has begun starts with what there is of it. -/
lemma tokensFrom_some (token text : List Char) :
    ∃ more tokens, T.tokensFrom (some token) text = (token ++ more) :: tokens := by
  induction text generalizing token with
  | nil => exact ⟨[], [], by simp [tokensFrom]⟩
  | cons c text ih =>
    rw [tokensFrom]
    split_ifs
    · obtain ⟨more, tokens, h⟩ := ih (token ++ T.fold c)
      exact ⟨T.fold c ++ more, tokens, by rw [h, List.append_assoc]⟩
    · exact ⟨[], T.tokensFrom none text, by rw [List.append_nil]⟩

lemma startsPhrase_cons {phrase tokens : List (List Char)} (first : List Char)
    (h : startsPhrase phrase tokens = true) :
    startsPhrase (first :: phrase) (first :: tokens) = true := by
  cases phrase with
  | nil => simp [startsPhrase]
  | cons => simp [startsPhrase, h]

/-- **The words of a text start the tokens of any text that goes on from it**, where what is between
the words is ASCII and the words are letters and digits. -/
lemma startsPhrase_append {separates : Char → Bool}
    (hascii : ∀ c, separates c = true → c.toNat < 128 ∧ c.isAlphanum = false)
    (text rest : List Char) (htext : ∀ c ∈ text, separates c = true ∨ c.isAlphanum = true) :
    startsPhrase ((words separates text).map T.folded) (T.tokens (text ++ rest)) = true := by
  have key : ∀ text : List Char, (∀ c ∈ text, separates c = true ∨ c.isAlphanum = true) →
      ∀ word : Option (List Char), startsPhrase ((wordsFrom separates word text).map T.folded)
        (T.tokensFrom (word.map T.folded) (text ++ rest)) = true := by
    intro text
    induction text with
    | nil =>
      intro _ word
      cases word with
      | none => simp [wordsFrom, startsPhrase]
      | some word =>
        obtain ⟨more, tokens, h⟩ := T.tokensFrom_some (T.folded word) rest
        simp [wordsFrom, startsPhrase, h]
    | cons c text ih =>
      intro htext word
      obtain ⟨hc, htext⟩ := List.forall_mem_cons.mp htext
      by_cases hsep : separates c = true
      · obtain ⟨hlt, halpha⟩ := hascii c hsep
        cases word with
        | none =>
          have hskip := ih htext none
          simpa [wordsFrom, tokensFrom, hsep, not_starts_of_ascii hlt halpha] using hskip
        | some word =>
          have hnext := ih htext none
          simp only [wordsFrom, hsep, if_true, List.map_cons, Option.map_some, List.cons_append,
            tokensFrom, T.not_continues_of_ascii c hlt halpha, Bool.false_eq_true, if_false]
          exact startsPhrase_cons _ hnext
      · have hstarts := T.starts_of_isAlphanum c (hc.resolve_left hsep)
        cases word with
        | none =>
          have hnext := ih htext (some [c])
          simpa [wordsFrom, tokensFrom, hsep, hstarts, folded] using hnext
        | some word =>
          have hnext := ih htext (some (word ++ [c]))
          simpa [wordsFrom, tokensFrom, hsep, T.continues_of_starts c hstarts, folded] using hnext
  rw [← (wordsFrom_eq text).1]
  exact key text htext none

/-- A word of letters and digits is one token. -/
lemma tokens_word {word : List Char} (hne : word ≠ []) (hword : ∀ c ∈ word, c.isAlphanum = true) :
    T.tokens word = [T.folded word] := by
  have key : ∀ word : List Char, (∀ c ∈ word, c.isAlphanum = true) → ∀ token,
      T.tokensFrom (some token) word = [token ++ T.folded word] := by
    intro word
    induction word with
    | nil => simp [tokensFrom, folded]
    | cons c word ih =>
      intro hword token
      obtain ⟨hc, hword⟩ := List.forall_mem_cons.mp hword
      have hcontinues := T.continues_of_starts c (T.starts_of_isAlphanum c hc)
      rw [tokensFrom, if_pos hcontinues, ih hword]
      simp [folded]
  cases word with
  | nil => exact absurd rfl hne
  | cons c word =>
    obtain ⟨hc, hword⟩ := List.forall_mem_cons.mp hword
    rw [tokens, tokensFrom, if_pos (T.starts_of_isAlphanum c hc), key word hword]
    simp [folded]

/-- Words that are joined by blanks are tokens. -/
lemma tokens_intercalate {phrase : List (List Char)}
    (h : ∀ word ∈ phrase, word ≠ [] ∧ ∀ c ∈ word, c.isAlphanum = true) :
    T.tokens ([' '].intercalate phrase) = phrase.map T.folded := by
  induction phrase with
  | nil => rfl
  | cons word phrase ih =>
    obtain ⟨hword, hphrase⟩ := List.forall_mem_cons.mp h
    cases phrase with
    | nil => simpa using tokens_word hword.1 hword.2
    | cons next phrase =>
      have hjoin : [' '].intercalate (word :: next :: phrase) =
          word ++ ' ' :: [' '].intercalate (next :: phrase) := by
        simp [List.intercalate]
      rw [hjoin, tokens, tokensFrom_append (by decide) (by decide), ih hphrase, ← tokens,
        tokens_word hword.1 hword.2, List.singleton_append, ← List.map_cons]

/-- A text has tokens where it has a letter or a digit. -/
lemma tokens_ne_nil {text : List Char} {c : Char} (hc : c ∈ text) (halpha : c.isAlphanum = true) :
    T.tokens text ≠ [] := by
  have hsome : ∀ token text, T.tokensFrom (some token) text ≠ [] := fun token text => by
    obtain ⟨more, tokens, h⟩ := T.tokensFrom_some token text
    simp [h]
  induction text with
  | nil => exact absurd hc List.not_mem_nil
  | cons d text ih =>
    rw [tokens, tokensFrom]
    split_ifs with hd
    · exact hsome _ _
    · rcases List.mem_cons.mp hc with rfl | hc
      · exact absurd (T.starts_of_isAlphanum c halpha) hd
      · exact ih hc

/-- A text of separators has no tokens. -/
lemma tokens_eq_nil {text : List Char} (h : ∀ c ∈ text, c.toNat < 128 ∧ c.isAlphanum = false) :
    T.tokens text = [] := by
  induction text with
  | nil => rfl
  | cons c text ih =>
    obtain ⟨⟨hlt, halpha⟩, htext⟩ := List.forall_mem_cons.mp h
    rw [tokens, tokensFrom, not_starts_of_ascii hlt halpha]
    exact ih htext

end Tokenizer

/-! ## Phrases -/

lemma hasPhrase_self {phrase : List (List Char)} (h : phrase ≠ []) :
    hasPhrase phrase phrase = true := by
  rw [hasPhrase, Bool.and_eq_true, List.any_eq_true]
  exact ⟨by simpa using h, phrase, (List.mem_tails _ _).mpr (List.suffix_refl _), by simp⟩

lemma hasPrefixPhrase_append {phrase tokens : List (List Char)} (before : List (List Char))
    (h : phrase ≠ []) (hstarts : startsPhrase phrase tokens = true) :
    hasPrefixPhrase phrase (before ++ tokens) = true := by
  rw [hasPrefixPhrase, Bool.and_eq_true, List.any_eq_true]
  exact ⟨by simpa using h, tokens, (List.mem_tails _ _).mpr (List.suffix_append _ _), hstarts⟩

end Relational
