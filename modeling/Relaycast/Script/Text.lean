import Mathlib.Data.List.DropRight

/-!
# Texts

White space as `trim` has it, the choice of a text that is not empty, and lower case.

The two letters outside ASCII with an ASCII letter in their lower case are `İ` and the Kelvin sign.
The lower case of the others is outside ASCII as they are; they are left as they are, which nothing
notices that only looks for characters of ASCII.
-/

namespace Script

/-- White space and line terminators. -/
def whiteSpace : List Char :=
  ['\t', '\n', '\u000b', '\u000c', '\r', ' ', '\u00a0', '\u1680', '\u2000', '\u2001', '\u2002',
    '\u2003', '\u2004', '\u2005', '\u2006', '\u2007', '\u2008', '\u2009', '\u200a', '\u2028',
    '\u2029', '\u202f', '\u205f', '\u3000', '\ufeff']

/-- `text.trim()`. -/
def trim (text : String) : String :=
  String.ofList (((text.toList.dropWhile whiteSpace.contains).reverse.dropWhile
    whiteSpace.contains).reverse)

/-- Does the text neither begin nor end with white space? -/
def trimmed (text : String) : Bool :=
  text.toList.head?.all (!whiteSpace.contains ·) && text.toList.getLast?.all (!whiteSpace.contains ·)

/-- `!text.trim()`. -/
def isBlank (text : String) : Bool := text.toList.all whiteSpace.contains

/-- Is an optional text there, and not empty? -/
def truthy (text : Option String) : Bool := text.any (· != "")

/-- `text || other`, of texts. -/
def orText (text : Option String) (other : String) : String :=
  match text with
  | some t => if t = "" then other else t
  | none => other

/-- The lower case of a character. -/
def lowerChar (c : Char) : List Char :=
  if c = 'İ' then ['i', '\u0307'] else if c = '\u212a' then ['k'] else [c.toLower]

/-- `text.toLowerCase()`, of a list of characters. -/
def toLowerCase (text : List Char) : List Char := text.flatMap lowerChar

/-! ## Trimming -/

lemma trim_toList (text : String) : (trim text).toList =
    (text.toList.dropWhile whiteSpace.contains).rdropWhile whiteSpace.contains := by
  simp [trim, List.rdropWhile]

/-- Trimming leaves a trimmed text alone. -/
lemma trim_eq_self {text : String} (h : trimmed text = true) : trim text = text := by
  apply String.toList_inj.mp
  rw [trim_toList]
  obtain ⟨hhead, hlast⟩ := Bool.and_eq_true_iff.mp h
  have hfront : text.toList.dropWhile whiteSpace.contains = text.toList := by
    cases hcs : text.toList with
    | nil => rfl
    | cons c cs =>
      rw [hcs] at hhead
      exact List.dropWhile_cons_of_neg (by simpa using hhead)
  rw [hfront, List.rdropWhile_eq_self_iff]
  intro hne
  rw [List.getLast?_eq_getLast_of_ne_nil hne] at hlast
  simpa using hlast

/-- What trimming leaves is trimmed. -/
lemma trimmed_trim (text : String) : trimmed (trim text) = true := by
  unfold trimmed
  rw [trim_toList, Bool.and_eq_true]
  set front := text.toList.dropWhile whiteSpace.contains with hfront
  constructor
  · obtain ⟨rest, hrest⟩ := List.rdropWhile_prefix whiteSpace.contains (l := front)
    cases hcs : front.rdropWhile whiteSpace.contains with
    | nil => rfl
    | cons c cs =>
      have hhead := List.head?_dropWhile_not whiteSpace.contains text.toList
      rw [← hfront, ← hrest, hcs] at hhead
      simpa using hhead
  · by_cases hnil : front.rdropWhile whiteSpace.contains = []
    · rw [hnil]
      rfl
    · have hlast := List.rdropWhile_last_not whiteSpace.contains (l := front) hnil
      rw [List.getLast?_eq_getLast_of_ne_nil hnil]
      simpa using hlast

/-- A character that is not white space, in front of a trimmed text. -/
lemma trimmed_cons {c : Char} {text : String} (hc : whiteSpace.contains c = false)
    (h : trimmed text = true) : trimmed (String.ofList (c :: text.toList)) = true := by
  obtain ⟨-, hlast⟩ := Bool.and_eq_true_iff.mp h
  simp only [trimmed, String.toList_ofList, List.head?_cons, Option.all_some, hc, Bool.not_false,
    Bool.true_and, List.getLast?_cons]
  cases hend : text.toList.getLast? with
  | none => simpa using hc
  | some d => simpa [hend] using hlast

/-- What stands before the first separator, and what stands behind it. -/
lemma separated_inj {α : Type*} {a : α} {xs ys zs ws : List α} (hxs : a ∉ xs) (hys : a ∉ ys)
    (h : xs ++ a :: zs = ys ++ a :: ws) : xs = ys ∧ zs = ws := by
  rcases List.append_eq_append_iff.mp h with ⟨as, rfl, hrest⟩ | ⟨as, rfl, hrest⟩
  · cases as with
    | nil => exact ⟨(List.append_nil _).symm, (List.cons.inj hrest).2⟩
    | cons b as =>
      obtain rfl : a = b := (List.cons.inj hrest).1
      exact absurd (List.mem_append_right _ List.mem_cons_self) hys
  · cases as with
    | nil => exact ⟨List.append_nil _, (List.cons.inj hrest).2.symm⟩
    | cons b as =>
      obtain rfl : a = b := (List.cons.inj hrest).1
      exact absurd (List.mem_append_right _ List.mem_cons_self) hxs

end Script
