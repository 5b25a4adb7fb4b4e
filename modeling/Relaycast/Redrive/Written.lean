import Relaycast.Coding.Decimal
import Relaycast.Redrive.Candidates
import Relaycast.Script.Json

/-!
# Cursors that were written

The JSON text of a cursor, whose numbers are integers, determines the cursor
(`cursorText_injective`).  A reader that accepts the texts that were written, and takes every other
for damaged, is therefore one that the traversal may go by.
-/

namespace Redrive

open Coding Script

/-- The text of an integer. -/
def integerChars : ℤ → List Char
  | .ofNat n => Nat.toDigits 10 n
  | .negSucc n => '-' :: Nat.toDigits 10 (n + 1)

lemma mem_numberChars_of_toDigits {n : ℕ} {c : Char} (h : c ∈ Nat.toDigits 10 n) :
    c ∈ numberChars := by
  obtain ⟨d, hd, rfl⟩ := mem_toDigits (by omega) h
  have hall : ∀ d < 10, numberChars.contains d.digitChar = true := by
    rw [numberChars_eq]
    decide
  simpa using hall d hd

/-- An integer as a JSON number. -/
def integerText (n : ℤ) : NumberText where
  chars := integerChars n
  nonempty := by
    cases n with
    | ofNat n => exact (isDecimal_toDigits n).nonempty
    | negSucc n => simp [integerChars]
  numeric c hc := by
    cases n with
    | ofNat n => exact mem_numberChars_of_toDigits hc
    | negSucc n =>
      rcases List.mem_cons.mp hc with rfl | hc
      · decide
      · exact mem_numberChars_of_toDigits hc

lemma toDigits_injective {m n : ℕ} (h : Nat.toDigits 10 m = Nat.toDigits 10 n) : m = n := by
  rw [← numeral_toDigits_ten m, h, numeral_toDigits_ten]

lemma integerText_injective {m n : ℤ} (h : integerText m = integerText n) : m = n := by
  have hchars : integerChars m = integerChars n := congrArg NumberText.chars h
  have hsign (m n : ℕ) : Nat.toDigits 10 m ≠ '-' :: Nat.toDigits 10 n := fun h => by
    have hdigit := (isDecimal_toDigits m).digits '-' (by rw [h]; exact List.mem_cons_self)
    exact absurd hdigit (by decide)
  cases m with
  | ofNat m =>
    cases n with
    | ofNat n => exact congrArg Int.ofNat (toDigits_injective hchars)
    | negSucc n => exact absurd hchars (hsign m (n + 1))
  | negSucc m =>
    cases n with
    | ofNat n => exact absurd hchars.symm (hsign n (m + 1))
    | negSucc n =>
      have hsucc := toDigits_injective (List.cons.inj hchars).2
      exact congrArg Int.negSucc (Nat.succ.inj hsucc)

/-- A position as a JSON value. -/
def Position.json : Position ℤ → Json
  | .pair createdAt id => .arr [.num (integerText createdAt), .str id]
  | .triple nextAttemptAt createdAt id =>
    .arr [.num (integerText nextAttemptAt), .num (integerText createdAt), .str id]

lemma Position.json_injective {p q : Position ℤ} (h : p.json = q.json) : p = q := by
  cases p with
  | pair =>
    cases q with
    | pair =>
      obtain ⟨hcreated, hid⟩ := List.cons.inj (Json.arr.inj h)
      rw [integerText_injective (Json.num.inj hcreated), Json.str.inj (List.cons.inj hid).1]
    | triple => simp [Position.json] at h
  | triple =>
    cases q with
    | pair => simp [Position.json] at h
    | triple =>
      obtain ⟨hnext, hrest⟩ := List.cons.inj (Json.arr.inj h)
      obtain ⟨hcreated, hid⟩ := List.cons.inj hrest
      rw [integerText_injective (Json.num.inj hnext), integerText_injective (Json.num.inj hcreated),
        Json.str.inj (List.cons.inj hid).1]

/-- The field of a position, if there is one. -/
def positionField (name : String) (position : Option (Position ℤ)) : List (String × Json) :=
  (position.map fun p => (name, p.json)).toList

/-- `JSON.stringify(cursor)`. -/
def cursorText (cursor : Cursor ℤ) : String :=
  String.ofList <| render <| .obj (positionField "after" cursor.after ++
    positionField "high" cursor.high)

lemma cursorText_injective {cursor cursor' : Cursor ℤ} (h : cursorText cursor = cursorText cursor') :
    cursor = cursor' := by
  have hfields := Json.obj.inj (render_injective (String.ofList_injective h))
  have hsame {p q : Option (Position ℤ)} (h : p.map Position.json = q.map Position.json) : p = q :=
    Option.map_injective (fun _ _ => Position.json_injective) h
  cases cursor with
  | mk after high =>
    cases cursor' with
    | mk after' high' =>
      have hafter : after.map Position.json = after'.map Position.json := by
        cases after <;> cases after' <;> cases high <;> cases high' <;>
          simp_all [positionField]
      have hhigh : high.map Position.json = high'.map Position.json := by
        cases after <;> cases after' <;> cases high <;> cases high' <;>
          simp_all [positionField]
      rw [hsame hafter, hsame hhigh]

/-- A text is read if it was written, and not otherwise. -/
noncomputable def CursorText.ofWritten : CursorText ℤ where
  parse text :=
    open Classical in
    if h : ∃ cursor, cursorText cursor = text then some h.choose else none
  stringify := cursorText
  parse_stringify cursor := by
    have h : ∃ cursor', cursorText cursor' = cursorText cursor := ⟨cursor, rfl⟩
    rw [dif_pos h, cursorText_injective h.choose_spec]

end Redrive
