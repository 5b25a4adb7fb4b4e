import Relaycast.Coding.Decimal
import Relaycast.Inbox.Mentions
import Relaycast.Relational.Keyset
import Relaycast.Relational.Table
import Mathlib.Data.Char
import Mathlib.Logic.Function.Basic

/-!
# The index of mentions

The full-text index of messages is kept by triggers, which index a message when it is written and
again when it is edited, and a backfill, which copies the messages that were there before the index
in batches.  The statements of a backfill come one after the other, and other statements between
them, those of other backfills too.

A message that was once indexed stays so, with its present text, until it is deleted.  So what a
backfill has seen of its progress remains true (`Covers`), however late it acts on it, and once one
of them has noted that it is done, every message is in the index with its present text
(`indexed_of_ready`).
-/

namespace Inbox

open Relational

/-! ## Tables -/

/-- A row of `messages`, with the columns that the inbox reads. -/
structure MessageRow where
  rowid : ℕ
  id : List Char
  workspaceId : List Char
  channelId : String
  agentId : String
  body : List Char
  createdAt : ℕ
  rowid_pos : 0 < rowid
  decimal : Coding.IsDecimal id
  deriving DecidableEq

/-- A row has its own `rowid` and its own id. -/
instance : Keyed MessageRow where
  Key := ℕ × List Char
  key m := (m.rowid, m.id)
  clash k k' := k.1 == k'.1 || k.2 == k'.2
  clash_comm k k' := by rw [BEq.comm (a := k.1), BEq.comm (a := k.2)]

/-- What the index holds of a message. -/
structure IndexedText where
  workspaceId : List Char
  body : List Char
  deriving DecidableEq

def MessageRow.indexedText (m : MessageRow) : IndexedText := ⟨m.workspaceId, m.body⟩

/-- The row with another text or workspace. -/
def MessageRow.edited (text : IndexedText) (m : MessageRow) : MessageRow :=
  { m with
    workspaceId := text.workspaceId
    body := text.body }

/-- The row `mention-fts-backfill` of `maintenance_cursors`. -/
inductive BackfillCursor
  | complete
  | between (after upTo : ℕ)
  deriving DecidableEq

/-- The messages, `messages_mention_fts` by `rowid`, and the cursor of the backfill. -/
structure MentionStore where
  messages : Table MessageRow
  indexed : ℕ → Option IndexedText
  cursor : Option BackfillCursor

namespace MentionStore

variable (s : MentionStore)

/-- `messageMentionIndexReady`. -/
def ready : Bool := s.cursor == some .complete

/-! ## Statements on messages, with their triggers -/

/-- `INSERT` into the index of a row that is not in `messages_mention_fts_docsize`. -/
def indexMissing (indexed : ℕ → Option IndexedText) (m : MessageRow) : ℕ → Option IndexedText :=
  Function.update indexed m.rowid ((indexed m.rowid).or (some m.indexedText))

/-- Removal from the index of the row with the id. -/
def unindex (indexed : ℕ → Option IndexedText) (rowid : ℕ) : ℕ → Option IndexedText :=
  Function.update indexed rowid none

/-- `INSERT` of a message, and `messages_mention_fts_insert`. -/
def insertMessage (m : MessageRow) (h : s.messages.conflicts m = false) : MentionStore :=
  { s with
    messages := s.messages.insert m h
    indexed := indexMissing s.indexed m }

/-- `UPDATE` of the text of a message or its workspace, and `messages_mention_fts_update`. -/
def editMessage (m : MessageRow) (text : IndexedText) : MentionStore :=
  { s with
    messages := s.messages.update (· == m) (MessageRow.edited text) fun _ => rfl
    indexed :=
      if m ∈ s.messages.rows then indexMissing (unindex s.indexed m.rowid) (m.edited text)
      else s.indexed }

/-- `DELETE` of a message, and `messages_mention_fts_delete`. -/
def deleteMessage (m : MessageRow) : MentionStore :=
  { s with
    messages := s.messages.deleteWhere (· == m)
    indexed := if m ∈ s.messages.rows then unindex s.indexed m.rowid else s.indexed }

/-! ## The backfill -/

/-- `MESSAGE_MENTION_BACKFILL_BATCH`. -/
def MESSAGE_MENTION_BACKFILL_BATCH : ℕ := 500

/-- The messages behind the cursor, first rows first. -/
def backfillPage (after upTo limit : ℕ) : List MessageRow :=
  firstRows MessageRow.rowid (min (max limit 1) MESSAGE_MENTION_BACKFILL_BATCH)
    (s.messages.select fun m => after < m.rowid ∧ m.rowid ≤ upTo)

/-- `INSERT INTO messages_mention_fts … SELECT …` of what is not in the index. -/
def copyMessages (after nextRowid : ℕ) : MentionStore :=
  { s with
    indexed := (s.messages.select fun m => after < m.rowid ∧ m.rowid ≤ nextRowid).foldl
      indexMissing s.indexed }

/-- `UPDATE maintenance_cursors`, where there is a cursor. -/
def saveCursor (cursor : BackfillCursor) : MentionStore :=
  { s with cursor := s.cursor.map fun _ => cursor }

end MentionStore

/-- Where a backfill is. -/
inductive Backfill
  /-- The cursor is read. -/
  | started (after upTo : ℕ)
  /-- No messages are left. -/
  | exhausted
  /-- The page is read. -/
  | paged (after upTo nextRowid : ℕ)
  /-- The page is copied. -/
  | copied (upTo nextRowid : ℕ)
  deriving DecidableEq

/-- The store with the backfills that are on their way. -/
structure MentionSystem where
  store : MentionStore
  backfills : List Backfill

/-- The statements of a backfill, and where they leave it. -/
inductive BackfillStep : MentionStore → Backfill → MentionStore → Option Backfill → Prop
  | page (s : MentionStore) (after upTo limit nextRowid : ℕ)
      (h : ((s.backfillPage after upTo limit).map (·.rowid)).max? = some nextRowid) :
      BackfillStep s (.started after upTo) s (some (.paged after upTo nextRowid))
  | pageEmpty (s : MentionStore) (after upTo limit : ℕ) (h : s.backfillPage after upTo limit = []) :
      BackfillStep s (.started after upTo) s (some .exhausted)
  | finish (s : MentionStore) : BackfillStep s .exhausted (s.saveCursor .complete) none
  | copy (s : MentionStore) (after upTo nextRowid : ℕ) :
      BackfillStep s (.paged after upTo nextRowid) (s.copyMessages after nextRowid)
        (some (.copied upTo nextRowid))
  | save (s : MentionStore) (upTo nextRowid : ℕ) :
      BackfillStep s (.copied upTo nextRowid)
        (s.saveCursor (if upTo ≤ nextRowid then .complete else .between nextRowid upTo)) none

/-- The statements of all callers. -/
inductive MentionStep : MentionSystem → MentionSystem → Prop
  | insert (y : MentionSystem) (m : MessageRow) (h : y.store.messages.conflicts m = false) :
      MentionStep y { y with store := y.store.insertMessage m h }
  | edit (y : MentionSystem) (m : MessageRow) (text : IndexedText) :
      MentionStep y { y with store := y.store.editMessage m text }
  | delete (y : MentionSystem) (m : MessageRow) :
      MentionStep y { y with store := y.store.deleteMessage m }
  | start (y : MentionSystem) (after upTo : ℕ) (h : y.store.cursor = some (.between after upTo)) :
      MentionStep y { y with backfills := .started after upTo :: y.backfills }
  | backfill (s s' : MentionStore) (others others' : List Backfill) (b : Backfill)
      (b' : Option Backfill) (h : BackfillStep s b s' b') :
      MentionStep ⟨s, others ++ b :: others'⟩ ⟨s', others ++ b'.toList ++ others'⟩
  /-- A backfill fails. -/
  | crash (s : MentionStore) (others others' : List Backfill) (b : Backfill) :
      MentionStep ⟨s, others ++ b :: others'⟩ ⟨s, others ++ others'⟩

/-- The system after the migration, which notes the last of the messages that there are. -/
def MentionSystem.migrated (messages : Table MessageRow) : MentionSystem :=
  ⟨⟨messages, fun _ => none, match (messages.rows.map (·.rowid)).max? with
    | none => some .complete
    | some last => some (.between 0 last)⟩, []⟩

/-- The systems that the callers bring about. -/
inductive MentionReachable : MentionSystem → Prop
  | migrated (messages : Table MessageRow) : MentionReachable (.migrated messages)
  | step {y y' : MentionSystem} : MentionReachable y → MentionStep y y' → MentionReachable y'

/-! ## What a statement keeps -/

/-- The index has no other texts than those of the messages. -/
def Current (s : MentionStore) : Prop :=
  ∀ rowid text, s.indexed rowid = some text →
    ∃ m ∈ s.messages, m.rowid = rowid ∧ text = m.indexedText

/-- The messages of these rows are in the index. -/
def Covers (s : MentionStore) (P : ℕ → Prop) : Prop :=
  ∀ m ∈ s.messages, P m.rowid → s.indexed m.rowid ≠ none

/-- What is in the index stays current, and there. -/
structure Keeps (s s' : MentionStore) : Prop where
  current : Current s → Current s'
  covers : ∀ P, Covers s P → Covers s' P

section Keeping

variable {s : MentionStore} {m m' : MessageRow} {indexed : ℕ → Option IndexedText}
  {text : IndexedText} {rowid : ℕ} {P : ℕ → Prop}

lemma eq_of_rowid (hm : m ∈ s.messages) (hm' : m' ∈ s.messages) (h : m.rowid = m'.rowid) :
    m = m' :=
  Table.eq_of_clash hm hm' (by simp [key, clash, h])

lemma indexMissing_ne_none (h : indexed rowid ≠ none) :
    MentionStore.indexMissing indexed m rowid = indexed rowid := by
  unfold MentionStore.indexMissing
  by_cases hrow : rowid = m.rowid
  · subst hrow
    obtain ⟨text, htext⟩ := Option.ne_none_iff_exists'.mp h
    rw [Function.update_self, htext, Option.some_or]
  · rw [Function.update_of_ne hrow]

lemma indexMissing_self_ne_none (indexed : ℕ → Option IndexedText) (m : MessageRow) :
    MentionStore.indexMissing indexed m m.rowid ≠ none := by
  rw [MentionStore.indexMissing, Function.update_self]
  cases indexed m.rowid <;> simp

/-- A text in the index was there before, or is that of the message. -/
lemma indexMissing_some (h : MentionStore.indexMissing indexed m rowid = some text) :
    indexed rowid = some text ∨ rowid = m.rowid ∧ text = m.indexedText := by
  unfold MentionStore.indexMissing at h
  by_cases hrow : rowid = m.rowid
  · subst hrow
    rw [Function.update_self] at h
    rcases Option.or_eq_some_iff.mp h with hold | ⟨-, hnew⟩
    · exact .inl hold
    · exact .inr ⟨rfl, (Option.some.inj hnew).symm⟩
  · rw [Function.update_of_ne hrow] at h
    exact .inl h

lemma keeps_insertMessage (h : s.messages.conflicts m = false) :
    Keeps s (s.insertMessage m h) where
  current hcurrent rowid text htext := by
    rcases indexMissing_some htext with hold | ⟨rfl, rfl⟩
    · obtain ⟨m', hm', hrow, rfl⟩ := hcurrent rowid text hold
      exact ⟨m', List.mem_append_left _ hm', hrow, rfl⟩
    · exact ⟨m, List.mem_append_right _ (List.mem_singleton_self m), rfl, rfl⟩
  covers P hcovers m' hm' hP := by
    rcases List.mem_append.mp hm' with hm' | hm'
    · have hold := hcovers m' hm' hP
      change MentionStore.indexMissing s.indexed m m'.rowid ≠ none
      rwa [indexMissing_ne_none hold]
    · obtain rfl := List.mem_singleton.mp hm'
      exact indexMissing_self_ne_none s.indexed m'

lemma unindex_some (h : MentionStore.unindex indexed m.rowid rowid = some text) :
    rowid ≠ m.rowid ∧ indexed rowid = some text := by
  unfold MentionStore.unindex at h
  by_cases hrow : rowid = m.rowid
  · rw [hrow, Function.update_self] at h
    cases h
  · exact ⟨hrow, by rwa [Function.update_of_ne hrow] at h⟩

/-- The other rows are not concerned when one is taken out of the index. -/
lemma unindex_other (hm : m ∈ s.messages) (hm' : m' ∈ s.messages) (hne : (m' == m) = false) :
    MentionStore.unindex s.indexed m.rowid m'.rowid = s.indexed m'.rowid :=
  Function.update_of_ne (fun hrow => beq_eq_false_iff_ne.mp hne (eq_of_rowid hm' hm hrow)) _ _

lemma mem_editMessage : m' ∈ (s.editMessage m text).messages ↔
    ∃ r ∈ s.messages, m' = if r == m then r.edited text else r := by
  change m' ∈ s.messages.update (· == m) (MessageRow.edited text) (fun _ => rfl) ↔ _
  exact Table.mem_update

lemma mem_editMessage_cases (h : m' ∈ (s.editMessage m text).messages) :
    (m' ∈ s.messages ∧ (m' == m) = false) ∨ m ∈ s.messages ∧ m' = m.edited text := by
  obtain ⟨r, hr, rfl⟩ := mem_editMessage.mp h
  by_cases hrow : (r == m) = true
  · obtain rfl := eq_of_beq hrow
    exact .inr ⟨hr, by simp⟩
  · rw [if_neg hrow]
    exact .inl ⟨hr, by simpa using hrow⟩

lemma keeps_editMessage (m : MessageRow) (text : IndexedText) :
    Keeps s (s.editMessage m text) := by
  by_cases hm : m ∈ s.messages
  · have hindexed : (s.editMessage m text).indexed =
        MentionStore.indexMissing (MentionStore.unindex s.indexed m.rowid) (m.edited text) :=
      if_pos hm
    have hedited : m.edited text ∈ (s.editMessage m text).messages :=
      mem_editMessage.mpr ⟨m, hm, by simp⟩
    refine ⟨fun hcurrent rowid text' htext => ?_, fun P hcovers m' hm' hP => ?_⟩
    · rcases indexMissing_some (hindexed ▸ htext) with hold | ⟨rfl, rfl⟩
      · obtain ⟨hrow, hold⟩ := unindex_some hold
        obtain ⟨m', hm', rfl, rfl⟩ := hcurrent rowid text' hold
        have hne : (m' == m) = false := beq_eq_false_iff_ne.mpr fun heq => hrow (congrArg _ heq)
        exact ⟨m', mem_editMessage.mpr ⟨m', hm', by simp [hne]⟩, rfl, rfl⟩
      · exact ⟨m.edited text, hedited, rfl, rfl⟩
    · rw [hindexed]
      rcases mem_editMessage_cases hm' with ⟨hm', hne⟩ | ⟨-, rfl⟩
      · have hold := hcovers m' hm' hP
        rw [← unindex_other hm hm' hne] at hold
        rwa [indexMissing_ne_none hold]
      · exact indexMissing_self_ne_none _ (m.edited text)
  · have hindexed : (s.editMessage m text).indexed = s.indexed := if_neg hm
    have hmiss : ∀ m' ∈ s.messages, (m' == m) = false := fun m' hm' =>
      beq_eq_false_iff_ne.mpr fun heq => hm (heq ▸ hm')
    refine ⟨fun hcurrent rowid text' htext => ?_, fun P hcovers m' hm' hP => ?_⟩
    · obtain ⟨m', hm', hrow, rfl⟩ := hcurrent rowid text' (hindexed ▸ htext)
      exact ⟨m', mem_editMessage.mpr ⟨m', hm', by simp [hmiss m' hm']⟩, hrow, rfl⟩
    · rw [hindexed]
      rcases mem_editMessage_cases hm' with ⟨hm', -⟩ | ⟨hin, -⟩
      · exact hcovers m' hm' hP
      · exact absurd hin hm

lemma keeps_deleteMessage (m : MessageRow) : Keeps s (s.deleteMessage m) := by
  by_cases hm : m ∈ s.messages
  · have hindexed : (s.deleteMessage m).indexed = MentionStore.unindex s.indexed m.rowid :=
      if_pos hm
    refine ⟨fun hcurrent rowid text htext => ?_, fun P hcovers m' hm' hP => ?_⟩
    · obtain ⟨hrow, hold⟩ := unindex_some (hindexed ▸ htext)
      obtain ⟨m', hm', rfl, rfl⟩ := hcurrent rowid text hold
      refine ⟨m', Table.mem_deleteWhere.mpr ⟨hm', ?_⟩, rfl, rfl⟩
      exact beq_eq_false_iff_ne.mpr fun heq => hrow (congrArg _ heq)
    · obtain ⟨hm', hne⟩ := Table.mem_deleteWhere.mp hm'
      rw [hindexed, unindex_other hm hm' hne]
      exact hcovers m' hm' hP
  · have hindexed : (s.deleteMessage m).indexed = s.indexed := if_neg hm
    refine ⟨fun hcurrent rowid text htext => ?_, fun P hcovers m' hm' hP => ?_⟩
    · obtain ⟨m', hm', hrow, rfl⟩ := hcurrent rowid text (hindexed ▸ htext)
      refine ⟨m', Table.mem_deleteWhere.mpr ⟨hm', ?_⟩, hrow, rfl⟩
      exact beq_eq_false_iff_ne.mpr fun heq => hm (heq ▸ hm')
    · rw [hindexed]
      exact hcovers m' (Table.mem_deleteWhere.mp hm').1 hP

lemma foldl_indexMissing_ne_none (messages : List MessageRow) (h : indexed rowid ≠ none) :
    messages.foldl MentionStore.indexMissing indexed rowid = indexed rowid := by
  induction messages generalizing indexed with
  | nil => rfl
  | cons m messages ih =>
    have hm := indexMissing_ne_none (m := m) h
    rw [List.foldl_cons, ih (hm ▸ h), hm]

lemma foldl_indexMissing_mem (messages : List MessageRow) (hm : m ∈ messages) :
    messages.foldl MentionStore.indexMissing indexed m.rowid ≠ none := by
  induction messages generalizing indexed with
  | nil => exact absurd hm List.not_mem_nil
  | cons m' messages ih =>
    rw [List.foldl_cons]
    rcases List.mem_cons.mp hm with rfl | hm
    · have hself := indexMissing_self_ne_none indexed m
      rwa [foldl_indexMissing_ne_none messages hself]
    · exact ih hm

lemma foldl_indexMissing_some (messages : List MessageRow)
    (h : messages.foldl MentionStore.indexMissing indexed rowid = some text) :
    indexed rowid = some text ∨ ∃ m ∈ messages, rowid = m.rowid ∧ text = m.indexedText := by
  induction messages generalizing indexed with
  | nil => exact .inl h
  | cons m messages ih =>
    rcases ih h with h | ⟨m', hm', hnew⟩
    · rcases indexMissing_some h with hold | hnew
      · exact .inl hold
      · exact .inr ⟨m, List.mem_cons_self, hnew⟩
    · exact .inr ⟨m', List.mem_cons_of_mem _ hm', hnew⟩

lemma copyMessages_indexed (after nextRowid : ℕ) : (s.copyMessages after nextRowid).indexed =
    (s.messages.select fun m => after < m.rowid ∧ m.rowid ≤ nextRowid).foldl
      MentionStore.indexMissing s.indexed := rfl

lemma keeps_copyMessages (after nextRowid : ℕ) : Keeps s (s.copyMessages after nextRowid) where
  current hcurrent rowid text htext := by
    rcases foldl_indexMissing_some _ htext with hold | ⟨m, hm, rfl, rfl⟩
    · exact hcurrent rowid text hold
    · exact ⟨m, (Table.mem_select.mp hm).1, rfl, rfl⟩
  covers P hcovers m hm hP := by
    have hold := hcovers m hm hP
    rwa [copyMessages_indexed, foldl_indexMissing_ne_none _ hold]

/-- A page that is copied is in the index. -/
lemma covers_copyMessages {after nextRowid : ℕ} (h : Covers s (· ≤ after)) :
    Covers (s.copyMessages after nextRowid) (· ≤ nextRowid) := by
  intro m hm hle
  by_cases hrow : m.rowid ≤ after
  · exact (keeps_copyMessages after nextRowid).covers _ h m hm hrow
  · exact foldl_indexMissing_mem _ (Table.mem_select.mpr ⟨hm, by simpa using ⟨by omega, hle⟩⟩)

lemma keeps_saveCursor (cursor : BackfillCursor) : Keeps s (s.saveCursor cursor) where
  current h := h
  covers _ h := h

end Keeping

/-! ## What the backfills know -/

/-- What the cursor stands for. -/
def BackfillCursor.Holds (last : ℕ) (s : MentionStore) : BackfillCursor → Prop
  | .complete => Covers s fun _ => True
  | .between after upTo => upTo = last ∧ Covers s (· ≤ after)

/-- What a backfill has seen, or has brought about. -/
def Backfill.Holds (last : ℕ) (s : MentionStore) : Backfill → Prop
  | .started after upTo => upTo = last ∧ Covers s (· ≤ after)
  | .exhausted => Covers s fun _ => True
  | .paged after upTo _ => upTo = last ∧ Covers s (· ≤ after)
  | .copied upTo nextRowid => upTo = last ∧ Covers s (· ≤ nextRowid)

/-- The invariant, of an index that began behind the last of the rows that there were. -/
structure MentionSystem.Sound (last : ℕ) (y : MentionSystem) : Prop where
  current : Current y.store
  newer : Covers y.store (last < ·)
  cursor : ∀ c ∈ y.store.cursor, c.Holds last y.store
  backfills : ∀ b ∈ y.backfills, b.Holds last y.store

section Invariant

variable {s s' : MentionStore} {y y' : MentionSystem} {last : ℕ}

lemma Keeps.cursor (h : Keeps s s') {c : BackfillCursor} (hc : c.Holds last s) :
    c.Holds last s' := by
  cases c with
  | complete => exact h.covers (fun _ => True) hc
  | between after upTo => exact ⟨hc.1, h.covers _ hc.2⟩

lemma Keeps.backfill (h : Keeps s s') {b : Backfill} (hb : b.Holds last s) : b.Holds last s' := by
  cases b with
  | started after upTo => exact ⟨hb.1, h.covers _ hb.2⟩
  | exhausted => exact h.covers (fun _ => True) hb
  | paged after upTo nextRowid => exact ⟨hb.1, h.covers _ hb.2⟩
  | copied upTo nextRowid => exact ⟨hb.1, h.covers _ hb.2⟩

/-- Nothing is left where there are no rows between those that were copied and the newer ones. -/
lemma covers_all {after : ℕ} (hnewer : Covers s (last < ·)) (hafter : Covers s (· ≤ after))
    (hbetween : ∀ m ∈ s.messages, after < m.rowid → last < m.rowid) :
    Covers s fun _ => True := by
  intro m hm _
  by_cases hle : m.rowid ≤ after
  · exact hafter m hm hle
  · exact hnewer m hm (hbetween m hm (by omega))

/-- A page that is empty is that of no rows. -/
lemma backfillPage_eq_nil {after upTo limit : ℕ} (h : s.backfillPage after upTo limit = []) :
    ∀ m ∈ s.messages, after < m.rowid → upTo < m.rowid := by
  intro m hm hafter
  by_contra hle
  have hmem : m ∈ s.messages.select fun m => after < m.rowid ∧ m.rowid ≤ upTo :=
    Table.mem_select.mpr ⟨hm, by simpa using ⟨hafter, by omega⟩⟩
  rcases mem_firstRows_or MessageRow.rowid hmem
    (min (max limit 1) MentionStore.MESSAGE_MENTION_BACKFILL_BATCH) with hin | ⟨hlen, -⟩
  · rw [← MentionStore.backfillPage, h] at hin
    exact List.not_mem_nil hin
  · rw [← MentionStore.backfillPage, h, List.length_nil,
      MentionStore.MESSAGE_MENTION_BACKFILL_BATCH] at hlen
    omega

/-- What a statement of a backfill does to the store, and what the backfill knows then. -/
lemma BackfillStep.sound {b : Backfill} {b' : Option Backfill} (h : BackfillStep s b s' b')
    (hnewer : Covers s (last < ·)) (hb : b.Holds last s) :
    Keeps s s' ∧ (∀ c ∈ b', c.Holds last s') ∧
      (∀ c ∈ s'.cursor, c ∈ s.cursor ∨ c.Holds last s') := by
  cases h with
  | page after upTo limit nextRowid hpage =>
    exact ⟨⟨id, fun _ => id⟩, fun c hc => Option.some.inj hc ▸ hb, fun c hc => .inl hc⟩
  | pageEmpty after upTo limit hpage =>
    obtain ⟨rfl, hafter⟩ := hb
    have hall := covers_all hnewer hafter (backfillPage_eq_nil hpage)
    exact ⟨⟨id, fun _ => id⟩, fun c hc => Option.some.inj hc ▸ hall, fun c hc => .inl hc⟩
  | finish =>
    refine ⟨keeps_saveCursor _, by simp, fun c hc => .inr ?_⟩
    obtain ⟨-, -, rfl⟩ := Option.map_eq_some_iff.mp hc
    exact hb
  | copy after upTo nextRowid =>
    have hcopied : (Backfill.copied upTo nextRowid).Holds last (s.copyMessages after nextRowid) :=
      ⟨hb.1, covers_copyMessages hb.2⟩
    exact ⟨keeps_copyMessages _ _, fun c hc => Option.some.inj hc ▸ hcopied, fun c hc => .inl hc⟩
  | save upTo nextRowid =>
    refine ⟨keeps_saveCursor _, by simp, fun c hc => .inr ?_⟩
    obtain ⟨-, -, rfl⟩ := Option.map_eq_some_iff.mp hc
    obtain ⟨rfl, hcopied⟩ := hb
    split_ifs with hdone
    · exact covers_all (s := s) hnewer hcopied fun m _ hm => by omega
    · exact ⟨rfl, hcopied⟩

/-- **Every statement keeps the invariant.** -/
lemma MentionStep.sound (h : MentionStep y y') (hy : y.Sound last) : y'.Sound last := by
  have hkeep : ∀ s' : MentionStore, Keeps y.store s' → s'.cursor = y.store.cursor →
      MentionSystem.Sound last { y with store := s' } := fun s' hkeeps hcursor =>
    ⟨hkeeps.current hy.current, hkeeps.covers _ hy.newer,
      fun c hc => hkeeps.cursor (hy.cursor c (hcursor ▸ hc)),
      fun b hb => hkeeps.backfill (hy.backfills b hb)⟩
  cases h with
  | insert _ m hconflict => exact hkeep _ (keeps_insertMessage hconflict) rfl
  | edit _ m text => exact hkeep _ (keeps_editMessage m text) rfl
  | delete _ m => exact hkeep _ (keeps_deleteMessage m) rfl
  | start _ after upTo hcursor =>
    refine ⟨hy.current, hy.newer, hy.cursor, fun b hb => ?_⟩
    rcases List.mem_cons.mp hb with rfl | hb
    · exact hy.cursor _ hcursor
    · exact hy.backfills b hb
  | backfill s s' others others' b b' hstep =>
    obtain ⟨hkeeps, hb', hcursor⟩ := hstep.sound hy.newer (hy.backfills b (by simp))
    refine ⟨hkeeps.current hy.current, hkeeps.covers _ hy.newer, fun c hc => ?_, fun d hd => ?_⟩
    · rcases hcursor c hc with hold | hnew
      · exact hkeeps.cursor (hy.cursor c hold)
      · exact hnew
    · rw [List.mem_append, List.mem_append] at hd
      rcases hd with (hd | hd) | hd
      · exact hkeeps.backfill (hy.backfills d (List.mem_append_left _ hd))
      · exact hb' d (Option.mem_toList.mp hd)
      · exact hkeeps.backfill (hy.backfills d (by simp [hd]))
  | crash s others others' b =>
    refine ⟨hy.current, hy.newer, hy.cursor, fun d hd => hy.backfills d ?_⟩
    rcases List.mem_append.mp hd with hd | hd <;> simp [hd]

lemma sound_migrated (messages : Table MessageRow) : ∃ last,
    (MentionSystem.migrated messages).Sound last := by
  have hnothing : ∀ P, (∀ m ∈ messages, ¬ P m.rowid) →
      Covers (MentionSystem.migrated messages).store P := fun P hP m hm h => absurd h (hP m hm)
  have hcurrent : Current (MentionSystem.migrated messages).store := fun rowid text h => by
    cases h
  have hidle : ∀ last, ∀ b ∈ (MentionSystem.migrated messages).backfills,
      b.Holds last (MentionSystem.migrated messages).store := fun _ b hb =>
    absurd hb List.not_mem_nil
  have hcursor : (MentionSystem.migrated messages).store.cursor =
      match (messages.rows.map (·.rowid)).max? with
      | none => some .complete
      | some last => some (.between 0 last) := rfl
  cases hlast : (messages.rows.map (·.rowid)).max? with
  | none =>
    have hnil : messages.rows = [] := List.map_eq_nil_iff.mp (List.max?_eq_none_iff.mp hlast)
    have hnone : ∀ m ∈ messages, False := fun m hm => by
      rw [Table.mem_def, hnil] at hm
      exact List.not_mem_nil hm
    refine ⟨0, hcurrent, hnothing _ fun m hm _ => hnone m hm, fun c hc => ?_, hidle 0⟩
    rw [hcursor, hlast] at hc
    obtain rfl := Option.some.inj hc
    exact hnothing (fun _ => True) fun m hm _ => hnone m hm
  | some last =>
    have hle : ∀ m ∈ messages, m.rowid ≤ last := fun m hm =>
      (List.max?_eq_some_iff.mp hlast).2 _ (List.mem_map_of_mem hm)
    refine ⟨last, hcurrent, hnothing _ fun m hm hlt => absurd (hle m hm) (by omega), fun c hc => ?_,
      hidle last⟩
    rw [hcursor, hlast] at hc
    obtain rfl := Option.some.inj hc
    exact ⟨rfl, hnothing _ fun m _ hzero => absurd m.rowid_pos (by omega)⟩

/-- **The invariant holds in every system that the callers bring about.** -/
lemma sound_of_reachable (h : MentionReachable y) : ∃ last, y.Sound last := by
  induction h with
  | migrated messages => exact sound_migrated messages
  | step _ hstep ih =>
    obtain ⟨last, hsound⟩ := ih
    exact ⟨last, hstep.sound hsound⟩

/-- **Where the index is ready, it has every message with its present text.** -/
theorem indexed_of_ready (h : MentionReachable y) (hready : y.store.ready = true)
    {m : MessageRow} (hm : m ∈ y.store.messages) :
    y.store.indexed m.rowid = some m.indexedText := by
  obtain ⟨last, hsound⟩ := sound_of_reachable h
  have hcovers := hsound.cursor _ (eq_of_beq hready) m hm trivial
  obtain ⟨text, htext⟩ := Option.ne_none_iff_exists'.mp hcovers
  obtain ⟨m', hm', hrow, rfl⟩ := hsound.current _ text htext
  rw [htext, eq_of_rowid hm' hm hrow]

end Invariant

end Inbox
