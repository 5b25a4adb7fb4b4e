import Relaycast.Inbox.MentionIndex
import Relaycast.Inbox.UnreadDms
import Relaycast.Relational.KeysetScan
import Mathlib.Data.Prod.Lex

/-!
# The mentions of an inbox

The part of `getInbox` on mentions: the newest messages that mention an agent, among those of others
that it can see.  The database narrows the messages down by text, and by the full-text index where
that is ready; which of them mention the agent is checked as they are read, batch by batch.

Without the index the result is what checking every message would give, whatever the size of the
batches (`scanMentions_none`).  With it that is so as well, as long as the id of the workspace has a
letter or a digit: an id of separators alone is a phrase without words, which no message matches
(`inboxMentions_iff`).
-/

namespace Inbox

open Relational Script

/-! ## Tables -/

/-- A row of `channels`. -/
structure ChannelRow where
  id : String
  name : String
  channelType : ℕ
  isArchived : Bool
  deriving DecidableEq

instance : Keyed ChannelRow where
  Key := String
  key c := c.id
  clash k k' := k == k'
  clash_comm := text_clash_comm

/-- A row of `channel_members`. -/
structure ChannelMemberRow where
  channelId : String
  agentId : String
  deriving DecidableEq

instance : Keyed ChannelMemberRow where
  Key := String × String
  key m := (m.channelId, m.agentId)
  clash k k' := k == k'
  clash_comm := texts_clash_comm

/-- The tables.  A conversation has a channel of its own. -/
structure MentionDb where
  store : MentionStore
  channels : Table ChannelRow
  agents : Table Agent
  channelMembers : Table ChannelMemberRow
  dmConversations : Table DmConversation
  dmParticipants : Table DmParticipant
  ownChannel : (dmConversations.rows.map (·.channelId)).Nodup

/-! ## The code -/

/-- A row of a batch. -/
structure MentionRow where
  id : List Char
  channelName : String
  agentName : String
  body : List Char
  createdAt : ℕ
  deriving DecidableEq

/-- The rows of a left join, of which there is one without a partner if there are no partners. -/
def leftJoin {α : Type} (partners : List α) : List (Option α) :=
  if partners = [] then [none] else partners.map some

section Statements

variable (T : Tokenizer) (db : MentionDb) (workspaceId : List Char) (agentId : String)

/-- `rowid IN (SELECT rowid FROM messages_mention_fts WHERE … MATCH …)`. -/
def inIndex (query : FtsQuery) (rowid : ℕ) : Bool :=
  (db.store.indexed rowid).any fun text =>
    hasPhrase (T.tokens query.workspaceId) (T.tokens text.workspaceId) &&
      hasPrefixPhrase (T.tokens query.body) (T.tokens text.body)

/-- What a batch is read from: the statement without its cursor, order and limit. -/
def candidates (agentName : List Char) (query : Option FtsQuery) : List MentionRow :=
  db.store.messages.rows.flatMap fun m =>
  (db.channels.select (·.id == m.channelId)).flatMap fun ch =>
  (db.agents.select (·.id == m.agentId)).flatMap fun a =>
  (leftJoin (db.channelMembers.select fun cm =>
    cm.channelId == m.channelId && cm.agentId == agentId)).flatMap fun cm =>
  (leftJoin (db.dmConversations.select (·.channelId == m.channelId))).flatMap fun dc =>
  (leftJoin (db.dmParticipants.select fun dp => dc.any (·.id == dp.conversationId) &&
    dp.agentId == agentId && dp.leftAt.isNone)).flatMap fun dp =>
  if m.workspaceId = workspaceId ∧ ch.isArchived = false ∧ m.agentId ≠ agentId ∧
      query.all (fun q => inIndex T db q m.rowid) ∧ '@' :: agentName <:+: m.body ∧
      (ch.channelType = 0 ∧ cm.any (·.agentId == agentId) ∨
        ch.channelType ≠ 0 ∧ dp.any (·.agentId == agentId)) then
    [⟨m.id, ch.name, a.name, m.body, m.createdAt⟩]
  else []

/-- `MAX_MENTIONS`. -/
def MAX_MENTIONS : ℕ := 20

/-- `MENTION_BATCH`. -/
def MENTION_BATCH : ℕ := 200

/-- `ORDER BY length(id) DESC, id DESC`. -/
def newestFirst (id : List Char) : (ℕ ×ₗ List Char)ᵒᵈ := OrderDual.toDual (toLex (id.length, id))

/-- The loop over the batches. -/
def scanMentions (agentName : List Char) (query : Option FtsQuery) (batchSize fuel : ℕ) :
    Option (List MentionRow) :=
  keysetScan (fun row : MentionRow => newestFirst row.id)
    (fun row => (parseMessageMentions row.body).contains agentName) MAX_MENTIONS batchSize
    (candidates T db workspaceId agentId agentName query) fuel none []

/-- `agent?.name ?? ''`. -/
def agentName : List Char :=
  ((db.agents.select (·.id == agentId)).head?.map (·.name.toList)).getD []

/-- The mentions of `getInbox`. -/
def inboxMentions (batchSize fuel : ℕ) : Option (List MentionRow) :=
  let name := agentName db agentId
  if isHandle name then
    let query := if db.store.ready then mentionFtsMatch workspaceId (mentionTokens name) else none
    scanMentions T db workspaceId agentId name query batchSize fuel
  else some []

end Statements

/-! ## What the mentions are to be -/

section Spec

variable (db : MentionDb) (workspaceId : List Char) (agentId : String)

/-- The channel of the message is there for the agent: it is live, and the agent is a member of it,
or a participant of its conversation that has not left. -/
def sees (m : MessageRow) : Bool :=
  (db.channels.rows.find? (·.id == m.channelId)).any fun ch => !ch.isArchived &&
    if ch.channelType = 0 then
      db.channelMembers.rows.any fun cm => cm.channelId == m.channelId && cm.agentId == agentId
    else (db.dmConversations.rows.find? (·.channelId == m.channelId)).any fun dc =>
      db.dmParticipants.rows.any fun dp =>
        dc.id == dp.conversationId && dp.agentId == agentId && dp.leftAt.isNone

/-- The message is that of another agent, and the agent can see it. -/
def visible (m : MessageRow) : Bool :=
  m.workspaceId == workspaceId && m.agentId != agentId &&
    (db.agents.rows.find? (·.id == m.agentId)).isSome && sees db agentId m

/-- The messages that mention the agent. -/
def mentioning : List MessageRow :=
  db.store.messages.select fun m => visible db workspaceId agentId m &&
    (parseMessageMentions m.body).contains (agentName db agentId)

/-- The message as it is reported. -/
def report (m : MessageRow) : MentionRow :=
  ⟨m.id, ((db.channels.rows.find? (·.id == m.channelId)).map (·.name)).getD "",
    ((db.agents.rows.find? (·.id == m.agentId)).map (·.name)).getD "", m.body, m.createdAt⟩

/-- The last mentions, by the numbers of the messages. -/
def newestMentions : List MentionRow :=
  (firstRows (fun m : MessageRow => OrderDual.toDual (numeral 10 m.id)) MAX_MENTIONS
    (mentioning db workspaceId agentId)).map (report db)

end Spec

/-! ## The rows that are joined to a message -/

/-- What a unique index selects is what is found first. -/
lemma filter_eq_find? {α : Type} {rows : List α} {p : α → Bool} {R : α → α → Prop}
    (hrows : rows.Pairwise R) (h : ∀ r s, p r = true → p s = true → ¬ R r s) :
    rows.filter p = (rows.find? p).toList := by
  induction rows with
  | nil => rfl
  | cons r rows ih =>
    obtain ⟨hr, hrows⟩ := List.pairwise_cons.mp hrows
    by_cases hp : p r = true
    · have hnone : rows.filter p = [] :=
        List.filter_eq_nil_iff.mpr fun s hs hps => h r s hp hps (hr s hs)
      rw [List.filter_cons_of_pos hp, List.find?_cons_of_pos hp, hnone, Option.toList_some]
    · rw [List.filter_cons_of_neg hp, List.find?_cons_of_neg hp, ih hrows]

lemma select_eq_find? {Row : Type} [Keyed Row] (T : Table Row) {p : Row → Bool}
    (h : ∀ r s, p r = true → p s = true → clash (key r) (key s) = true) :
    T.select p = (T.rows.find? p).toList :=
  filter_eq_find? (List.pairwise_map.mp T.unique) fun r s hr hs hclash => by
    rw [h r s hr hs] at hclash
    cases hclash

lemma leftJoin_toList {α : Type} (partner : Option α) : leftJoin partner.toList = [partner] := by
  cases partner <;> simp [leftJoin]

lemma any_find? {α : Type} {rows : List α} {p q : α → Bool} (h : ∀ r, p r = true → q r = true) :
    (rows.find? p).any q = rows.any p := by
  cases hfind : rows.find? p with
  | none =>
    have hnone : rows.any p = false :=
      List.any_eq_false.mpr fun r hr => List.find?_eq_none.mp hfind r hr
    rw [hnone, Option.any_none]
  | some r =>
    have hp := List.find?_some hfind
    have hany : rows.any p = true := List.any_eq_true.mpr ⟨r, List.mem_of_find?_eq_some hfind, hp⟩
    rw [hany, Option.any_some, h r hp]

section Joins

variable {T : Tokenizer} {db : MentionDb} {workspaceId : List Char} {agentId : String}
  {name : List Char} {query : Option FtsQuery}

lemma channels_select (channelId : String) : db.channels.select (·.id == channelId) =
    (db.channels.rows.find? (·.id == channelId)).toList :=
  select_eq_find? _ fun r s hr hs => by
    rw [beq_iff_eq] at hr hs
    simp [clash, key, hr, hs]

lemma agents_select (id : String) : db.agents.select (·.id == id) =
    (db.agents.rows.find? (·.id == id)).toList :=
  select_eq_find? _ fun r s hr hs => by
    rw [beq_iff_eq] at hr hs
    simp [clash, key, hr, hs]

lemma channelMembers_select (channelId agentId : String) :
    (db.channelMembers.select fun cm => cm.channelId == channelId && cm.agentId == agentId) =
      (db.channelMembers.rows.find? fun cm =>
        cm.channelId == channelId && cm.agentId == agentId).toList :=
  select_eq_find? _ fun r s hr hs => by
    simp only [Bool.and_eq_true, beq_iff_eq] at hr hs
    simp [clash, key, hr, hs]

lemma dmConversations_select (channelId : String) :
    db.dmConversations.select (·.channelId == channelId) =
      (db.dmConversations.rows.find? (·.channelId == channelId)).toList :=
  filter_eq_find? (List.pairwise_map.mp db.ownChannel) fun _ _ hr hs hne =>
    hne ((eq_of_beq hr).trans (eq_of_beq hs).symm)

lemma dmParticipants_select (dc : Option DmConversation) (agentId : String) :
    (db.dmParticipants.select fun dp => dc.any (·.id == dp.conversationId) &&
      dp.agentId == agentId && dp.leftAt.isNone) =
      (db.dmParticipants.rows.find? fun dp => dc.any (·.id == dp.conversationId) &&
        dp.agentId == agentId && dp.leftAt.isNone).toList :=
  select_eq_find? _ fun r s hr hs => by
    cases dc with
    | none => simp at hr
    | some dc =>
      simp only [Option.any_some, Bool.and_eq_true, beq_iff_eq] at hr hs
      simp [clash, key, ← hr.1.1, ← hs.1.1, hr.1.2, hs.1.2]

/-- A message is a candidate. -/
def isCandidate (T : Tokenizer) (db : MentionDb) (workspaceId : List Char) (agentId : String)
    (name : List Char) (query : Option FtsQuery) (m : MessageRow) : Bool :=
  visible db workspaceId agentId m && query.all (fun q => inIndex T db q m.rowid) &&
    ('@' :: name <:+: m.body)

/-- The channel is one of those that the agent is let into. -/
lemma sees_iff {m : MessageRow} {ch : ChannelRow}
    (hch : db.channels.rows.find? (·.id == m.channelId) = some ch) :
    sees db agentId m = true ↔ ch.isArchived = false ∧
      (ch.channelType = 0 ∧ (db.channelMembers.rows.find? fun cm =>
          cm.channelId == m.channelId && cm.agentId == agentId).any (·.agentId == agentId) = true ∨
        ch.channelType ≠ 0 ∧ (db.dmParticipants.rows.find? fun dp =>
          (db.dmConversations.rows.find? (·.channelId == m.channelId)).any
            (·.id == dp.conversationId) &&
          dp.agentId == agentId && dp.leftAt.isNone).any (·.agentId == agentId) = true) := by
  have hmember : (db.channelMembers.rows.find? fun cm =>
      cm.channelId == m.channelId && cm.agentId == agentId).any (·.agentId == agentId) =
      db.channelMembers.rows.any fun cm => cm.channelId == m.channelId && cm.agentId == agentId :=
    any_find? fun cm hcm => ((Bool.and_eq_true _ _).mp hcm).2
  have hparticipant : ∀ dc : Option DmConversation, (db.dmParticipants.rows.find? fun dp =>
      dc.any (·.id == dp.conversationId) && dp.agentId == agentId && dp.leftAt.isNone).any
        (·.agentId == agentId) =
      db.dmParticipants.rows.any fun dp =>
        dc.any (·.id == dp.conversationId) && dp.agentId == agentId && dp.leftAt.isNone :=
    fun dc => any_find? fun dp hdp =>
      ((Bool.and_eq_true _ _).mp ((Bool.and_eq_true _ _).mp hdp).1).2
  rw [sees, hch, Option.any_some, Bool.and_eq_true, Bool.not_eq_true', hmember, hparticipant]
  refine and_congr_right fun _ => ?_
  by_cases htype : ch.channelType = 0
  · simp [htype]
  · rw [if_neg htype]
    cases db.dmConversations.rows.find? (·.channelId == m.channelId) with
    | none => simp [htype]
    | some dc => simp [htype]

/-- **Every message is joined to one row, or to none.** -/
lemma candidates_eq : candidates T db workspaceId agentId name query =
    (db.store.messages.select (isCandidate T db workspaceId agentId name query)).map
      (report db) := by
  have hrow : ∀ (m : MessageRow) (rows : List MessageRow),
      (if isCandidate T db workspaceId agentId name query m then [report db m] else []) ++
        (rows.filter (isCandidate T db workspaceId agentId name query)).map (report db) =
      ((m :: rows).filter (isCandidate T db workspaceId agentId name query)).map (report db) := by
    intro m rows
    by_cases hm : isCandidate T db workspaceId agentId name query m = true
    · rw [if_pos hm, List.filter_cons_of_pos hm, List.map_cons, List.singleton_append]
    · rw [if_neg hm, List.filter_cons_of_neg hm, List.nil_append]
  rw [candidates, Table.select]
  induction db.store.messages.rows with
  | nil => rfl
  | cons m rows ih =>
    rw [List.flatMap_cons, ih, ← hrow]
    congr 1
    simp only [channels_select, agents_select, channelMembers_select, dmConversations_select,
      dmParticipants_select, leftJoin_toList, List.flatMap_singleton]
    cases hch : db.channels.rows.find? (·.id == m.channelId) with
    | none => simp [isCandidate, visible, sees, hch]
    | some ch =>
      cases ha : db.agents.rows.find? (·.id == m.agentId) with
      | none => simp [isCandidate, visible, ha]
      | some a =>
        have hreport : report db m = ⟨m.id, ch.name, a.name, m.body, m.createdAt⟩ := by
          simp [report, hch, ha]
        simp only [Option.toList_some, List.flatMap_singleton, hreport]
        refine if_congr ?_ rfl rfl
        simp only [isCandidate, visible, Bool.and_eq_true, sees_iff hch, ha, Option.isSome_some,
          beq_iff_eq, bne_iff_ne, decide_eq_true_eq]
        tauto

end Joins

/-! ## The scan -/

section Scan

variable {T : Tokenizer} {db : MentionDb} {workspaceId : List Char} {agentId : String}
  {name : List Char} {query : Option FtsQuery} {batchSize fuel : ℕ}

/-- Length and text order the ids as their numbers do. -/
lemma newestFirst_le_iff {id id' : List Char} (h : Coding.IsDecimal id)
    (h' : Coding.IsDecimal id') : newestFirst id ≤ newestFirst id' ↔
      OrderDual.toDual (numeral 10 id) ≤ OrderDual.toDual (numeral 10 id') := by
  rw [newestFirst, newestFirst, OrderDual.toDual_le_toDual, OrderDual.toDual_le_toDual,
    ← not_lt, ← not_lt, Prod.Lex.toLex_lt_toLex, h.shortlex_iff h']

lemma newestFirst_injective : Function.Injective newestFirst := fun id id' h => by
  have hpair : (id.length, id) = (id'.length, id') := toLex.injective (OrderDual.toDual.injective h)
  exact (Prod.mk.inj hpair).2

/-- The candidates that mention a name are the messages that do, whatever the text search is for. -/
lemma candidates_filter : (candidates T db workspaceId agentId name query).filter
      (fun row => (parseMessageMentions row.body).contains name) =
    (db.store.messages.select fun m => visible db workspaceId agentId m &&
      query.all (fun q => inIndex T db q m.rowid) &&
      (parseMessageMentions m.body).contains name).map (report db) := by
  rw [candidates_eq, List.filter_map, Table.select, List.filter_filter]
  congr 1
  refine List.filter_congr fun m _ => ?_
  rw [Bool.eq_iff_iff]
  simp only [isCandidate, Function.comp_apply, report, Bool.and_eq_true, decide_eq_true_eq,
    List.contains_iff_mem]
  constructor
  · rintro ⟨hmention, hcandidate, -⟩
    exact ⟨hcandidate, hmention⟩
  · rintro ⟨hcandidate, hmention⟩
    exact ⟨hmention, hcandidate, (names_of_mentioned hmention).isInfix⟩

/-- The first reports are those of the messages with the greatest numbers. -/
lemma firstRows_report (limit : ℕ) (messages : List MessageRow) :
    firstRows (fun row : MentionRow => newestFirst row.id) limit (messages.map (report db)) =
      (firstRows (fun m : MessageRow => OrderDual.toDual (numeral 10 m.id)) limit messages).map
        (report db) := by
  rw [firstRows, firstRows, List.map_take]
  congr 1
  exact (List.map_insertionSort
    (fun m m' : MessageRow =>
      OrderDual.toDual (numeral 10 m.id) ≤ OrderDual.toDual (numeral 10 m'.id))
    (fun row row' : MentionRow => newestFirst row.id ≤ newestFirst row'.id) (report db) messages
    fun m _ m' _ => (newestFirst_le_iff m.decimal m'.decimal).symm).symm

/-- **The scan finds the newest candidates that mention the name.** -/
lemma scanMentions_eq (hbatch : 0 < batchSize) (hfuel : db.store.messages.rows.length < fuel) :
    scanMentions T db workspaceId agentId name query batchSize fuel =
      some ((firstRows (fun m : MessageRow => OrderDual.toDual (numeral 10 m.id)) MAX_MENTIONS
        (db.store.messages.select fun m => visible db workspaceId agentId m &&
          query.all (fun q => inIndex T db q m.rowid) &&
          (parseMessageMentions m.body).contains name)).map (report db)) := by
  have hids : (db.store.messages.rows.map fun m => newestFirst m.id).Nodup :=
    db.store.messages.nodup_map fun m m' h => by
      simp [clash, key, newestFirst_injective h]
  have hkeys : ((candidates T db workspaceId agentId name query).map
      fun row => newestFirst row.id).Nodup := by
    rw [candidates_eq, List.map_map]
    exact hids.sublist (List.filter_sublist.map _)
  have hlen : (candidates T db workspaceId agentId name query).length < fuel := by
    rw [candidates_eq, List.length_map]
    exact lt_of_le_of_lt (List.length_filter_le _ _) hfuel
  rw [scanMentions, keysetScan_eq hkeys hbatch hlen, candidates_filter, firstRows_report]

/-- What the scan is to look for, without the text search. -/
lemma mentioning_eq : mentioning db workspaceId agentId = db.store.messages.select fun m =>
    visible db workspaceId agentId m &&
      (none : Option FtsQuery).all (fun q => inIndex T db q m.rowid) &&
      (parseMessageMentions m.body).contains (agentName db agentId) := by
  simp [mentioning]

/-- **Without the index, the scan finds the newest mentions.** -/
theorem scanMentions_none (hbatch : 0 < batchSize)
    (hfuel : db.store.messages.rows.length < fuel) :
    scanMentions T db workspaceId agentId (agentName db agentId) none batchSize fuel =
      some (newestMentions db workspaceId agentId) := by
  rw [scanMentions_eq hbatch hfuel, newestMentions, mentioning_eq (T := T)]

/-! ## The scan by the index -/

/-- A message of the workspace that mentions the name is found by the index, where the id of the
workspace has a letter or a digit. -/
lemma inIndex_of_mention {m : MessageRow} {q : FtsQuery} {c : Char}
    (hindexed : db.store.indexed m.rowid = some m.indexedText)
    (hquery : mentionFtsMatch workspaceId (mentionTokens name) = some q)
    (hworkspace : m.workspaceId = workspaceId) (hc : c ∈ workspaceId) (halpha : c.isAlphanum = true)
    (hname : name ∈ parseMessageMentions m.body) : inIndex T db q m.rowid = true := by
  have hbody := matches_of_mentioned T hname hquery
  obtain ⟨-, -, -, rfl⟩ := mentionFtsMatch_some hquery
  rw [inIndex, hindexed, Option.any_some, Bool.and_eq_true]
  refine ⟨?_, hbody⟩
  rw [MessageRow.indexedText, hworkspace]
  exact hasPhrase_self (Tokenizer.tokens_ne_nil hc halpha)

/-- No message is found by the index for a workspace whose id has neither letters nor digits. -/
lemma not_inIndex {q : FtsQuery} {rowid : ℕ}
    (hquery : mentionFtsMatch workspaceId (mentionTokens name) = some q)
    (hworkspace : ∀ c ∈ workspaceId, c.isAlphanum = false) : inIndex T db q rowid = false := by
  obtain ⟨-, hhandle, -, rfl⟩ := mentionFtsMatch_some hquery
  have hnone : T.tokens workspaceId = [] := by
    refine Tokenizer.tokens_eq_nil fun c hc => ascii_of_separatesWords ?_
    have hchar := List.all_eq_true.mp ((Bool.and_eq_true _ _).mp hhandle).2 c hc
    exact (separatesWords_or hchar).resolve_right (by simp [hworkspace c hc])
  rw [inIndex, hnone]
  cases db.store.indexed rowid <;> simp [hasPhrase]

/-- By the index as well, where it finds every mention there is. -/
lemma scanMentions_of_found (hbatch : 0 < batchSize)
    (hfuel : db.store.messages.rows.length < fuel)
    (hfound : ∀ m ∈ mentioning db workspaceId agentId,
      query.all (fun q => inIndex T db q m.rowid) = true) :
    scanMentions T db workspaceId agentId (agentName db agentId) query batchSize fuel =
      some (newestMentions db workspaceId agentId) := by
  have hsame : (db.store.messages.select fun m => visible db workspaceId agentId m &&
      query.all (fun q => inIndex T db q m.rowid) &&
      (parseMessageMentions m.body).contains (agentName db agentId)) =
      mentioning db workspaceId agentId := by
    refine List.filter_congr fun m hm => ?_
    by_cases hmention : (visible db workspaceId agentId m &&
        (parseMessageMentions m.body).contains (agentName db agentId)) = true
    · have hall := hfound m (Table.mem_select.mpr ⟨hm, hmention⟩)
      rw [hall, Bool.and_true]
    · rw [Bool.and_right_comm, Bool.eq_false_of_not_eq_true hmention, Bool.false_and]
  rw [scanMentions_eq hbatch hfuel, hsame, newestMentions]

lemma newestMentions_eq_nil : newestMentions db workspaceId agentId = [] ↔
    mentioning db workspaceId agentId = [] := by
  rw [newestMentions, List.map_eq_nil_iff, firstRows, List.take_eq_nil_iff,
    ← List.length_eq_zero_iff, List.length_insertionSort, List.length_eq_zero_iff]
  exact or_iff_right (by decide)

/-- **The mentions of the inbox are the newest mentions exactly if the index is not asked, can tell
the workspace, or there are no mentions to be found.** -/
theorem inboxMentions_iff (T : Tokenizer) {db : MentionDb} {backfills : List Backfill}
    (hreach : MentionReachable ⟨db.store, backfills⟩) (workspaceId : List Char) (agentId : String) :
    (∀ batchSize, 0 < batchSize → ∃ n, ∀ fuel, n < fuel →
      inboxMentions T db workspaceId agentId batchSize fuel =
        some (newestMentions db workspaceId agentId)) ↔
    db.store.ready = false ∨
      mentionFtsMatch workspaceId (mentionTokens (agentName db agentId)) = none ∨
      (∃ c ∈ workspaceId, c.isAlphanum = true) ∨ mentioning db workspaceId agentId = [] := by
  constructor
  · intro h
    by_contra hnot
    simp only [not_or, not_exists, not_and, Bool.not_eq_true, Bool.not_eq_false] at hnot
    obtain ⟨hready, hquery, hworkspace, hmentioning⟩ := hnot
    obtain ⟨q, hquery⟩ := Option.ne_none_iff_exists'.mp hquery
    -- a batch finds nothing, though somebody mentions the agent
    obtain ⟨n, hn⟩ := h 1 Nat.one_pos
    have hscan := hn (n + db.store.messages.rows.length + 1) (by omega)
    obtain ⟨m, hm⟩ := List.exists_mem_of_ne_nil _ hmentioning
    have hname : agentName db agentId ∈ parseMessageMentions m.body := by
      have hboth := (Table.mem_select.mp hm).2
      exact List.contains_iff_mem.mp ((Bool.and_eq_true _ _).mp hboth).2
    have hnone : (db.store.messages.select fun m => visible db workspaceId agentId m &&
        (some q).all (fun q => inIndex T db q m.rowid) &&
        (parseMessageMentions m.body).contains (agentName db agentId)) = [] := by
      refine List.filter_eq_nil_iff.mpr fun m _ => ?_
      have hmiss : inIndex T db q m.rowid = false := not_inIndex hquery hworkspace
      simp [hmiss]
    rw [inboxMentions, if_pos (names_of_mentioned hname).isHandle, hready, if_pos rfl, hquery,
      scanMentions_eq Nat.one_pos (by omega), hnone, Option.some.injEq] at hscan
    exact hmentioning (newestMentions_eq_nil.mp hscan.symm)
  · intro hcondition batchSize hbatch
    refine ⟨db.store.messages.rows.length, fun fuel hfuel => ?_⟩
    unfold inboxMentions
    by_cases hhandle : isHandle (agentName db agentId) = true
    · rw [if_pos hhandle]
      refine scanMentions_of_found hbatch hfuel fun m hm => ?_
      cases hquery : (if db.store.ready = true then
        mentionFtsMatch workspaceId (mentionTokens (agentName db agentId)) else none) with
      | none => rfl
      | some q =>
        rw [Option.ite_none_right_eq_some] at hquery
        obtain ⟨hready, hquery⟩ := hquery
        rcases hcondition with hnot | hnone | ⟨c, hc, halpha⟩ | hnil
        · rw [hready] at hnot
          cases hnot
        · rw [hquery] at hnone
          cases hnone
        · obtain ⟨hmem, hboth⟩ := Table.mem_select.mp hm
          obtain ⟨hvisible, hmention⟩ := (Bool.and_eq_true _ _).mp hboth
          simp only [visible, Bool.and_eq_true, beq_iff_eq] at hvisible
          exact inIndex_of_mention (indexed_of_ready hreach hready hmem) hquery hvisible.1.1.1 hc
            halpha (List.contains_iff_mem.mp hmention)
        · rw [hnil] at hm
          exact absurd hm List.not_mem_nil
    · rw [if_neg hhandle, Option.some.injEq]
      refine (newestMentions_eq_nil.mpr (List.filter_eq_nil_iff.mpr fun m _ hm => ?_)).symm
      have hname := List.contains_iff_mem.mp ((Bool.and_eq_true _ _).mp hm).2
      exact hhandle (names_of_mentioned hname).isHandle

end Scan

/-! ## Examples -/

/-- A tokenizer for ASCII. -/
def asciiTokenizer : Tokenizer where
  starts := Char.isAlphanum
  continues := Char.isAlphanum
  fold c := [c.toLower]
  continues_of_starts _ h := h
  starts_of_isAlphanum _ h := h
  not_continues_of_ascii _ _ h := h

/-- A message to Alice. -/
def helloAlice (workspaceId : List Char) : MessageRow where
  rowid := 1
  id := ['4', '2']
  workspaceId := workspaceId
  channelId := "c"
  agentId := "b"
  body := ['h', 'i', ' ', '@', 'a', 'l', 'i', 'c', 'e']
  createdAt := 0
  rowid_pos := by decide
  decimal := ⟨by decide, List.all_eq_true.mp (by decide), by decide⟩

/-- A workspace in which Bob has written to Alice, in a channel of both. -/
def helloDb (workspaceId : List Char) : MentionDb where
  store := (MentionSystem.migrated .empty).store.insertMessage (helloAlice workspaceId) rfl
  channels := ⟨[⟨"c", "general", 0, false⟩], List.pairwise_singleton _ _⟩
  agents := ⟨[⟨"a", "alice"⟩, ⟨"b", "bob"⟩], by decide⟩
  channelMembers := ⟨[⟨"c", "a"⟩], List.pairwise_singleton _ _⟩
  dmConversations := .empty
  dmParticipants := .empty
  ownChannel := .nil

lemma reachable_helloDb (workspaceId : List Char) :
    MentionReachable ⟨(helloDb workspaceId).store, []⟩ :=
  .step (.migrated .empty) (.insert (.migrated .empty) (helloAlice workspaceId) rfl)

theorem inboxMentions_helloDb : ∃ n, ∀ fuel, n < fuel →
    inboxMentions asciiTokenizer (helloDb ['7']) ['7'] "a" MENTION_BATCH fuel =
      some (newestMentions (helloDb ['7']) ['7'] "a") :=
  (inboxMentions_iff asciiTokenizer (reachable_helloDb ['7']) ['7'] "a").mpr
    (.inr (.inr (.inl ⟨'7', by decide, by decide⟩))) MENTION_BATCH (by decide)

/-- In a workspace whose id is dashes the index is ready and does not find the mention that the scan
without it finds. -/
theorem mention_missed_dashes :
    MentionReachable ⟨(helloDb ['-', '-']).store, []⟩ ∧ (helloDb ['-', '-']).store.ready = true ∧
      inboxMentions asciiTokenizer (helloDb ['-', '-']) ['-', '-'] "a" MENTION_BATCH 2 = some [] ∧
      scanMentions asciiTokenizer (helloDb ['-', '-']) ['-', '-'] "a" "alice".toList none
        MENTION_BATCH 2 =
        some [⟨['4', '2'], "general", "bob", (helloAlice ['-', '-']).body, 0⟩] := by
  refine ⟨reachable_helloDb _, by decide, ?_, ?_⟩
  · decide
  · decide

end Inbox
