import Relaycast.Coding.Decimal
import Relaycast.Relational.Aggregate
import Relaycast.Relational.Chunks
import Relaycast.Relational.Table
import Mathlib.Data.List.Lex
import Mathlib.Data.Char

/-!
# The unread direct messages of an inbox

The part of `getInbox` on direct messages: the conversations of an agent with messages behind its
read cursor, and of each of them the last message.  The ids of messages are decimal texts without
padding. What is behind the cursor is asked for by length and text; the last message is the greatest
text of the channel.
-/

namespace Inbox

open Relational

abbrev Text := List Char

/-! ## Tables -/

/-- A row of `messages`. -/
structure Message where
  id : Text
  channelId : String
  agentId : String
  body : String
  createdAt : ℕ
  deriving DecidableEq

instance : Keyed Message where
  Key := Text
  key m := m.id
  clash k k' := k == k'
  clash_comm _ _ := BEq.comm

/-- A row of `dm_conversations`. -/
structure DmConversation where
  id : String
  workspaceId : String
  channelId : String
  deriving DecidableEq

instance : Keyed DmConversation where
  Key := String
  key c := c.id
  clash k k' := k == k'
  clash_comm := text_clash_comm

/-- A row of `dm_participants`. -/
structure DmParticipant where
  conversationId : String
  agentId : String
  leftAt : Option ℕ
  lastReadId : Option Text
  deriving DecidableEq

instance : Keyed DmParticipant where
  Key := String × String
  key p := (p.conversationId, p.agentId)
  clash k k' := k == k'
  clash_comm := texts_clash_comm

/-- A row of `agents`. -/
structure Agent where
  id : String
  name : String
  deriving DecidableEq

instance : Keyed Agent where
  Key := String
  key a := a.id
  clash k k' := k == k'
  clash_comm := text_clash_comm

/-- The tables. -/
structure Db where
  messages : Table Message
  dmConversations : Table DmConversation
  dmParticipants : Table DmParticipant
  agents : Table Agent

/-! ## The statements -/

/-- `messageAfterCursor`. -/
def messageAfterCursor (id : Text) (cursor : Option Text) : Bool :=
  match cursor with
  | none => true
  | some cursor => cursor.length < id.length ∨ id.length = cursor.length ∧ cursor < id

section Statements

variable (db : Db) (agentId : String)

/-- The messages that are joined to a conversation: those of others, behind the cursor of the agent.
-/
def unreadMessages (dc : DmConversation) : List Message :=
  (db.dmParticipants.select fun dp =>
    dp.conversationId == dc.id && dp.agentId == agentId && dp.leftAt.isNone).flatMap fun dp =>
      db.messages.select fun m =>
        m.channelId == dc.channelId && m.agentId != agentId && messageAfterCursor m.id dp.lastReadId

/-- A row of the first statement. -/
structure UnreadDmRow where
  conversationId : String
  channelId : String
  unreadCount : ℕ
  deriving DecidableEq

/-- `unreadDmRows`: one group for each conversation. -/
def unreadDmRows (workspaceId : String) : List UnreadDmRow :=
  db.dmConversations.rows.filterMap fun dc =>
    let unread := unreadMessages db agentId dc
    if dc.workspaceId = workspaceId ∧ 0 < unread.length then
      some ⟨dc.id, dc.channelId, unread.length⟩
    else none

/-- The others of the given conversations, by conversation. -/
def otherParticipants (ids : List String) : List (String × String) :=
  (db.dmParticipants.select fun dp =>
    ids.contains dp.conversationId && dp.agentId != agentId && dp.leftAt.isNone).flatMap fun dp =>
      (db.agents.select (·.id == dp.agentId)).map fun a => (dp.conversationId, a.name)

/-- `SELECT channel_id, max(id) … GROUP BY channel_id`, of the given channels. -/
def latestMessageIds (ids : List String) : List (String × Option Text) :=
  let rows := db.messages.select fun m => ids.contains m.channelId
  (rows.map (·.channelId)).dedup.map fun channelId =>
    (channelId, sqlMax ((rows.filter (·.channelId = channelId)).map fun m => some m.id))

/-- The messages with the given ids. -/
def messagesWithIds (ids : List Text) : List Message := db.messages.select fun m => ids.contains m.id

end Statements

/-! ## The inbox -/

/-- `D1_SAFE_IN_QUERY_CHUNK_SIZE`. -/
def D1_SAFE_IN_QUERY_CHUNK_SIZE : ℕ := 90

/-- `queryInChunks`. -/
def queryInChunks {α β : Type} (values : List α) (query : List α → List β) : List β :=
  inSlices D1_SAFE_IN_QUERY_CHUNK_SIZE values query

/-- The last message of a conversation as it is reported. -/
structure LastMessage where
  id : Text
  text : String
  createdAt : String
  deriving DecidableEq

/-- An entry of `unread_dms`. -/
structure UnreadDm where
  conversationId : String
  sender : String
  unreadCount : ℕ
  lastMessage : Option LastMessage
  deriving DecidableEq

/-- `new Map(entries).get(key)`: of the entries with one key the last one counts. -/
def mapGet {α β : Type} [DecidableEq α] (entries : List (α × β)) (k : α) : Option β :=
  ((entries.filter fun e => e.1 = k).getLast?).map Prod.snd

/-- The unread direct messages of `getInbox`, with the text of a time. -/
def unreadDms (toISOString : ℕ → String) (db : Db) (workspaceId agentId : String) :
    List UnreadDm :=
  let rows := unreadDmRows db agentId workspaceId
  let others := queryInChunks (rows.map (·.conversationId)) (otherParticipants db agentId)
  let latest := queryInChunks (rows.map (·.channelId)) (latestMessageIds db)
  -- `filter(Boolean)` drops null and the empty text
  let lastIds := latest.filterMap fun row => row.2.filter (· ≠ [])
  let lastMessages := queryInChunks lastIds (messagesWithIds db)
  let lastMessageByChannel := lastMessages.map fun m => (m.channelId, m)
  rows.map fun row =>
    { conversationId := row.conversationId
      -- the first of the others is kept
      sender := ((others.find? (·.1 = row.conversationId)).map Prod.snd).getD "unknown"
      unreadCount := row.unreadCount
      lastMessage := (mapGet lastMessageByChannel row.channelId).map fun m =>
        ⟨m.id, m.body, toISOString m.createdAt⟩ }

end Inbox
