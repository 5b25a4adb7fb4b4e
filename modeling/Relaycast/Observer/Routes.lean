import Mathlib.Data.List.Basic
import Relaycast.Dm.Conversation
import Relaycast.Observer.Wire

/-!
# Routes that publish events about messages

The routes of one workspace that store a message, a reaction or a read receipt, with the event each
of them publishes.  A message goes to the channel of that name, to the channel of its parent, or to
the channel of a conversation; the channels of direct messages have their names in the same
namespace as all others.  The event of a reply, a reaction or a receipt carries the id of the
conversation that stands on the channel of the message; the event of a message posted to a channel
by name does not look for one.

The text of a message is in the event; no route here reads the stored body back, so the row goes
without it.  Names and ids of channels never change, so the cache in front of the channel table is
left out.
-/

namespace Observer

open Script Relational

/-! ## Tables -/

/-- A generated id: a decimal number. -/
structure GeneratedId where
  value : String
  digits : value.toList.all Char.isDigit = true
  nonempty : value ≠ ""

/-- A row of `messages`. -/
structure Message where
  id : String
  channelId : String
  agentId : String
  threadId : Option String

instance : Keyed Message where
  Key := String
  key m := m.id
  clash k k' := k == k'
  clash_comm := text_clash_comm

/-- A row of `channel_members`. -/
structure Member where
  channelId : String
  agentId : String

instance : Keyed Member where
  Key := String × String
  key m := (m.channelId, m.agentId)
  clash k k' := k == k'
  clash_comm := texts_clash_comm

/-- The tables of a workspace. -/
structure Store where
  channels : Table Dm.Channel
  conversations : Table Dm.Conversation
  participants : Table Dm.Participant
  members : Table Member
  messages : Table Message

/-- The workspace before anything happened in it. -/
def Store.empty : Store := ⟨.empty, .empty, .empty, .empty, .empty⟩

namespace Store

variable (s : Store)

/-- `SELECT … FROM channels WHERE name = ?`. -/
def channel? (name : String) : Option Dm.Channel := s.channels.rows.find? (·.name == name)

/-- `SELECT … FROM channels WHERE id = ?`. -/
def channelById? (id : String) : Option Dm.Channel := s.channels.rows.find? (·.id == id)

/-- `SELECT … FROM messages WHERE id = ?`. -/
def message? (id : String) : Option Message := s.messages.rows.find? (·.id == id)

/-- `SELECT … FROM dm_conversations WHERE channel_id = ?`. -/
def conversationOn? (channelId : String) : Option Dm.Conversation :=
  s.conversations.rows.find? (·.channelId == channelId)

/-- `SELECT … FROM dm_conversations WHERE id = ?`. -/
def conversation? (id : String) : Option Dm.Conversation :=
  s.conversations.rows.find? (·.id == id)

/-- Does the agent take part in the conversation, and has not left? -/
def participates (conversationId agentId : String) : Bool :=
  s.participants.rows.any fun p =>
    p.conversationId == conversationId && p.agentId == agentId && !p.left

/-- Is the channel one of direct messages? -/
def isDm (channelId : String) : Bool :=
  (s.channelById? channelId).any (·.channelType != 0)

/-- `INSERT INTO messages`; a taken id fails. -/
def insertMessage (m : Message) : Option Store :=
  if s.messages.conflicts m then none
  else some { s with messages := s.messages.insertOrIgnore m }

end Store

/-! ## Requests -/

/-- The agent a request is authenticated as. -/
structure Agent where
  id : String
  name : String

/-- A message to be posted, with the id and the times it will get. -/
structure Post where
  id : String
  agent : Agent
  text : String
  blocks : Value
  attachments : List Value
  data : Record
  mode : Option String
  senderAddress : Option String
  createdAt : String
  timestamp : String

/-- What the routes are asked for. -/
inductive Request
  | createChannel (id : GeneratedId) (name : String)
  | joinChannel (name : String) (agent : Agent)
  | insertDmChannel (pairKey : String)
  | insertDmConversation (pairKey : String) (fromAgentId toAgentId : String)
  | createGroupDm (conversationId channelId : GeneratedId) (participants : List String)
  | addParticipant (conversationId agentId inviteeId : String)
  | removeParticipant (conversationId agentId : String)
  | postMessage (channelName : String) (post : Post)
  | postReply (parentId : String) (post : Post)
  | sendDm (pairKey recipient : String) (post : Post)
  | postGroupMessage (conversationId : String) (post : Post)
  | addReaction (messageId emoji : String) (agent : Agent) (reactionId createdAt timestamp : String)
  | removeReaction (messageId emoji : String) (agent : Agent) (timestamp : String)
  | markRead (messageId : String) (agent : Agent) (readAt timestamp : String)

/-- An event that was published, and the message it is about. -/
structure Published where
  message : Message
  event : Record

/-- What a route leaves: the tables, and the event if it published one. -/
abbrev Outcome := Store × List Published

/-! ## Data of the events -/

def sanitizeUserMessageMetadata (metadata : Record) : Record :=
  metadata.filter fun field => !startsWith field.1 "__relaycast_"

/-- `...(conversation ? { conversation_id: conversation.id } : {})`. -/
def conversationField (conversation : Option Dm.Conversation) : Record :=
  Record.given conversation.isSome
    [("conversation_id", conversation.elim .undefined fun c => .str c.id)]

namespace Post

variable (post : Post)

/-- The row that is inserted. -/
def row (channelId : String) (threadId : Option String) : Message :=
  ⟨post.id, channelId, post.agent.id, threadId⟩

/-- `data.mode ?? 'wait'`. -/
def injectionMode : Value := .str (post.mode.getD "wait")

def publicMetadata : Value := .obj (sanitizeUserMessageMetadata post.data)

/-- The metadata of a direct message say how it is injected. -/
def dmMetadata : Value :=
  .obj (sanitizeUserMessageMetadata post.data ++ [("injection_mode", post.injectionMode)])

/-- `senderAddressField`, and the address a reply and a direct message store. -/
def senderAddressField : Record :=
  Record.given post.senderAddress.isSome
    [("agent_address", post.senderAddress.elim .undefined .str)]

/-- What `postMessage` returns, under the names of the channel and the sender. -/
def messageCreatedData (mentions : String → List String) (channel : Dm.Channel) : Record :=
  [("id", .str post.id),
    ("channel_id", .str channel.id),
    ("agent_id", .str post.agent.id),
    ("agent_name", .str post.agent.name),
    ("text", .str post.text),
    ("blocks", post.blocks.orElse .null),
    ("metadata", post.publicMetadata),
    ("has_attachments", .bool !post.attachments.isEmpty),
    ("thread_id", .null),
    ("created_at", .str post.createdAt),
    ("mentions", .arr ((mentions post.text).map .str)),
    ("attachments", .arr post.attachments),
    ("injection_mode", post.injectionMode)] ++
  [("channel_name", .str channel.name),
    ("from_name", .str post.agent.name),
    ("injection_mode", post.injectionMode)]

/-- What `postReply` returns, under the names of the channel and the sender. -/
def threadReplyData (channel : Option Dm.Channel) (channelId threadId : String)
    (conversation : Option Dm.Conversation) : Record :=
  [("id", .str post.id),
    ("channel_id", .str channelId),
    ("channel_name", channel.elim .undefined fun c => .str c.name)] ++
  conversationField conversation ++
  [("agent_id", .str post.agent.id),
    ("agent_name", .str post.agent.name)] ++
  post.senderAddressField ++
  [("thread_id", .str threadId),
    ("text", .str post.text),
    ("blocks", post.blocks.orElse .null),
    ("metadata", post.publicMetadata),
    ("has_attachments", .bool false),
    ("created_at", .str post.createdAt)] ++
  [("channel_name", .str (channel.elim "" (·.name))),
    ("from_name", .str post.agent.name)]

/-- The message of a direct message's result. -/
def dmMessage (address : Record) : Value :=
  .obj ([("id", .str post.id),
      ("agent_id", .str post.agent.id),
      ("agent_name", .str post.agent.name)] ++ address ++
    [("text", .str post.text),
      ("injection_mode", post.injectionMode),
      ("attachments", .arr post.attachments),
      ("metadata", post.dmMetadata)])

/-- What `sendDm` and `postGroupMessage` return: the message, and its fields once more in the
older form.  `sender` is what the older form says of the sender and the recipient. -/
def dmReceivedData (conversationId : String) (message : Value) (sender : Record) : Record :=
  [("conversation_id", .str conversationId),
    ("message", message),
    ("created_at", .str post.createdAt),
    ("id", .str post.id)] ++ sender ++
  [("text", .str post.text),
    ("injection_mode", post.injectionMode),
    ("attachments", .arr post.attachments),
    ("metadata", post.dmMetadata)] ++
  [("from_name", .str post.agent.name)]

end Post

/-- What an added reaction publishes. -/
def addedReactionData (messageId emoji : String) (agent : Agent) (reactionId createdAt : String)
    (channel : Option Dm.Channel) (conversation : Option Dm.Conversation) : Record :=
  [("id", .str reactionId),
    ("message_id", .str messageId),
    ("agent_name", .str agent.name),
    ("emoji", .str emoji),
    ("created_at", .str createdAt)] ++
  [("channel_name", channel.elim .undefined fun c => .str c.name)] ++
  conversationField conversation ++
  [("agent_id", .str agent.id),
    ("agent_name", .str agent.name),
    ("action", .str "added")]

/-- What a removed reaction publishes. -/
def removedReactionData (messageId emoji : String) (agent : Agent) (channel : Dm.Channel)
    (conversation : Option Dm.Conversation) : Record :=
  [("message_id", .str messageId),
    ("emoji", .str emoji),
    ("agent_id", .str agent.id),
    ("agent_name", .str agent.name),
    ("action", .str "removed")] ++
  [("channel_name", .str channel.name)] ++ conversationField conversation

/-- What a read receipt publishes. -/
def readData (messageId : String) (agent : Agent) (readAt : String)
    (conversation : Option Dm.Conversation) : Record :=
  [("message_id", .str messageId),
    ("agent_id", .str agent.id),
    ("read_at", .str readAt)] ++
  [("agent_name", .str agent.name)] ++ conversationField conversation

/-! ## Routes -/

section Routes

variable (eventId : Option String → String) (mentions : String → List String)

/-- `publishEvent`: reshape the event for clients. -/
def publishEvent (type : String) (channelId : Option String) (data : Record)
    (timestamp : String) : Record :=
  transformForClient eventId ⟨type, channelId, data, timestamp⟩

variable (s : Store)

/-- `POST /channels/:name/messages`. -/
def postMessage (channelName : String) (post : Post) : Option Outcome := do
  let channel ← s.channel? channelName
  let row := post.row channel.id none
  let s' ← s.insertMessage row
  some (s', [⟨row, publishEvent eventId "message.created" channel.id
    (post.messageCreatedData mentions channel) post.timestamp⟩])

/-- `POST /messages/:id/replies`.  A reply to a reply goes to the root of the thread. -/
def postReply (parentId : String) (post : Post) : Option Outcome := do
  let parent ← s.message? parentId
  let threadId := parent.threadId.getD parent.id
  let row := post.row parent.channelId threadId
  let s' ← s.insertMessage row
  some (s', [⟨row, publishEvent eventId "thread.reply" parent.channelId
    (post.threadReplyData (s.channelById? parent.channelId) parent.channelId threadId
      (s.conversationOn? parent.channelId)) post.timestamp⟩])

/-- `POST /dm`, once the conversation of the pair is resolved. -/
def sendDm (pairKey recipient : String) (post : Post) : Option Outcome := do
  let conv ← s.conversation? ("dm_" ++ pairKey)
  let row := post.row conv.channelId none
  let s' ← s.insertMessage row
  some (s', [⟨row, publishEvent eventId "dm.received" none
    (post.dmReceivedData conv.id (post.dmMessage post.senderAddressField)
      [("from_agent_id", .str post.agent.id), ("to", .str recipient)]) post.timestamp⟩])

/-- `POST /dm/:conversation_id/messages`. -/
def postGroupMessage (conversationId : String) (post : Post) : Option Outcome :=
  if s.participates conversationId post.agent.id then do
    let conv ← s.conversation? conversationId
    let row := post.row conv.channelId none
    let s' ← s.insertMessage row
    some (s', [⟨row, publishEvent eventId "group_dm.received" none
      (post.dmReceivedData conversationId (post.dmMessage []) [("agent_id", .str post.agent.id)])
      post.timestamp⟩])
  else none

/-- The channel a reaction is fanned out to: none for a direct message, which goes to its
participants. -/
def reactionScope (channelId : String) (conversation : Option Dm.Conversation) : Option String :=
  if conversation.isSome then none else some channelId

/-- `POST /messages/:id/reactions`. -/
def addReaction (messageId emoji : String) (agent : Agent)
    (reactionId createdAt timestamp : String) : Option Outcome := do
  let msg ← s.message? messageId
  let conversation := s.conversationOn? msg.channelId
  some (s, [⟨msg, publishEvent eventId "message.reacted"
    (reactionScope msg.channelId conversation)
    (addedReactionData messageId emoji agent reactionId createdAt (s.channelById? msg.channelId)
      conversation) timestamp⟩])

/-- `DELETE /messages/:id/reactions/:emoji`. -/
def removeReaction (messageId emoji : String) (agent : Agent) (timestamp : String) :
    Option Outcome := do
  let msg ← s.message? messageId
  let channel ← s.channelById? msg.channelId
  let conversation := s.conversationOn? msg.channelId
  some (s, [⟨msg, publishEvent eventId "message.reacted"
    (reactionScope msg.channelId conversation)
    (removedReactionData messageId emoji agent channel conversation) timestamp⟩])

/-- May the agent mark messages of the channel as read? -/
def Store.reads (channelId agentId : String) : Bool :=
  (s.members.rows.any fun m => m.channelId == channelId && m.agentId == agentId) ||
    s.conversations.rows.any fun c => c.channelId == channelId && s.participates c.id agentId

/-- `POST /messages/:id/read`. -/
def markRead (messageId : String) (agent : Agent) (readAt timestamp : String) :
    Option Outcome := do
  let msg ← s.message? messageId
  if s.reads msg.channelId agent.id then
    some (s, [⟨msg, publishEvent eventId "message.read" msg.channelId
      (readData messageId agent readAt (s.conversationOn? msg.channelId)) timestamp⟩])
  else none

/-- `createChannel`, after the checks of its name. -/
def createChannel (id : GeneratedId) (name : String) : Option Outcome :=
  if s.channels.conflicts ⟨id.value, name, 0⟩ then none
  else some ({ s with channels := s.channels.insertOrIgnore ⟨id.value, name, 0⟩ }, [])

def joinChannel (name : String) (agent : Agent) : Option Outcome := do
  let channel ← s.channel? name
  some ({ s with members := s.members.insertOrIgnore ⟨channel.id, agent.id⟩ }, [])

/-- The first insert of `resolveConversation`. -/
def insertDmChannel (pairKey : String) : Outcome :=
  ({ s with
    channels := s.channels.insertOrIgnore ⟨"dmch_" ++ pairKey, "dm-" ++ pairKey, 1⟩ }, [])

/-- A participant is stored, or comes back. -/
def Store.rejoin (conversationId agentId : String) : Store :=
  { s with
    participants :=
      (s.participants.insertOrIgnore ⟨conversationId, agentId, false⟩).update
        (fun p => p.conversationId == conversationId && p.agentId == agentId)
        (fun p => { p with left := false }) (Dm.Participant.key_left false) }

/-- The further inserts of `resolveConversation`; the conversation refers to its channel. -/
def insertDmConversation (pairKey fromAgentId toAgentId : String) : Option Outcome := do
  let _ ← s.channelById? ("dmch_" ++ pairKey)
  let conversations :=
    s.conversations.insertOrIgnore ⟨"dm_" ++ pairKey, "dmch_" ++ pairKey, "1:1"⟩
  let s' := { s with conversations := conversations }
  some ((s'.rejoin ("dm_" ++ pairKey) fromAgentId).rejoin ("dm_" ++ pairKey) toAgentId, [])

/-- `createGroupDm`: all rows or none. -/
def createGroupDm (conversationId channelId : GeneratedId) (participants : List String) :
    Option Outcome :=
  let channel : Dm.Channel := ⟨channelId.value, "group-dm-" ++ conversationId.value, 2⟩
  let conversation : Dm.Conversation := ⟨conversationId.value, channelId.value, "group"⟩
  if s.channels.conflicts channel || s.conversations.conflicts conversation then none
  else
    some (participants.foldl (fun s agentId => s.rejoin conversationId.value agentId)
      { s with
        channels := s.channels.insertOrIgnore channel
        conversations := s.conversations.insertOrIgnore conversation }, [])

def addParticipant (conversationId agentId inviteeId : String) : Option Outcome :=
  if s.participates conversationId agentId then some (s.rejoin conversationId inviteeId, [])
  else none

def removeParticipant (conversationId agentId : String) : Option Outcome :=
  if s.participates conversationId agentId then
    some ({ s with
      participants := s.participants.update
        (fun p => p.conversationId == conversationId && p.agentId == agentId)
        (fun p => { p with left := true }) (Dm.Participant.key_left true) }, [])
  else none

/-- What a request does, if it succeeds. -/
def handle : Request → Option Outcome
  | .createChannel id name => createChannel s id name
  | .joinChannel name agent => joinChannel s name agent
  | .insertDmChannel pairKey => insertDmChannel s pairKey
  | .insertDmConversation pairKey a b => insertDmConversation s pairKey a b
  | .createGroupDm conversationId channelId participants =>
    createGroupDm s conversationId channelId participants
  | .addParticipant conversationId agentId inviteeId =>
    addParticipant s conversationId agentId inviteeId
  | .removeParticipant conversationId agentId => removeParticipant s conversationId agentId
  | .postMessage channelName post => postMessage eventId mentions s channelName post
  | .postReply parentId post => postReply eventId s parentId post
  | .sendDm pairKey recipient post => sendDm eventId s pairKey recipient post
  | .postGroupMessage conversationId post => postGroupMessage eventId s conversationId post
  | .addReaction messageId emoji agent reactionId createdAt timestamp =>
    addReaction eventId s messageId emoji agent reactionId createdAt timestamp
  | .removeReaction messageId emoji agent timestamp =>
    removeReaction eventId s messageId emoji agent timestamp
  | .markRead messageId agent readAt timestamp =>
    markRead eventId s messageId agent readAt timestamp

/-- What a request leaves; one that fails leaves everything as it was. -/
def step (r : Request) : Outcome := (handle eventId mentions s r).getD (s, [])

end Routes

end Observer
