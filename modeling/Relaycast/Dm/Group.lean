import Relaycast.Dm.Conversation

/-!
# Group conversations

Groups share their tables with direct conversations.  A group is created under generated ids, with
a channel of its own and all of its participants at once; after that its participants are added and
leave one at a time, by the id of the conversation.  Both kinds of conversations are listed and read
by their active participants.

The statements of direct messages are those of `Dm.Stmt`.  Which agent has a name, and which of a
channel's messages are on a page, is for the outside world to say.
-/

namespace Dm

open Relational Interleaving

/-! ## Statements -/

/-- A conversation as a list of them shows it: its last message, and how many there are. -/
structure Listing where
  conversation : Conversation
  participants : List AgentId
  lastMessage : Option Message
  unreadCount : ℕ

namespace Group

/-- The statements of direct messages, of groups, and of the readers of both. -/
inductive Stmt
  | direct (q : Dm.Stmt)
  /-- `generateId()`. -/
  | generateId
  | findAgent (name : String)
  | insertGroup (conversationId : ConversationId) (channelId : ChannelId)
    (participants : List AgentId)
  /-- The participant, unless it has left. -/
  | findActive (conversationId : ConversationId) (agentId : AgentId)
  | findParticipant (conversationId : ConversationId) (agentId : AgentId)
  | rejoin (conversationId : ConversationId) (agentId : AgentId)
  | insertParticipant (conversationId : ConversationId) (agentId : AgentId)
  | leave (conversationId : ConversationId) (agentId : AgentId)
  /-- What a release does to the participants, where its guards let it through. -/
  | release (agentId : AgentId)
  | listMessages (channelId : ChannelId)
  | listConversations (agentId : AgentId)
  | listParticipants (conversationIds : List ConversationId)
  | listChannels (channelIds : List ChannelId)

abbrev Stmt.Answer : Stmt → Type
  | .generateId => ℕ
  | .findAgent _ => Option AgentId
  | .release _ => Bool
  | .listMessages _ => Message → Bool
  | .listChannels _ => List Message → Option Message
  | _ => Unit

abbrev Stmt.Reply : Stmt → Type
  | .direct q => q.Reply
  | .generateId => String
  | .findAgent _ => Option AgentId
  | .insertGroup .. | .insertParticipant .. => Except (List ErrorObject) Unit
  | .findActive .. | .findParticipant .. => Option Participant
  | .rejoin .. | .leave .. | .release _ => Unit
  | .listMessages _ => List Message
  | .listConversations _ => List Conversation
  | .listParticipants _ => List Participant
  | .listChannels _ => List (ChannelId × Option Message × ℕ)

/-- The language of conversations. -/
abbrev lang : Language where
  Stmt := Stmt
  Answer := Stmt.Answer
  Reply := Stmt.Reply

/-- Issue one statement and return its reply. -/
abbrev await (q : Stmt) : Prog lang q.Reply := Prog.ask (L := lang) q

/-- A function on direct messages, among the others. -/
abbrev direct {α : Type} (p : Prog Dm.lang α) : Prog lang α :=
  p.embed (K := lang) Stmt.direct fun _ r => r

end Group

/-- What a violation of a primary key is thrown as. -/
def Driver.keyViolation : Driver → List ErrorObject
  | .betterSqlite3 =>
    [⟨some "SQLITE_CONSTRAINT_PRIMARYKEY",
      "UNIQUE constraint failed: dm_participants.conversation_id, dm_participants.agent_id"⟩]
  | .d1 =>
    [⟨none, "D1_ERROR: UNIQUE constraint failed: dm_participants.conversation_id, " ++
      "dm_participants.agent_id"⟩]

namespace Store

variable (s : Store)

/-- The batch that creates a group.  It is refused as a whole if one of its rows is. -/
def insertGroup (D : Driver) (conversationId : ConversationId) (channelId : ChannelId)
    (participants : List AgentId) : Except (List ErrorObject) Unit × Store :=
  let channel : Channel := ⟨channelId, "group-dm-" ++ conversationId, 2⟩
  let conversation : Conversation := ⟨conversationId, channelId, "group"⟩
  let rows : List Participant := participants.map fun agentId => ⟨conversationId, agentId, false⟩
  if s.channels.conflicts channel || s.conversations.conflicts conversation ||
      rows.any s.participants.conflicts then (.error D.keyViolation, s)
  else
    (.ok (), { s with
      channels := s.channels.insertOrIgnore channel
      conversations := s.conversations.insertOrIgnore conversation
      participants := rows.foldl Table.insertOrIgnore s.participants })

/-- The row of a participant. -/
def participant? (conversationId : ConversationId) (agentId : AgentId) : Option Participant :=
  s.participants.rows.find? fun p => p.conversationId == conversationId && p.agentId == agentId

/-- The participants of a row's key, marked as there or as departed. -/
def setLeft (conversationId : ConversationId) (agentId : AgentId) (left : Bool) : Store :=
  { s with
    participants := s.participants.update
      (fun p => p.conversationId == conversationId && p.agentId == agentId)
      (fun p => { p with left := left }) fun _ => rfl }

/-- A participant who was not there before. -/
def insertParticipant (D : Driver) (conversationId : ConversationId) (agentId : AgentId) :
    Except (List ErrorObject) Unit × Store :=
  let row : Participant := ⟨conversationId, agentId, false⟩
  if s.participants.conflicts row then (.error D.keyViolation, s)
  else if !s.hasConversation conversationId then (.error D.foreignKeyViolation, s)
  else (.ok (), { s with participants := s.participants.insertOrIgnore row })

/-- The conversations an agent is an active participant of. -/
def conversationsOf (agentId : AgentId) : List Conversation :=
  s.conversations.rows.filter fun c =>
    s.participants.rows.any fun p => p.conversationId == c.id && p.agentId == agentId && !p.left

/-- The messages of a channel. -/
def messagesOf (channelId : ChannelId) : List Message :=
  s.messages.filter fun m => m.channelId == channelId

/-- Whom a message of a channel is routed to: the active participants of its conversation. -/
def recipients (channelId : ChannelId) : List AgentId :=
  match s.conversations.rows.find? fun c => c.channelId == channelId with
  | none => []
  | some c =>
    (s.participants.rows.filter fun p => p.conversationId == c.id && !p.left).map (·.agentId)

end Store

namespace Group

/-- Execute one statement. -/
def run (D : Driver) : (q : Stmt) → q.Answer → Store → q.Reply × Store
  | .direct q, _, s => Dm.run D q () s
  | .generateId, n, s => (toString n, s)
  | .findAgent _, agent, s => (agent, s)
  | .insertGroup conversationId channelId participants, _, s =>
    s.insertGroup D conversationId channelId participants
  | .findActive conversationId agentId, _, s =>
    ((s.participant? conversationId agentId).filter (!·.left), s)
  | .findParticipant conversationId agentId, _, s => (s.participant? conversationId agentId, s)
  | .rejoin conversationId agentId, _, s => ((), s.setLeft conversationId agentId false)
  | .insertParticipant conversationId agentId, _, s => s.insertParticipant D conversationId agentId
  | .leave conversationId agentId, _, s => ((), s.setLeft conversationId agentId true)
  | .release agentId, passes, s =>
    let left := s.participants.deleteWhere fun p => passes && p.agentId == agentId
    ((), { s with participants := left })
  | .listMessages channelId, onPage, s => ((s.messagesOf channelId).filter onPage, s)
  | .listConversations agentId, _, s => (s.conversationsOf agentId, s)
  | .listParticipants ids, _, s =>
    (s.participants.rows.filter fun p => ids.contains p.conversationId, s)
  | .listChannels ids, latest, s =>
    (ids.map fun id => (id, (latest (s.messagesOf id)).filter (s.messagesOf id).contains,
      (s.messagesOf id).length), s)

/-- The machine of conversations; nothing else writes these tables. -/
def machine (D : Driver) : Machine lang Store where
  run := run D
  Drift := Empty
  drift d := d.elim

/-! ## Functions -/

def agentNotFound (name : String) : Thrown :=
  .coded ("Agent \"" ++ name ++ "\" not found") "agent_not_found" 404

def notParticipant : Thrown := .coded "Not a participant in this conversation" "forbidden" 403

def conversationNotFound : Thrown := .coded "Conversation not found" "not_found" 404

/-- The ids of the named agents, one after the other. -/
def findAgents : List String → Prog lang (Except Thrown (List AgentId))
  | [] => return .ok []
  | name :: names => do
    let agent : Option AgentId ← await (.findAgent name)
    match agent with
    | none => return .error (agentNotFound name)
    | some agentId => do
      match ← findAgents names with
      | .error e => return .error e
      | .ok agentIds => return .ok (agentId :: agentIds)

/-- `createGroupDm`: the conversation. -/
def createGroupDm (creatorAgentId : AgentId) (participants : List String) :
    Prog lang (Except Thrown Conversation) := do
  match ← findAgents participants with
  | .error e => return .error e
  | .ok agentIds => do
    let conversationId : String ← await .generateId
    let channelId : String ← await .generateId
    let uniqueIds := (creatorAgentId :: agentIds).eraseDups
    let inserted : Except (List ErrorObject) Unit ←
      await (.insertGroup conversationId channelId uniqueIds)
    match inserted with
    | .error chain => return .error (.driver chain)
    | .ok () => return .ok ⟨conversationId, channelId, "group"⟩

/-- `addParticipant`: was it a member already? -/
def addParticipant (conversationId : ConversationId) (agentId : AgentId)
    (inviteeAgentName : String) : Prog lang (Except Thrown Bool) := do
  let requester : Option Participant ← await (.findActive conversationId agentId)
  if requester.isNone then return .error notParticipant
  else do
    let invitee : Option AgentId ← await (.findAgent inviteeAgentName)
    match invitee with
    | none => return .error (agentNotFound inviteeAgentName)
    | some inviteeId => do
      let existing : Option Participant ← await (.findParticipant conversationId inviteeId)
      match existing with
      | some p =>
        if !p.left then return .ok true
        else do
          let _ : Unit ← await (.rejoin conversationId inviteeId)
          return .ok false
      | none => do
        let inserted : Except (List ErrorObject) Unit ←
          await (.insertParticipant conversationId inviteeId)
        match inserted with
        | .error chain => return .error (.driver chain)
        | .ok () => return .ok false

/-- `removeParticipant`. -/
def removeParticipant (conversationId : ConversationId) (agentId : AgentId) :
    Prog lang (Except Thrown Unit) := do
  let participant : Option Participant ← await (.findActive conversationId agentId)
  if participant.isNone then return .error notParticipant
  else do
    let _ : Unit ← await (.leave conversationId agentId)
    return .ok ()

/-- `getDmMessages`. -/
def getDmMessages (conversationId : ConversationId) (agentId : AgentId) :
    Prog lang (Except Thrown (List Message)) := do
  let participant : Option Participant ← await (.findActive conversationId agentId)
  if participant.isNone then return .error notParticipant
  else do
    let conv : Option Conversation ← await (.direct (.getConversation conversationId))
    match conv with
    | none => return .error conversationNotFound
    | some conv => do
      let messages : List Message ← await (.listMessages conv.channelId)
      return .ok messages

/-- The entries of the list, from what was read one after the other. -/
def listings (conversations : List Conversation) (participants : List Participant)
    (channels : List (ChannelId × Option Message × ℕ)) : List Listing :=
  conversations.map fun c =>
    let entry := channels.find? fun entry => entry.1 == c.channelId
    { conversation := c
      participants := (participants.filter fun p => p.conversationId == c.id).map (·.agentId)
      lastMessage := entry.bind fun entry => entry.2.1
      unreadCount := (entry.map fun entry => entry.2.2).getD 0 }

/-- `listConversations`. -/
def listConversations (agentId : AgentId) : Prog lang (List Listing) := do
  let conversations : List Conversation ← await (.listConversations agentId)
  let participants : List Participant ← await (.listParticipants (conversations.map (·.id)))
  let channels : List (ChannelId × Option Message × ℕ) ←
    await (.listChannels (conversations.map (·.channelId)))
  return listings conversations participants channels

/-- The participants of a released agent. -/
def release (agentId : AgentId) : Prog lang Unit := await (.release agentId)

/-! ## The service -/

inductive Call
  | sendDm (fromAgentId toAgentId : AgentId)
  | createGroupDm (creatorAgentId : AgentId) (participants : List String)
  | addParticipant (conversationId : ConversationId) (agentId : AgentId)
    (inviteeAgentName : String)
  | removeParticipant (conversationId : ConversationId) (agentId : AgentId)
  | release (agentId : AgentId)
  | getDmMessages (conversationId : ConversationId) (agentId : AgentId)
  | listConversations (agentId : AgentId)

abbrev Result : Call → Type
  | .sendDm .. | .createGroupDm .. => Except Thrown Conversation
  | .addParticipant .. => Except Thrown Bool
  | .removeParticipant .. => Except Thrown Unit
  | .release _ => Unit
  | .getDmMessages .. => Except Thrown (List Message)
  | .listConversations _ => List Listing

def body (sha256Hex : String → String) (workspaceId : WorkspaceId) :
    (c : Call) → Prog lang (Result c)
  | .sendDm fromAgentId toAgentId => direct (Dm.sendDm sha256Hex workspaceId fromAgentId toAgentId)
  | .createGroupDm creatorAgentId participants => createGroupDm creatorAgentId participants
  | .addParticipant conversationId agentId name => addParticipant conversationId agentId name
  | .removeParticipant conversationId agentId => removeParticipant conversationId agentId
  | .release agentId => release agentId
  | .getDmMessages conversationId agentId => getDmMessages conversationId agentId
  | .listConversations agentId => listConversations agentId

end Group

end Dm
